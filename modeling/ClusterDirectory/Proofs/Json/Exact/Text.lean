import ClusterDirectory.Proofs.Json.Spelling

namespace ClusterDirectory.Json

theorem readUnit_ok {s r : List UInt8} {n : Nat} (read : readUnit s = .ok (n, r)) :
    ∃ u, UnitSpelling u n ∧ s = u ++ r := by
  unfold readUnit at read
  split at read
  · split at read
    · rename_i first second third fourth
      cases read
      exact ⟨_, .mk first second third fourth, rfl⟩
    · cases read
  · cases read

theorem readUnit_append {u : List UInt8} {n : Nat} (spelled : UnitSpelling u n) (r : List UInt8) :
    readUnit (u ++ r) = .ok (n, r) := by
  obtain ⟨first, second, third, fourth⟩ := spelled
  simp only [List.cons_append, List.nil_append, readUnit, first, second, third, fourth]

theorem readLowHalf_ok {high : Nat} {s r : List UInt8} {c : Char}
    (read : readLowHalf high s = .ok (c, r)) :
    ∃ u low, UnitSpelling u low ∧ isLowSurrogate low = true ∧ s = 0x5C :: 0x75 :: (u ++ r) ∧
      c = Char.ofNat ((high - 0xD800) * 0x400 + (low - 0xDC00) + 0x10000) := by
  unfold readLowHalf at read
  split at read
  · cases read
  split at read
  · rename_i backslash
    split at read
    · cases read
    split at read
    · rename_i letter
      split at read
      · cases read
      · rename_i unit
        obtain ⟨u, spelled, rfl⟩ := readUnit_ok unit
        split at read
        · rename_i low
          rw [Except.ok.injEq, Prod.mk.injEq] at read
          exact ⟨u, _, spelled, low, by rw [backslash, letter, read.2], read.1.symm⟩
        · cases read
    · cases read
  · cases read

theorem readEscape_ok {s r : List UInt8} {c : Char} (read : readEscape s = .ok (c, r)) :
    ∃ e, EscapeSpelling e c ∧ s = e ++ r := by
  unfold readEscape at read
  split at read
  · cases read
  split at read
  · rename_i letter
    cases read
    exact ⟨_, .short letter, rfl⟩
  split at read
  · rename_i letter
    subst letter
    split at read
    · cases read
    · rename_i unit
      obtain ⟨u, spelled, rfl⟩ := readUnit_ok unit
      split at read
      · cases read
      rename_i notLow
      split at read
      · rename_i high
        obtain ⟨t, low, second, isLow, rfl, char⟩ := readLowHalf_ok read
        rw [char]
        exact ⟨_, .pair spelled high second isLow, by simp⟩
      · rename_i notHigh
        cases read
        exact ⟨_, .unit spelled (by simpa using notLow) (by simpa using notHigh), rfl⟩
  · cases read

theorem isLowSurrogate_of_high {n : Nat} (high : isHighSurrogate n = true) :
    isLowSurrogate n = false := by
  simp only [isHighSurrogate, Bool.and_eq_true, decide_eq_true_eq] at high
  simp only [isLowSurrogate, Bool.and_eq_false_iff, decide_eq_false_iff_not]
  omega

theorem readEscape_append {e : List UInt8} {c : Char} (escape : EscapeSpelling e c)
    (r : List UInt8) : readEscape (e ++ r) = .ok (c, r) := by
  have letter : shortEscape? 0x75 = none := by decide
  cases escape with
  | short letter => simp only [List.singleton_append, readEscape, letter]
  | unit unit notLow notHigh =>
      simp only [List.cons_append, readEscape, letter, if_pos, readUnit_append unit, notLow,
        notHigh, Bool.false_eq_true, if_false]
  | pair first high second low =>
      simp only [List.cons_append, List.append_assoc, readEscape, letter, if_pos,
        readUnit_append first, isLowSurrogate_of_high high, high, Bool.false_eq_true, if_false,
        readLowHalf, readUnit_append second, low]

theorem closeText_ok {before s r : List UInt8} {word : String} :
    closeText before s = .ok (word, r) ↔ Text.bytes word = before.reverse ∧ s = r := by
  rw [← Text.ofBytes?_eq_some, closeText]
  split
  · rename_i read
    rw [read]
    simp
  · rename_i refused
    rw [refused]
    simp [fail]

theorem readText_ok {before s r : List UInt8} {word : String} :
    readText before s = .ok (word, r) ↔ ∃ body t, BodySpelling body t ∧
      Text.bytes word = before.reverse ++ t ∧ s = body ++ 0x22 :: r := by
  -- each step moves what it reads into `before`, where the bytes of the word are split
  constructor
  · intro read
    fun_induction readText before s with
    | case1 => cases read
    | case2 =>
        obtain ⟨bytes, rfl⟩ := closeText_ok.1 read
        exact ⟨[], [], .nil, by rw [bytes, List.append_nil], rfl⟩
    | case3 => cases read
    | case4 =>
        rename_i escape _ ih
        obtain ⟨e, spelled, rfl⟩ := readEscape_ok escape
        obtain ⟨body, t, more, bytes, rfl⟩ := ih read
        exact ⟨_, _, .escape spelled more, by simp [bytes], by simp⟩
    | case5 => cases read
    | case6 =>
        rename_i notQuote notEscape notControl ih
        obtain ⟨body, t, more, bytes, rfl⟩ := ih read
        exact ⟨_, _, .plain ⟨notQuote, notEscape, notControl⟩ more, by simp [bytes], rfl⟩
  · rintro ⟨body, t, spelled, bytes, rfl⟩
    induction spelled generalizing before with
    | nil =>
        rw [List.nil_append, readText_close, closeText_ok]
        exact ⟨by rw [bytes, List.append_nil], rfl⟩
    | plain plain _ ih =>
        rw [List.cons_append, readText_plain plain]
        exact ih (by simp [bytes])
    | escape escape _ ih =>
        rw [List.cons_append, List.append_assoc, readText_escape (readEscape_append escape _)]
        exact ih (by simp [bytes])

theorem readText_spelled {s r : List UInt8} {word : String} :
    readText [] s = .ok (word, r) ↔ ∃ t, TextSpelling t word ∧ 0x22 :: s = t ++ r := by
  rw [readText_ok]
  constructor
  · rintro ⟨body, t, spelled, bytes, rfl⟩
    rw [List.reverse_nil, List.nil_append] at bytes
    exact ⟨_, .mk (bytes ▸ spelled), by simp⟩
  · rintro ⟨_, ⟨spelled⟩, eq⟩
    exact ⟨_, _, spelled, rfl, by simpa using eq⟩

theorem TextSpelling.quote {t : List UInt8} {word : String} (text : TextSpelling t word) :
    ∃ s, t = 0x22 :: s ∧ ∀ q, readText [] (s ++ q) = .ok (word, q) := by
  obtain @⟨s, _, body⟩ := text
  exact ⟨_, rfl, fun q => readText_spelled.2 ⟨_, .mk body, rfl⟩⟩

theorem passEscape_ok {s r : List UInt8} :
    passEscape s = .ok r ↔ (∃ b c, shortEscape? b = some c ∧ s = b :: r) ∨
      ∃ u n, UnitSpelling u n ∧ s = 0x75 :: (u ++ r) := by
  constructor
  · intro read
    unfold passEscape at read
    split at read
    · cases read
    split at read
    · rename_i letter
      cases read
      exact .inl ⟨_, _, letter, rfl⟩
    split at read
    · rename_i letter
      subst letter
      split at read
      · cases read
      · rename_i unit
        obtain ⟨u, spelled, rfl⟩ := readUnit_ok unit
        cases read
        exact .inr ⟨u, _, spelled, rfl⟩
    · cases read
  · have none : shortEscape? 0x75 = none := by decide
    rintro (⟨b, c, letter, rfl⟩ | ⟨u, n, spelled, rfl⟩)
    · simp only [passEscape, letter]
    · simp only [passEscape, none, if_pos, readUnit_append spelled]

theorem passText_escape {s t : List UInt8} (escape : passEscape s = .ok t) :
    passText (0x5C :: s) = passText t := by
  rw [passText, if_neg (by decide), if_pos rfl]
  split
  · rename_i failed
    cases escape.symm.trans failed
  · rename_i found
    cases escape.symm.trans found
    rfl

theorem passText_ok {s r : List UInt8} :
    passText s = .ok r ↔ ∃ body, LooseBody body ∧ s = body ++ 0x22 :: r := by
  constructor
  · intro read
    fun_induction passText s with
    | case1 => cases read
    | case2 =>
        cases read
        exact ⟨[], .nil, rfl⟩
    | case3 => cases read
    | case4 =>
        rename_i escape _ ih
        obtain ⟨body, more, rfl⟩ := ih read
        rcases passEscape_ok.1 escape with ⟨b, c, letter, rfl⟩ | ⟨u, n, unit, rfl⟩
        · exact ⟨_, .short letter more, rfl⟩
        · exact ⟨_, .unit unit more, by simp⟩
    | case5 => cases read
    | case6 =>
        rename_i notQuote notEscape notControl ih
        obtain ⟨body, more, rfl⟩ := ih read
        exact ⟨_, .plain ⟨notQuote, notEscape, notControl⟩ more, rfl⟩
  · rintro ⟨body, loose, rfl⟩
    induction loose with
    | nil => rw [List.nil_append, passText, if_pos rfl]
    | plain plain _ ih =>
        obtain ⟨notQuote, notEscape, notControl⟩ := plain
        rw [List.cons_append, passText, if_neg notQuote, if_neg notEscape, if_neg notControl, ih]
    | short letter _ ih =>
        rw [List.cons_append, List.cons_append,
          passText_escape (passEscape_ok.2 (.inl ⟨_, _, letter, rfl⟩)), ih]
    | unit unit _ ih =>
        rw [List.cons_append, List.cons_append, List.append_assoc,
          passText_escape (passEscape_ok.2 (.inr ⟨_, _, unit, rfl⟩)), ih]

theorem passText_spelled {s r : List UInt8} :
    passText s = .ok r ↔ ∃ t, LooseText t () ∧ 0x22 :: s = t ++ r := by
  rw [passText_ok]
  constructor
  · rintro ⟨body, loose, rfl⟩
    exact ⟨_, .mk loose, by simp⟩
  · rintro ⟨_, ⟨loose⟩, eq⟩
    exact ⟨_, loose, by simpa using eq⟩

theorem LooseText.quote {t : List UInt8} (text : LooseText t ()) :
    ∃ s, t = 0x22 :: s ∧ ∀ q, passText (s ++ q) = .ok q := by
  obtain ⟨body⟩ := text
  exact ⟨_, rfl, fun q => passText_spelled.2 ⟨_, .mk body, rfl⟩⟩

def quoted (word : String) : List UInt8 := 0x22 :: (Text.bytes word ++ [0x22])

theorem quoted_spelled {word : String} (plain : ∀ b ∈ Text.bytes word, Plain b) :
    TextSpelling (quoted word) word := by
  have body : ∀ {s : List UInt8}, (∀ b ∈ s, Plain b) → BodySpelling s s := by
    intro s plain
    induction s with
    | nil => exact .nil
    | cons b s ih =>
        obtain ⟨first, rest⟩ := List.forall_mem_cons.1 plain
        exact .plain first (ih rest)
  exact .mk (body plain)

end ClusterDirectory.Json
