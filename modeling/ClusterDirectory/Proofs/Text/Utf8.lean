import ClusterDirectory.Text.Utf8

/-!
# Characters as bytes and back

The bytes of a character are read as that character, in front of any bytes (`next_encodeChar`), and
a character is read from no other bytes (`next_some`). So bytes are read as a text exactly when they
are the bytes of that text (`ofBytes?_eq_some`).
-/

namespace ClusterDirectory.Text

namespace Utf8

theorem isContinuation_iff (b : UInt8) :
    isContinuation b = true ↔ 0x80 ≤ b.toNat ∧ b.toNat < 0xC0 := by
  simp [isContinuation, UInt8.le_iff_toNat_le, UInt8.lt_iff_toNat_lt]

theorem isSecondOfThree_iff (a b : UInt8) :
    isSecondOfThree a b = true ↔ isContinuation b = true ∧
      (a.toNat = 0xE0 → 0xA0 ≤ b.toNat) ∧ (a.toNat = 0xED → b.toNat < 0xA0) := by
  simp [isSecondOfThree, UInt8.le_iff_toNat_le, UInt8.lt_iff_toNat_lt, ← UInt8.toNat_inj,
    and_assoc, Decidable.imp_iff_not_or]

theorem isSecondOfFour_iff (a b : UInt8) :
    isSecondOfFour a b = true ↔ isContinuation b = true ∧
      (a.toNat = 0xF0 → 0x90 ≤ b.toNat) ∧ (a.toNat = 0xF4 → b.toNat < 0x90) := by
  simp [isSecondOfFour, UInt8.le_iff_toNat_le, UInt8.lt_iff_toNat_lt, ← UInt8.toNat_inj,
    and_assoc, Decidable.imp_iff_not_or]

theorem next_of_one {a : UInt8} (low : a.toNat < 0x80) (s : List UInt8) :
    next a s = (some (Char.ofNat a.toNat), s) := by
  simp only [next, if_pos (UInt8.lt_iff_toNat_lt.2 low : a < 0x80)]

theorem next_of_two {a b : UInt8} (lead : 0xC2 ≤ a.toNat ∧ a.toNat < 0xE0)
    (second : isContinuation b = true) (s : List UInt8) :
    next a (b :: s) = (some (Char.ofNat ((a.toNat - 0xC0) * 64 + payload b)), s) := by
  have one : ¬ a < 0x80 := by rw [UInt8.lt_iff_toNat_lt]; simp; omega
  have least : ¬ a < 0xC2 := by rw [UInt8.lt_iff_toNat_lt]; simp; omega
  have two : a < 0xE0 := by rw [UInt8.lt_iff_toNat_lt]; simp; omega
  simp only [next, if_neg one, if_neg least, if_pos two, if_pos second]

theorem next_of_three {a b c : UInt8} (lead : 0xE0 ≤ a.toNat ∧ a.toNat < 0xF0)
    (second : isSecondOfThree a b = true) (third : isContinuation c = true) (s : List UInt8) :
    next a (b :: c :: s) =
      (some (Char.ofNat (((a.toNat - 0xE0) * 64 + payload b) * 64 + payload c)), s) := by
  have one : ¬ a < 0x80 := by rw [UInt8.lt_iff_toNat_lt]; simp; omega
  have least : ¬ a < 0xC2 := by rw [UInt8.lt_iff_toNat_lt]; simp; omega
  have two : ¬ a < 0xE0 := by rw [UInt8.lt_iff_toNat_lt]; simp; omega
  have three : a < 0xF0 := by rw [UInt8.lt_iff_toNat_lt]; simp; omega
  simp only [next, if_neg one, if_neg least, if_neg two, if_pos three, if_pos second, if_pos third]

theorem next_of_four {a b c d : UInt8} (lead : 0xF0 ≤ a.toNat ∧ a.toNat < 0xF5)
    (second : isSecondOfFour a b = true) (third : isContinuation c = true)
    (fourth : isContinuation d = true) (s : List UInt8) :
    next a (b :: c :: d :: s) =
      (some (Char.ofNat
        ((((a.toNat - 0xF0) * 64 + payload b) * 64 + payload c) * 64 + payload d)), s) := by
  have one : ¬ a < 0x80 := by rw [UInt8.lt_iff_toNat_lt]; simp; omega
  have least : ¬ a < 0xC2 := by rw [UInt8.lt_iff_toNat_lt]; simp; omega
  have two : ¬ a < 0xE0 := by rw [UInt8.lt_iff_toNat_lt]; simp; omega
  have three : ¬ a < 0xF0 := by rw [UInt8.lt_iff_toNat_lt]; simp; omega
  have four : a < 0xF5 := by rw [UInt8.lt_iff_toNat_lt]; simp; omega
  simp only [next, if_neg one, if_neg least, if_neg two, if_neg three, if_pos four, if_pos second,
    if_pos third, if_pos fourth]

theorem toNat_valid (c : Char) :
    c.val.toNat < 0xD800 ∨ 0xDFFF < c.val.toNat ∧ c.val.toNat < 0x110000 := by
  have valid := c.valid
  rw [UInt32.isValidChar, Nat.isValidChar] at valid
  generalize c.val.toNat = n at valid ⊢
  omega

theorem toNat_tail (n : Nat) : (UInt8.ofNat (n % 64 + 0x80)).toNat = n % 64 + 0x80 := by
  rw [UInt8.toNat_ofNat', Nat.mod_eq_of_lt]
  omega

theorem isContinuation_tail (n : Nat) : isContinuation (UInt8.ofNat (n % 64 + 0x80)) = true := by
  rw [isContinuation_iff, toNat_tail]
  omega

theorem payload_tail (n : Nat) : payload (UInt8.ofNat (n % 64 + 0x80)) = n % 64 := by
  have carried := toNat_tail n
  unfold payload
  omega

theorem next_encodeChar (c : Char) :
    ∃ a more, String.utf8EncodeChar c = a :: more ∧
      ∀ s, next a (more ++ s) = (some c, s) := by
  -- surrogates and numbers past the last character are what the second byte would be refused for
  have valid := toNat_valid c
  have back : Char.ofNat c.val.toNat = c := Char.ofNat_toNat c
  unfold String.utf8EncodeChar
  generalize c.val.toNat = n at valid back
  simp only
  split
  · have lead : (UInt8.ofNat n).toNat = n := by
      rw [UInt8.toNat_ofNat', Nat.mod_eq_of_lt]
      omega
    refine ⟨_, _, rfl, fun s => ?_⟩
    rw [List.nil_append, next_of_one (by omega), lead, back]
  split
  · have lead : (UInt8.ofNat (n / 64 % 32 + 0xC0)).toNat = n / 64 + 0xC0 := by
      rw [UInt8.toNat_ofNat', Nat.mod_eq_of_lt]
      all_goals omega
    refine ⟨_, _, rfl, fun s => ?_⟩
    have number : (n / 64 + 0xC0 - 0xC0) * 64 + n % 64 = n := by omega
    rw [List.cons_append, List.nil_append, next_of_two (by omega) (isContinuation_tail n), lead,
      payload_tail, number, back]
  split
  · have lead : (UInt8.ofNat (n / 4096 % 16 + 0xE0)).toNat = n / 4096 + 0xE0 := by
      rw [UInt8.toNat_ofNat', Nat.mod_eq_of_lt]
      all_goals omega
    have second : isSecondOfThree (UInt8.ofNat (n / 4096 % 16 + 0xE0))
        (UInt8.ofNat (n / 64 % 64 + 0x80)) = true := by
      rw [isSecondOfThree_iff, lead, toNat_tail]
      exact ⟨isContinuation_tail _, by omega, by omega⟩
    refine ⟨_, _, rfl, fun s => ?_⟩
    have number : ((n / 4096 + 0xE0 - 0xE0) * 64 + n / 64 % 64) * 64 + n % 64 = n := by omega
    simp only [List.cons_append, List.nil_append]
    rw [next_of_three (by omega) second (isContinuation_tail n), lead, payload_tail, payload_tail,
      number, back]
  · have lead : (UInt8.ofNat (n / 262144 % 8 + 0xF0)).toNat = n / 262144 + 0xF0 := by
      rw [UInt8.toNat_ofNat', Nat.mod_eq_of_lt]
      all_goals omega
    have second : isSecondOfFour (UInt8.ofNat (n / 262144 % 8 + 0xF0))
        (UInt8.ofNat (n / 4096 % 64 + 0x80)) = true := by
      rw [isSecondOfFour_iff, lead, toNat_tail]
      exact ⟨isContinuation_tail _, by omega, by omega⟩
    refine ⟨_, _, rfl, fun s => ?_⟩
    have number : (((n / 262144 + 0xF0 - 0xF0) * 64 + n / 4096 % 64) * 64 + n / 64 % 64) * 64 +
        n % 64 = n := by omega
    simp only [List.cons_append, List.nil_append]
    rw [next_of_four (by omega) second (isContinuation_tail _) (isContinuation_tail n), lead,
      payload_tail, payload_tail, payload_tail, number, back]

theorem scan_encode (cs : List Char) : scan (encode cs) = cs.map some := by
  induction cs with
  | nil => rw [encode, List.flatMap_nil, scan, List.map_nil]
  | cons c cs ih =>
      obtain ⟨a, more, bytes, read⟩ := next_encodeChar c
      rw [encode, List.flatMap_cons, bytes, List.cons_append, scan, read, ← encode, ih,
        List.map_cons]

theorem decode?_encode (cs : List Char) : decode? (encode cs) = some cs := by
  rw [decode?, scan_encode]
  induction cs with
  | nil => rfl
  | cons c cs ih =>
      rw [List.map_cons, List.mapM_cons, ih]
      rfl

@[simp] theorem encode_append (cs ds : List Char) : encode (cs ++ ds) = encode cs ++ encode ds :=
  List.flatMap_append

theorem encode_cons (c : Char) (cs : List Char) :
    encode (c :: cs) = String.utf8EncodeChar c ++ encode cs := List.flatMap_cons

@[simp] theorem encode_nil : encode [] = [] := rfl

theorem encodeChar_cases (c : Char) :
    (c.toNat < 0x80 ∧ String.utf8EncodeChar c = [UInt8.ofNat c.toNat]) ∨
      (0x80 ≤ c.toNat ∧ ∀ b ∈ String.utf8EncodeChar c, 0x80 ≤ b.toNat) := by
  unfold String.utf8EncodeChar
  rw [show c.toNat = c.val.toNat from rfl]
  generalize c.val.toNat = n
  simp only
  split
  · exact .inl ⟨by omega, rfl⟩
  · refine .inr ⟨by omega, ?_⟩
    have tail (k : Nat) : 0x80 ≤ (UInt8.ofNat (k % 64 + 0x80)).toNat := by
      rw [toNat_tail]
      omega
    have lead {k : Nat} (above : 0x80 ≤ k) (below : k < 0x100) : 0x80 ≤ (UInt8.ofNat k).toNat := by
      rw [UInt8.toNat_ofNat', Nat.mod_eq_of_lt below]
      exact above
    repeat' split
    all_goals simp only [List.forall_mem_cons]
    · exact ⟨lead (by omega) (by omega), tail _, by simp⟩
    · exact ⟨lead (by omega) (by omega), tail _, tail _, by simp⟩
    · exact ⟨lead (by omega) (by omega), tail _, tail _, tail _, by simp⟩

theorem toNat_ofNat {n : Nat} (valid : n.isValidChar) : (Char.ofNat n).toNat = n := by
  rw [Char.ofNat, dif_pos valid]
  rfl

theorem encodeChar_ofNat {n : Nat} (valid : n.isValidChar) :
    String.utf8EncodeChar (Char.ofNat n) =
      if n ≤ 0x7F then [UInt8.ofNat n]
      else if n ≤ 0x7FF then [UInt8.ofNat (n / 64 % 32 + 0xC0), UInt8.ofNat (n % 64 + 0x80)]
      else if n ≤ 0xFFFF then [UInt8.ofNat (n / 4096 % 16 + 0xE0),
        UInt8.ofNat (n / 64 % 64 + 0x80), UInt8.ofNat (n % 64 + 0x80)]
      else [UInt8.ofNat (n / 262144 % 8 + 0xF0), UInt8.ofNat (n / 4096 % 64 + 0x80),
        UInt8.ofNat (n / 64 % 64 + 0x80), UInt8.ofNat (n % 64 + 0x80)] := by
  have number : (Char.ofNat n).val.toNat = n := toNat_ofNat valid
  unfold String.utf8EncodeChar
  rw [number]

theorem ofNat_eq {a : UInt8} {n : Nat} (same : n = a.toNat) : UInt8.ofNat n = a := by
  rw [same, UInt8.ofNat_toNat]

theorem encodeChar_of_two {a b : UInt8} (lead : 0xC2 ≤ a.toNat ∧ a.toNat < 0xE0)
    (second : isContinuation b = true) :
    String.utf8EncodeChar (Char.ofNat ((a.toNat - 0xC0) * 64 + payload b)) = [a, b] := by
  rw [isContinuation_iff] at second
  unfold payload
  rw [encodeChar_ofNat (.inl (by omega)), if_neg (by omega), if_pos (by omega),
    ofNat_eq (a := a) (by omega), ofNat_eq (a := b) (by omega)]

theorem encodeChar_of_three {a b c : UInt8} (lead : 0xE0 ≤ a.toNat ∧ a.toNat < 0xF0)
    (second : isSecondOfThree a b = true) (third : isContinuation c = true) :
    String.utf8EncodeChar (Char.ofNat (((a.toNat - 0xE0) * 64 + payload b) * 64 + payload c)) =
      [a, b, c] := by
  rw [isSecondOfThree_iff] at second
  rw [isContinuation_iff] at second third
  unfold payload
  rw [encodeChar_ofNat (by unfold Nat.isValidChar; omega), if_neg (by omega), if_neg (by omega),
    if_pos (by omega), ofNat_eq (a := a) (by omega), ofNat_eq (a := b) (by omega),
    ofNat_eq (a := c) (by omega)]

theorem encodeChar_of_four {a b c d : UInt8} (lead : 0xF0 ≤ a.toNat ∧ a.toNat < 0xF5)
    (second : isSecondOfFour a b = true) (third : isContinuation c = true)
    (fourth : isContinuation d = true) :
    String.utf8EncodeChar (Char.ofNat
        ((((a.toNat - 0xF0) * 64 + payload b) * 64 + payload c) * 64 + payload d)) =
      [a, b, c, d] := by
  rw [isSecondOfFour_iff] at second
  rw [isContinuation_iff] at second third fourth
  unfold payload
  rw [encodeChar_ofNat (by unfold Nat.isValidChar; omega), if_neg (by omega), if_neg (by omega),
    if_neg (by omega), ofNat_eq (a := a) (by omega), ofNat_eq (a := b) (by omega),
    ofNat_eq (a := c) (by omega), ofNat_eq (a := d) (by omega)]

theorem next_some {a : UInt8} {s r : List UInt8} {c : Char} (read : next a s = (some c, r)) :
    a :: s = String.utf8EncodeChar c ++ r := by
  unfold next at read
  repeat' split at read
  all_goals simp only [Prod.mk.injEq, Option.some.injEq, reduceCtorEq, false_and] at read
  all_goals obtain ⟨rfl, rfl⟩ := read
  · rename_i low
    have low : a.toNat < 0x80 := low
    rw [encodeChar_ofNat (.inl (Nat.lt_trans low (by decide))),
      if_pos (Nat.le_of_lt_succ low), ofNat_eq rfl, List.singleton_append]
  · rename_i least two _ b _ second
    rw [encodeChar_of_two ⟨Nat.le_of_not_lt least, two⟩ second]
    rfl
  · rename_i least three _ b second _ c _ third
    rw [encodeChar_of_three ⟨Nat.le_of_not_lt least, three⟩ second third]
    rfl
  · rename_i least four _ b second _ c third _ d _ fourth
    rw [encodeChar_of_four ⟨Nat.le_of_not_lt least, four⟩ second third fourth]
    rfl

theorem encode_of_scan {s : List UInt8} {cs : List Char} (read : scan s = cs.map some) :
    encode cs = s := by
  fun_induction scan s generalizing cs with
  | case1 =>
      cases cs with
      | nil => rfl
      | cons c cs => cases read
  | case2 a s ih =>
      cases cs with
      | nil => cases read
      | cons c cs =>
          rw [List.map_cons, List.cons.injEq] at read
          have first : next a s = (some c, (next a s).2) := Prod.ext read.1 rfl
          rw [encode_cons, ih read.2, ← next_some first]

theorem encode_of_decode? {s : List UInt8} {cs : List Char} (read : decode? s = some cs) :
    encode cs = s := by
  refine encode_of_scan ?_
  rw [decode?] at read
  generalize scan s = found at read
  induction found generalizing cs with
  | nil => cases read; rfl
  | cons c found ih =>
      rw [List.mapM_cons] at read
      cases c with
      | none => cases read
      | some c =>
          cases rest : found.mapM id with
          | none =>
              rw [rest] at read
              cases read
          | some ds =>
              rw [rest] at read
              cases read
              rw [ih rest]
              rfl

end Utf8

theorem ofBytes?_encode (cs : List Char) : ofBytes? (Utf8.encode cs) = some (String.ofList cs) := by
  rw [ofBytes?, Utf8.decode?_encode, Option.map_some]

theorem ofBytes?_eq_some {s : List UInt8} {word : String} :
    ofBytes? s = some word ↔ bytes word = s := by
  constructor
  · intro read
    obtain ⟨cs, decoded, rfl⟩ := Option.map_eq_some_iff.1 read
    rw [bytes, String.toList_ofList, Utf8.encode_of_decode? decoded]
  · rintro rfl
    rw [bytes, ofBytes?_encode, String.ofList_toList]

end ClusterDirectory.Text
