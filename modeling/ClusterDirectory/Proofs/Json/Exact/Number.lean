import ClusterDirectory.Proofs.Json.Spelling

namespace ClusterDirectory.Json

open Text

variable {α : Type}

def Apart (s : List UInt8) : Prop :=
  ∀ b ∈ s.head?, isDigit b = false ∧ b ≠ 0x2E ∧ isExponentLetter b = false

theorem Apart.noDigit {s : List UInt8} (apart : Apart s) : NoDigit s :=
  fun b first => (apart b first).1

theorem Apart.nil : Apart [] := fun b first => by cases first

/-- The reader gives `a` and leaves `r`, and would leave anything else that does not go on with the
number in its place. -/
def Takes (read : List UInt8 → Except Fault (α × List UInt8)) (s : List UInt8) (a : α)
    (r : List UInt8) : Prop :=
  ∃ t, s = t ++ r ∧ ∀ q, Apart q → read (t ++ q) = .ok (a, q)

theorem Takes.nothing {read : List UInt8 → Except Fault (α × List UInt8)} {s : List UInt8} {a : α}
    (gives : ∀ q, Apart q → read q = .ok (a, q)) : Takes read s a s :=
  ⟨[], rfl, gives⟩

theorem Takes.cons {read more : List UInt8 → Except Fault (α × List UInt8)} {b : UInt8}
    {s r : List UInt8} {a : α} (takes : Takes more s a r)
    (step : ∀ q, read (b :: q) = more q) : Takes read (b :: s) a r := by
  obtain ⟨t, rfl, gives⟩ := takes
  refine ⟨b :: t, rfl, fun q apart => ?_⟩
  rw [List.cons_append, step, gives q apart]

theorem NoDigit.change {t r q : List UInt8} (noDigit : NoDigit (t ++ r)) (apart : Apart q) :
    NoDigit (t ++ q) := by
  cases t with
  | nil => exact apart.noDigit
  | cons b t => exact fun c first => noDigit c first

theorem Takes.digits {read more : List UInt8 → Except Fault (α × List UInt8)}
    {ds s r : List UInt8} {a : α} (takes : Takes more s a r) (noDigit : NoDigit s)
    (step : ∀ q, NoDigit q → read (ds ++ q) = more q) : Takes read (ds ++ s) a r := by
  obtain ⟨t, rfl, gives⟩ := takes
  refine ⟨ds ++ t, by rw [List.append_assoc], fun q apart => ?_⟩
  rw [List.append_assoc, step _ (noDigit.change apart), gives q apart]

theorem NoDigit.nil : NoDigit [] := fun b first => by cases first

theorem NoDigit.cons {b : UInt8} (notDigit : isDigit b = false) (s : List UInt8) :
    NoDigit (b :: s) := by
  rintro _ ⟨⟩
  exact notDigit

theorem skipDigits_split (s : List UInt8) :
    ∃ ds, (∀ d ∈ ds, isDigit d = true) ∧ s = ds ++ skipDigits s ∧ NoDigit (skipDigits s) := by
  refine ⟨s.takeWhile isDigit, List.all_eq_true.1 List.all_takeWhile,
    List.takeWhile_append_dropWhile.symm, ?_⟩
  intro b first
  have stopped := List.head?_dropWhile_not isDigit s
  rw [skipDigits, Option.mem_def] at first
  simpa only [first] using stopped

theorem skipDigits_append {ds : List UInt8} (digits : ∀ d ∈ ds, isDigit d = true)
    {s : List UInt8} (noDigit : NoDigit s) : skipDigits (ds ++ s) = s := by
  rw [skipDigits, List.dropWhile_append_of_pos digits]
  exact (takeDigits_stop noDigit).2

theorem readExponentDigits_stop (e : Nat) {s : List UInt8} (noDigit : NoDigit s) :
    readExponentDigits e s = .ok (e, s) := by
  cases s with
  | nil => rfl
  | cons b s => rw [readExponentDigits, if_neg (by simp [noDigit b rfl])]

theorem readExponentDigits_ok {e k : Nat} {s r : List UInt8}
    (read : readExponentDigits e s = .ok (k, r)) :
    NoDigit r ∧
      ∃ ds, s = ds ++ r ∧ ∀ q, NoDigit q → readExponentDigits e (ds ++ q) = .ok (k, q) := by
  fun_induction readExponentDigits e s with
  | case1 =>
      cases read
      exact ⟨.nil, [], rfl, fun q => readExponentDigits_stop k⟩
  | case2 e d s digit small ih =>
      obtain ⟨noDigit, ds, rfl, more⟩ := ih read
      refine ⟨noDigit, d :: ds, rfl, fun q stop => ?_⟩
      rw [List.cons_append, readExponentDigits, if_pos digit, if_pos small, more q stop]
  | case3 => cases read
  | case4 e b s notDigit =>
      cases read
      exact ⟨.cons (by simpa using notDigit) s, [], rfl, fun q => readExponentDigits_stop k⟩

theorem readExponentDigits_error {e : Nat} {s r : List UInt8}
    (read : readExponentDigits e s = .error r) :
    ∃ ds, s = ds ++ r ∧ ∀ q, readExponentDigits e (ds ++ q) = .error q := by
  fun_induction readExponentDigits e s with
  | case1 => cases read
  | case2 e d s digit small ih =>
      obtain ⟨ds, rfl, more⟩ := ih read
      refine ⟨d :: ds, rfl, fun q => ?_⟩
      rw [List.cons_append, readExponentDigits, if_pos digit, if_pos small, more]
  | case3 e d s digit large =>
      cases read
      refine ⟨[d], rfl, fun q => ?_⟩
      rw [List.singleton_append, readExponentDigits, if_pos digit, if_neg large]
  | case4 => cases read

theorem readDigits_split (n count : Nat) (s : List UInt8) :
    ∃ ds v c t, readDigits n count s = ⟨v, c, t⟩ ∧ s = ds ++ t ∧ Stops v t ∧
      c = count + ds.length ∧ ∀ q, Stops v q → readDigits n count (ds ++ q) = ⟨v, c, q⟩ := by
  fun_induction readDigits n count s with
  | case1 n count =>
      exact ⟨[], n, count, [], rfl, rfl, NoDigit.nil.stops n, rfl,
        fun q => readDigits_stops n count⟩
  | case2 n count d s more ih =>
      obtain ⟨ds, v, c, t, read, rfl, stops, counted, again⟩ := ih
      refine ⟨d :: ds, v, c, t, read, rfl, stops, by simp [counted]; omega, fun q stop => ?_⟩
      rw [List.cons_append, readDigits, if_pos more, again q stop]
  | case3 n count b s stop =>
      refine ⟨[], n, count, b :: s, rfl, rfl, ?_, rfl, fun q => readDigits_stops n count⟩
      rintro _ ⟨⟩
      exact stop

theorem scaled_takes {negative : Bool} {n : Nat} {e : Int} {s r : List UInt8} {k : JsonNumber}
    (read : scaled negative n e s = .ok (k, r)) :
    s = r ∧ ∀ q, scaled negative n e q = .ok (k, q) := by
  unfold scaled at read
  split at read
  · rename_i x value
    cases read
    exact ⟨rfl, fun q => by rw [scaled, value]⟩
  · cases read

theorem readExponentSign_cons {b : UInt8} {s t : List UInt8} {down : Bool}
    (read : readExponentSign s = (down, b :: t)) :
    ∃ p, s = p ++ b :: t ∧ ∀ q, readExponentSign (p ++ b :: q) = (down, b :: q) := by
  unfold readExponentSign at read
  split at read
  · cases read
  split at read
  · rename_i plus
    cases read
    exact ⟨[0x2B], by rw [plus]; rfl, fun q => rfl⟩
  split at read
  · rename_i minus
    cases read
    exact ⟨[0x2D], by rw [minus]; rfl, fun q => rfl⟩
  · rename_i notPlus notMinus
    cases read
    exact ⟨[], rfl, fun q => by
      rw [List.nil_append, readExponentSign, if_neg notPlus, if_neg notMinus]⟩

theorem readExponent_takes {negative : Bool} {n : Nat} {e : Int} {s r : List UInt8}
    {k : JsonNumber} (read : readExponent negative n e s = .ok (k, r)) :
    Takes (readExponent negative n e) s k r := by
  cases sign : readExponentSign s with
  | mk down t =>
    simp only [readExponent, sign] at read
    split at read
    · cases read
    rename_i b t
    split at read
    · rename_i digit
      obtain ⟨p, rfl, signed⟩ := readExponentSign_cons sign
      split at read
      · rename_i j q digits
        obtain ⟨_, ds, rfl, again⟩ := readExponentDigits_ok digits
        obtain ⟨rfl, value⟩ := scaled_takes read
        refine ⟨p ++ b :: ds, by simp, fun q apart => ?_⟩
        simp only [List.append_assoc, List.cons_append, readExponent, signed, digit, if_pos,
          again q apart.noDigit, value]
      · rename_i q digits
        obtain ⟨ds, rfl, again⟩ := readExponentDigits_error digits
        obtain ⟨es, more, split, noDigit⟩ := skipDigits_split q
        split at read
        · cases read
        · rename_i zero
          rw [Except.ok.injEq, Prod.mk.injEq] at read
          refine ⟨p ++ b :: (ds ++ es), ?_, fun q apart => ?_⟩
          · rw [← read.2]
            simpa using split
          · simp only [List.append_assoc, List.cons_append, readExponent, signed, digit, if_pos,
              again, if_neg zero, skipDigits_append more apart.noDigit, read.1]
    · cases read

theorem readScale_takes {negative : Bool} {n : Nat} {e : Int} {s r : List UInt8} {k : JsonNumber}
    (read : readScale negative n e s = .ok (k, r)) : Takes (readScale negative n e) s k r := by
  have plain {t : List UInt8} (read : scaled negative n e t = .ok (k, r)) :
      Takes (readScale negative n e) t k r := by
    obtain ⟨rfl, value⟩ := scaled_takes read
    refine .nothing fun q apart => ?_
    cases q with
    | nil => exact value []
    | cons b q =>
        rw [readScale, if_neg (by simp [(apart b rfl).2.2])]
        exact value _
  unfold readScale at read
  split at read
  · split at read
    · rename_i letter
      exact (readExponent_takes read).cons fun q => by rw [readScale, if_pos letter]
    · exact plain read
  · exact plain read

theorem startsWithDigit_eq_false {s : List UInt8} : startsWithDigit s = false ↔ NoDigit s := by
  cases s with
  | nil => exact ⟨fun _ => .nil, fun _ => rfl⟩
  | cons b s => exact ⟨fun notDigit => .cons notDigit s, fun noDigit => noDigit b rfl⟩

theorem readFraction_ok {negative : Bool} {n : Nat} {e : Int} {s r : List UInt8} {k : JsonNumber}
    (read : readFraction negative n e s = .ok (k, r)) :
    readScale negative (readDigits n 0 s).value (e - (readDigits n 0 s).count)
      (skipDigits (readDigits n 0 s).rest) = .ok (k, r) ∧
    (startsWithDigit (readDigits n 0 s).rest = true ∨ (readDigits n 0 s).count ≠ 0) := by
  simp only [readFraction] at read
  split at read
  · rename_i more
    exact ⟨read, .inl more⟩
  split at read
  · split at read <;> cases read
  · rename_i last some
    rw [(takeDigits_stop (startsWithDigit_eq_false.1 (by simpa using last))).2]
    exact ⟨read, .inr some⟩

theorem Stops.change {n : Nat} {ds s q : List UInt8} (stops : Stops n (ds ++ s))
    (noDigit : NoDigit q) : Stops n (ds ++ q) := by
  cases ds with
  | nil => exact noDigit.stops n
  | cons d ds => exact fun b first => stops b first

theorem startsWithDigit_change {ds s : List UInt8} (digits : ∀ d ∈ ds, isDigit d = true)
    (noDigit : NoDigit s) : startsWithDigit (ds ++ s) = !ds.isEmpty := by
  cases ds with
  | nil => exact startsWithDigit_eq_false.2 noDigit
  | cons d ds => exact digits d List.mem_cons_self

theorem readFraction_takes {negative : Bool} {n : Nat} {e : Int} {s r : List UInt8}
    {k : JsonNumber} (read : readFraction negative n e s = .ok (k, r)) :
    Takes (readFraction negative n e) s k r := by
  obtain ⟨scale, more⟩ := readFraction_ok read
  -- `ds` are the digits that fit in 64 bits, `es` those that are left of the run
  obtain ⟨ds, v, c, t, run, rfl, stops, _, again⟩ := readDigits_split n 0 s
  rw [run] at scale more
  simp only at scale more
  obtain ⟨es, digits, split, noDigit⟩ := skipDigits_split t
  generalize skipDigits t = u at scale split noDigit
  subst split
  rw [← List.append_assoc]
  refine (readScale_takes scale).digits noDigit fun q stop => ?_
  rw [startsWithDigit_change digits noDigit] at more
  simp only [readFraction, List.append_assoc, again _ (stops.change stop),
    startsWithDigit_change digits stop, skipDigits_append digits stop]
  cases es with
  | nil =>
      have some : c ≠ 0 := more.resolve_left (by decide)
      rw [if_neg (by decide), if_neg some, List.nil_append]
  | cons d es => rfl

theorem readAfterWhole_takes {negative : Bool} {n e : Nat} {s r : List UInt8} {k : JsonNumber}
    (read : readAfterWhole negative n e s = .ok (k, r)) :
    Takes (readAfterWhole negative n e) s k r := by
  have plain {t : List UInt8} (read : readAfterWhole.plain negative n e t = .ok (k, r)) :
      Takes (readAfterWhole negative n e) t k r := by
    have alone : t = r ∧ ∀ q, readAfterWhole.plain negative n e q = .ok (k, q) := by
      unfold readAfterWhole.plain at read ⊢
      split at read
      · rename_i zero
        split at read
        · cases read
          exact ⟨rfl, fun q => by rw [if_pos zero]⟩
        · obtain ⟨eq, value⟩ := scaled_takes read
          exact ⟨eq, fun q => by rw [if_pos zero, value]⟩
      · rename_i more
        obtain ⟨eq, value⟩ := scaled_takes read
        exact ⟨eq, fun q => by rw [if_neg more, value]⟩
    obtain ⟨rfl, value⟩ := alone
    refine .nothing fun q apart => ?_
    cases q with
    | nil => exact value []
    | cons b q =>
        obtain ⟨_, notPoint, notLetter⟩ := apart b rfl
        rw [readAfterWhole, if_neg notPoint, if_neg (by simp [notLetter])]
        exact value _
  unfold readAfterWhole at read
  split at read
  · split at read
    · rename_i point
      exact (readFraction_takes read).cons fun q => by rw [readAfterWhole, if_pos point]
    split at read
    · rename_i notPoint letter
      exact (readExponent_takes read).cons fun q => by
        rw [readAfterWhole, if_neg notPoint, if_pos letter]
    · exact plain read
  · exact plain read

theorem readNumber_takes {negative : Bool} {s r : List UInt8} {k : JsonNumber}
    (read : readNumber negative s = .ok (k, r)) : Takes (readNumber negative) s k r := by
  unfold readNumber at read
  split at read
  · cases read
  rename_i b s
  split at read
  · rename_i zero
    split at read
    · cases read
    · rename_i last
      have noDigit := startsWithDigit_eq_false.1 (Bool.not_eq_true _ ▸ last)
      have step (q : List UInt8) (stop : NoDigit q) :
          readNumber negative ([b] ++ q) = readAfterWhole negative 0 0 q := by
        rw [List.singleton_append, readNumber, if_pos zero,
          if_neg (by simp [startsWithDigit_eq_false.2 stop])]
      exact (readAfterWhole_takes read).digits noDigit step
  split at read
  · rename_i nonzero digit
    obtain ⟨ds, v, c, t, run, rfl, stops, _, again⟩ := readDigits_split (digitValue b) 0 s
    rw [run] at read
    simp only at read
    obtain ⟨es, digits, split, noDigit⟩ := skipDigits_split t
    generalize skipDigits t = u at read split noDigit
    subst split
    have count {q : List UInt8} (stop : NoDigit q) : (es ++ q).takeWhile isDigit = es := by
      rw [List.takeWhile_append_of_pos digits, (takeDigits_stop stop).1, List.append_nil]
    rw [count noDigit] at read
    have step (q : List UInt8) (stop : NoDigit q) : readNumber negative (b :: (ds ++ es) ++ q) =
        readAfterWhole negative v es.length q := by
      simp only [List.cons_append, List.append_assoc, readNumber, if_neg nonzero, if_pos digit,
        again _ (stops.change stop), count stop, skipDigits_append digits stop]
    have takes := (readAfterWhole_takes read).digits noDigit step
    rwa [List.cons_append, List.append_assoc] at takes
  · cases read

theorem readNumberFrom_takes {b : UInt8} {s r : List UInt8} {n : JsonNumber}
    (read : readNumberFrom b s = .ok (n, r)) : Takes (readNumberFrom b) s n r := by
  unfold readNumberFrom at read
  split at read
  · rename_i minus
    obtain ⟨t, rfl, gives⟩ := readNumber_takes read
    exact ⟨t, rfl, fun q apart => by rw [readNumberFrom, if_pos minus, gives q apart]⟩
  · rename_i notMinus
    -- `b` is itself the first byte of what is taken, since a number is not empty
    have shorter := length_readNumber read
    obtain ⟨t, split, gives⟩ := readNumber_takes read
    cases t with
    | nil =>
        rw [List.nil_append] at split
        rw [split] at shorter
        exact absurd shorter (Nat.lt_irrefl _)
    | cons c t =>
        obtain ⟨rfl, rfl⟩ := List.cons.inj split
        exact ⟨t, rfl, fun q apart => by
          rw [readNumberFrom, if_neg notMinus, ← List.cons_append, gives q apart]⟩

theorem digitValue_spec {b : UInt8} (digit : isDigit b = true) :
    digitValue b < 10 ∧ digitByte (digitValue b) = b := by
  have each : ∀ d < 10, digitByte d = UInt8.ofNat (d + 0x30) := by decide
  simp only [isDigit, Bool.and_eq_true, decide_eq_true_eq, UInt8.le_iff_toNat_le] at digit
  have low : 0x30 ≤ b.toNat := digit.1
  have high : b.toNat ≤ 0x39 := digit.2
  have small : digitValue b < 10 := by
    unfold digitValue
    omega
  refine ⟨small, ?_⟩
  rw [each _ small, digitValue, Nat.sub_add_cancel low, UInt8.ofNat_toNat]

theorem digitBytes_append {n d : Nat} (positive : 0 < n) (small : d < 10) :
    digitBytes (n * 10 + d) = digitBytes n ++ [digitByte d] := by
  rw [digitBytes_step (by omega)]
  congr 3 <;> omega

theorem readDigits_digitBytes_append {n : Nat} (positive : 0 < n) (count : Nat) (s : List UInt8) :
    ∃ ds, s = ds ++ (readDigits n count s).rest ∧
      digitBytes (readDigits n count s).value = digitBytes n ++ ds := by
  fun_induction readDigits n count s with
  | case1 => exact ⟨[], rfl, by rw [List.append_nil]⟩
  | case2 n count d s more ih =>
      obtain ⟨small, byte⟩ := digitValue_spec more.1
      obtain ⟨ds, split, bytes⟩ := ih (by omega)
      rw [digitBytes_append positive small, byte, List.append_assoc, List.singleton_append] at bytes
      exact ⟨d :: ds, congrArg (List.cons d) split, bytes⟩
  | case3 => exact ⟨[], rfl, by rw [List.append_nil]⟩

theorem readAfterWhole_whole {negative : Bool} {n e : Nat} {k : Int} {s r : List UInt8}
    (read : readAfterWhole negative n e s = .ok (.whole k, r)) :
    e = 0 ∧ wholeNumber? negative n = some k ∧ s = r := by
  have plain {t : List UInt8} (read : readAfterWhole.plain negative n e t = .ok (.whole k, r)) :
      e = 0 ∧ wholeNumber? negative n = some k ∧ t = r := by
    unfold readAfterWhole.plain at read
    split at read
    · rename_i zero
      split at read
      · rename_i whole
        cases read
        exact ⟨zero, whole, rfl⟩
      · exact absurd read scaled_ne_whole
    · exact absurd read scaled_ne_whole
  unfold readAfterWhole at read
  split at read
  · split at read
    · exact absurd read readFraction_ne_whole
    split at read
    · exact absurd read readExponent_ne_whole
    · exact plain read
  · exact plain read

theorem readNumber_digits {negative : Bool} {k : Int} {s r : List UInt8}
    (read : readNumber negative s = .ok (.whole k, r)) :
    ∃ n, wholeNumber? negative n = some k ∧ s = digitBytes n ++ r := by
  unfold readNumber at read
  split at read
  · cases read
  rename_i b s
  split at read
  · rename_i zero
    split at read
    · cases read
    · obtain ⟨_, whole, rfl⟩ := readAfterWhole_whole read
      exact ⟨0, whole, by rw [zero, digitBytes_small (by decide)]; rfl⟩
  split at read
  · rename_i nonzero digit
    obtain ⟨small, byte⟩ := digitValue_spec digit
    have positive : 0 < digitValue b := by
      refine Nat.pos_of_ne_zero fun zero => nonzero ?_
      rw [← byte, zero]
      decide
    obtain ⟨none, whole, rest⟩ := readAfterWhole_whole read
    obtain ⟨ds, split, bytes⟩ := readDigits_digitBytes_append positive 0 s
    refine ⟨_, whole, ?_⟩
    have last : (readDigits (digitValue b) 0 s).rest = r := by
      have run := List.takeWhile_append_dropWhile (p := isDigit)
        (l := (readDigits (digitValue b) 0 s).rest)
      rw [List.length_eq_zero_iff.1 none] at run
      exact run.symm.trans rest
    rw [bytes, digitBytes_small small, byte, ← last, List.append_assoc, ← split,
      List.singleton_append]
  · cases read

theorem readNumberFrom_digits {b : UInt8} {k : Int} {s r : List UInt8}
    (read : readNumberFrom b s = .ok (.whole k, r)) :
    b :: s = Utf8.encode (numberText (.whole k)) ++ r := by
  unfold readNumberFrom at read
  split at read
  · rename_i minus
    obtain ⟨n, whole, rfl⟩ := readNumber_digits read
    unfold wholeNumber? at whole
    rw [if_pos rfl] at whole
    split at whole
    · rename_i bounds
      obtain ⟨m, rfl⟩ := Nat.exists_eq_add_of_lt bounds.1
      cases whole
      rw [show (-((0 + m + 1 : Nat) : Int)) = .negSucc m by omega, numberText_negSucc,
        Utf8.encode_cons, minus, digitBytes, Nat.zero_add]
      rfl
    · cases whole
  · obtain ⟨n, whole, split⟩ := readNumber_digits read
    cases whole
    rw [split, digitBytes, ← numberText_ofNat]
    rfl

theorem readNumberFrom_ok {b : UInt8} {n : JsonNumber} {s r : List UInt8}
    (starts : startsNumber b = true) (read : readNumberFrom b s = .ok (n, r)) :
    ∃ t, NumberSpelling (b :: t) n ∧ s = t ++ r := by
  obtain ⟨t, rfl, gives⟩ := readNumberFrom_takes read
  have alone := gives [] .nil
  rw [List.append_nil] at alone
  refine ⟨t, ?_, rfl⟩
  cases n with
  | whole k =>
      have bytes := readNumberFrom_digits alone
      rw [List.append_nil] at bytes
      exact bytes ▸ .whole (readNumberFrom_fits read)
  | real x => exact .real starts alone

theorem readNumberFrom_append {u : List UInt8} {n : JsonNumber} (spelled : NumberSpelling u n) :
    ∃ b t, u = b :: t ∧ startsNumber b = true ∧
      ∀ q, Apart q → readNumberFrom b (t ++ q) = .ok (n, q) := by
  have extend {b : UInt8} {t : List UInt8} (alone : readNumberFrom b t = .ok (n, [])) :
      ∀ q, Apart q → readNumberFrom b (t ++ q) = .ok (n, q) := by
    obtain ⟨t', split, gives⟩ := readNumberFrom_takes alone
    rw [List.append_nil] at split
    exact split ▸ gives
  cases spelled with
  | whole fits =>
      obtain ⟨b, t, bytes, starts, read⟩ := readNumberFrom_whole fits
      refine ⟨b, t, bytes, starts, extend ?_⟩
      have alone := read [] (fun c first => by cases first)
      rwa [List.append_nil] at alone
  | real starts read => exact ⟨_, _, rfl, starts, extend read⟩

end ClusterDirectory.Json
