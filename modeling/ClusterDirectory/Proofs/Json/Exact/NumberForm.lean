import ClusterDirectory.Proofs.Json.Exact.Number

namespace ClusterDirectory.Json

theorem letter_cases {b : UInt8} (letter : isExponentLetter b = true) :
    isDigit b = false ∧ b ≠ 0x2E := by
  simp only [isExponentLetter, Bool.or_eq_true, beq_iff_eq] at letter
  rcases letter with rfl | rfl <;> decide

theorem digits_of_start {s : List UInt8} (start : startsWithDigit s = true) :
    ∃ ds, Digits ds ∧ s = ds ++ skipDigits s := by
  obtain ⟨ds, digits, split, noDigit⟩ := skipDigits_split s
  refine ⟨ds, ⟨?_, digits⟩, split⟩
  rintro rfl
  rw [List.nil_append] at split
  rw [← split, ← startsWithDigit_eq_false] at noDigit
  rw [noDigit] at start
  cases start

theorem Digits.start {ds : List UInt8} (digits : Digits ds) (q : List UInt8) :
    startsWithDigit (ds ++ q) = true := by
  obtain ⟨nonempty, digits⟩ := digits
  cases ds with
  | nil => exact absurd rfl nonempty
  | cons d ds => exact digits d List.mem_cons_self

theorem readExponentSign_ok (s : List UInt8) :
    ∃ p, (p = [] ∨ p = [0x2B] ∨ p = [0x2D]) ∧ s = p ++ (readExponentSign s).2 := by
  unfold readExponentSign
  split
  · exact ⟨[], .inl rfl, rfl⟩
  split
  · rename_i plus
    exact ⟨[0x2B], .inr (.inl rfl), by rw [plus]; rfl⟩
  split
  · rename_i minus
    exact ⟨[0x2D], .inr (.inr rfl), by rw [minus]; rfl⟩
  · exact ⟨[], .inl rfl, rfl⟩

theorem readExponentSign_append {p s : List UInt8} (sign : p = [] ∨ p = [0x2B] ∨ p = [0x2D])
    (start : startsWithDigit s = true) : (readExponentSign (p ++ s)).2 = s := by
  rcases sign with rfl | rfl | rfl
  · cases s with
    | nil => cases start
    | cons b s =>
        have notPlus : b ≠ 0x2B := by rintro rfl; cases start
        have notMinus : b ≠ 0x2D := by rintro rfl; cases start
        rw [List.nil_append, readExponentSign, if_neg notPlus, if_neg notMinus]
  · rfl
  · rfl

theorem passExponent_ok {e : UInt8} {s r : List UInt8} (letter : isExponentLetter e = true)
    (read : passExponent s = .ok r) : ∃ t, ExponentPart t ∧ e :: s = t ++ r := by
  obtain ⟨p, sign, split⟩ := readExponentSign_ok s
  unfold passExponent at read
  split at read
  · cases read
  · rename_i b t signed
    split at read
    · rename_i digit
      rw [Except.ok.injEq] at read
      obtain ⟨ds, digits, run⟩ := digits_of_start (s := b :: t) digit
      have rest : skipDigits (b :: t) = r := by
        rw [← read, skipDigits, List.dropWhile_cons_of_pos digit, skipDigits]
      refine ⟨e :: (p ++ ds), .digits letter sign digits, ?_⟩
      rw [split, signed, run, rest, List.cons_append, List.append_assoc]
    · cases read

theorem passExponent_append {p ds q : List UInt8} (sign : p = [] ∨ p = [0x2B] ∨ p = [0x2D])
    (digits : Digits ds) (apart : Apart q) : passExponent (p ++ (ds ++ q)) = .ok q := by
  rw [passExponent, readExponentSign_append sign (digits.start q)]
  obtain ⟨nonempty, digits⟩ := digits
  cases ds with
  | nil => exact absurd rfl nonempty
  | cons d ds =>
      rw [List.forall_mem_cons] at digits
      simp only [List.cons_append, digits.1, if_pos, skipDigits_append digits.2 apart.noDigit]

theorem ExponentPart.noDigit {e q : List UInt8} (exponent : ExponentPart e) (apart : Apart q) :
    NoDigit (e ++ q) := by
  cases exponent with
  | none => exact apart.noDigit
  | digits letter => exact .cons (letter_cases letter).1 _

theorem passFraction_ok {s r : List UInt8} (read : passFraction s = .ok r) :
    ∃ f e, FractionPart f ∧ ExponentPart e ∧ 0x2E :: s = f ++ (e ++ r) := by
  simp only [passFraction] at read
  split at read
  · rename_i start
    obtain ⟨ds, digits, split⟩ := digits_of_start start
    split at read
    · rename_i b t rest
      rw [rest] at split
      split at read
      · rename_i letter
        obtain ⟨e, exponent, run⟩ := passExponent_ok letter read
        exact ⟨_, e, .digits digits, exponent, by rw [split, run]; rfl⟩
      · cases read
        exact ⟨_, [], .digits digits, .none, by rw [rest, split]; rfl⟩
    · rename_i rest
      cases read
      exact ⟨_, [], .digits digits, .none, by rw [List.nil_append, List.cons_append, ← split]⟩
  · cases read

theorem passFraction_append {ds e q : List UInt8} (digits : Digits ds) (exponent : ExponentPart e)
    (apart : Apart q) : passFraction (ds ++ (e ++ q)) = .ok q := by
  simp only [passFraction, digits.start, if_pos,
    skipDigits_append digits.2 (exponent.noDigit apart)]
  cases exponent with
  | none =>
      cases q with
      | nil => rfl
      | cons b q => simp only [List.nil_append, (apart b rfl).2.2, Bool.false_eq_true, if_false]
  | digits letter sign digits =>
      simp only [List.cons_append, List.append_assoc, letter, if_pos,
        passExponent_append sign digits apart]

theorem afterWhole_ok {s r : List UInt8} (read : passNumber.afterWhole s = .ok r) :
    ∃ f e, FractionPart f ∧ ExponentPart e ∧ s = f ++ (e ++ r) := by
  unfold passNumber.afterWhole at read
  split at read
  · split at read
    · rename_i point
      rw [point]
      exact passFraction_ok read
    split at read
    · rename_i letter
      obtain ⟨e, exponent, split⟩ := passExponent_ok letter read
      exact ⟨[], e, .none, exponent, split⟩
    · cases read
      exact ⟨[], [], .none, .none, rfl⟩
  · cases read
    exact ⟨[], [], .none, .none, rfl⟩

theorem afterWhole_append {f e q : List UInt8} (fraction : FractionPart f)
    (exponent : ExponentPart e) (apart : Apart q) :
    passNumber.afterWhole (f ++ (e ++ q)) = .ok q := by
  cases fraction with
  | digits digits =>
      rw [List.cons_append, passNumber.afterWhole, if_pos rfl]
      exact passFraction_append digits exponent apart
  | none =>
      cases exponent with
      | digits letter sign digits =>
          rw [List.nil_append, List.cons_append, passNumber.afterWhole,
            if_neg (letter_cases letter).2, if_pos letter, List.append_assoc]
          exact passExponent_append sign digits apart
      | none =>
          cases q with
          | nil => rfl
          | cons b q =>
              obtain ⟨_, notPoint, notLetter⟩ := apart b rfl
              rw [List.nil_append, List.nil_append, passNumber.afterWhole, if_neg notPoint,
                if_neg (by simp [notLetter])]

theorem passNumber_ok {s r : List UInt8} (read : passNumber s = .ok r) :
    ∃ t, NumberForm t ∧ s = t ++ r := by
  unfold passNumber at read
  split at read
  · cases read
  rename_i b s
  split at read
  · rename_i zero
    split at read
    · cases read
    · obtain ⟨f, e, fraction, exponent, rfl⟩ := afterWhole_ok read
      exact ⟨_, .mk .zero fraction exponent, by simp [zero]⟩
  split at read
  · rename_i nonzero digit
    obtain ⟨f, e, fraction, exponent, rest⟩ := afterWhole_ok read
    obtain ⟨ds, digits, split, _⟩ := skipDigits_split s
    refine ⟨_, .mk (.digits nonzero ⟨List.cons_ne_nil b ds, ?_⟩) fraction exponent, ?_⟩
    · exact List.forall_mem_cons.2 ⟨digit, digits⟩
    · rw [split, rest]
      simp
  · cases read

theorem passNumber_append {t q : List UInt8} (form : NumberForm t) (apart : Apart q) :
    passNumber (t ++ q) = .ok q := by
  obtain @⟨w, f, e, whole, fraction, exponent⟩ := form
  have noDigit : NoDigit (f ++ (e ++ q)) := by
    cases fraction with
    | none => exact exponent.noDigit apart
    | digits digits => exact .cons (by decide) _
  have after := afterWhole_append fraction exponent apart
  simp only [List.append_assoc]
  cases whole with
  | zero =>
      rw [List.singleton_append, passNumber, if_pos rfl,
        if_neg (by simp [startsWithDigit_eq_false.2 noDigit])]
      exact after
  | digits nonzero digits =>
      obtain ⟨digit, digits⟩ := List.forall_mem_cons.1 digits.2
      rw [List.cons_append, passNumber, if_neg nonzero, if_pos digit,
        skipDigits_append digits noDigit]
      exact after

end ClusterDirectory.Json
