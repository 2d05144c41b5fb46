import ClusterDirectory.Proofs.Backoff.Wait

/-!
# The wait in words of fixed width

The model keeps a wait as a number of nanoseconds, which has no bound. In a machine it is a number
of seconds and of nanoseconds beyond them, in words of fixed width, where a power or a sum may not
fit and a difference may fall below zero. Here what is left of the wait is computed with a check at
every such step. No check fails, whatever the count of failures and the time since the last one, and
what comes out is the wait of the model (`checkedDelay_eq`).
-/

namespace ClusterDirectory.Backoff

def fit (bits n : Nat) : Option Nat := if n < Nat.pow 2 bits then some n else none

def minus (m n : Nat) : Option Nat := if n ≤ m then some (m - n) else none

theorem fit_eq {bits n : Nat} (small : n < Nat.pow 2 bits) : fit bits n = some n := if_pos small

theorem minus_eq {m n : Nat} (le : n ≤ m) : minus m n = some (m - n) := if_pos le

structure Span where
  seconds : Nat
  rest : Nat
  deriving DecidableEq

namespace Span

def zero : Span := ⟨0, 0⟩

def nanoseconds (s : Span) : Nat := s.seconds * second + s.rest

def ofNanoseconds (n : Nat) : Span := ⟨n / second, n % second⟩

theorem nanoseconds_ofNanoseconds (n : Nat) : (ofNanoseconds n).nanoseconds = n :=
  Nat.div_add_mod' n second

theorem rest_ofNanoseconds (n : Nat) : (ofNanoseconds n).rest < second :=
  Nat.mod_lt n (by decide)

theorem eq_zero_iff (s : Span) : s = zero ↔ s.nanoseconds = 0 := by
  obtain ⟨seconds, rest⟩ := s
  simp only [zero, nanoseconds, second, mk.injEq]
  omega

def checkedLeft (whole passed : Span) : Option Span :=
  if whole.seconds < passed.seconds then return zero
  else do
    let seconds ← minus whole.seconds passed.seconds
    if passed.rest ≤ whole.rest then return ⟨seconds, ← minus whole.rest passed.rest⟩
    else if seconds = 0 then return zero
    else return ⟨← minus seconds 1, ← minus (← fit 32 (whole.rest + second)) passed.rest⟩

theorem checkedLeft_eq {whole passed : Span} (small : whole.rest < second)
    (small' : passed.rest < second) :
    ∃ left, checkedLeft whole passed = some left ∧
      left.nanoseconds = whole.nanoseconds - passed.nanoseconds := by
  have nano : second = 1000000000 := rfl
  by_cases gone : whole.seconds < passed.seconds
  · refine ⟨zero, if_pos gone, ?_⟩
    simp only [zero, nanoseconds, nano]
    omega
  · have down := minus_eq (Nat.le_of_not_lt gone)
    by_cases enough : passed.rest ≤ whole.rest
    · refine ⟨⟨whole.seconds - passed.seconds, whole.rest - passed.rest⟩, ?_, ?_⟩
      · simp [checkedLeft, gone, down, enough, minus_eq enough]
      · simp only [nanoseconds, nano]
        omega
    · by_cases last : whole.seconds - passed.seconds = 0
      · have same : whole.seconds = passed.seconds := by omega
        refine ⟨zero, by simp [checkedLeft, gone, down, enough, last], ?_⟩
        simp only [zero, nanoseconds, same, Nat.add_sub_add_left]
        omega
      · -- a second is broken into nanoseconds
        have fits : fit 32 (whole.rest + second) = some (whole.rest + second) :=
          fit_eq (Nat.lt_trans (Nat.add_lt_add_right small second) (by decide))
        have less : minus (whole.rest + second) passed.rest =
            some (whole.rest + second - passed.rest) := minus_eq (by omega)
        have one := minus_eq (Nat.pos_of_ne_zero last)
        refine ⟨⟨whole.seconds - passed.seconds - 1, whole.rest + second - passed.rest⟩, ?_, ?_⟩
        · simp [checkedLeft, gone, down, enough, last, fits, less, one]
        · simp only [nanoseconds, nano]
          omega

end Span

def checkedWait (n : Nat) : Option Span := do
  let power ← fit 64 (Nat.pow 2 (min n 9))
  return ⟨min power 300, 0⟩

theorem checkedWait_eq (n : Nat) : checkedWait n = some ⟨seconds n, 0⟩ := by
  have small : Nat.pow 2 (min n 9) < Nat.pow 2 64 :=
    Nat.pow_lt_pow_right (by decide) (Nat.lt_of_le_of_lt (Nat.min_le_right n 9) (by decide))
  unfold checkedWait
  rw [fit_eq small]
  rfl

def checkedDelay (n : Nat) (passed : Span) : Option (Option Span) :=
  if n < threshold then return none
  else do
    let left ← (← checkedWait n).checkedLeft passed
    return if left = .zero then none else some left

/-- No step overflows or falls below zero, and the result is what is left of the wait. -/
theorem checkedDelay_eq (n t : Nat) :
    (checkedDelay n (.ofNanoseconds t)).map (Option.map Span.nanoseconds) =
      some (left? n t) := by
  unfold checkedDelay left? delay?
  dsimp only
  by_cases few : n < threshold
  · rw [if_pos few, if_pos (.inl few)]
    rfl
  · obtain ⟨left, found, value⟩ := @Span.checkedLeft_eq ⟨seconds n, 0⟩ _
      (by decide : 0 < second) (Span.rest_ofNanoseconds t)
    rw [Span.nanoseconds_ofNanoseconds] at value
    rw [if_neg few, checkedWait_eq, Option.bind_eq_bind, Option.bind_some, found]
    have whole : (⟨seconds n, 0⟩ : Span).nanoseconds = seconds n * second := Nat.add_zero _
    rw [whole] at value
    rw [Nat.sub_zero, ← value, Option.bind_some]
    by_cases passed : left.nanoseconds = 0
    · rw [if_pos ((Span.eq_zero_iff left).2 passed), if_pos (.inr passed)]
      rfl
    · have positive : left ≠ .zero := fun zero => passed ((Span.eq_zero_iff left).1 zero)
      rw [if_neg positive, if_neg (not_or.2 ⟨few, passed⟩)]
      rfl

end ClusterDirectory.Backoff
