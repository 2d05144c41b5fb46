import ClusterDirectory.Backoff
import Mathlib.Algebra.BigOperators.Intervals

/-!
# How long a connection is waited for

The whole wait after `n` failures in a row is `wait n`: nothing before the third, then two to the
power of `n` seconds, but never more than five minutes. The limit of the count does not show in it
(`wait_capped`). What is left of it depends on the time since the last failure only
(`delay?_eq_left?`): another failure makes it no shorter, and time that passes is taken from it.
-/

namespace ClusterDirectory.Backoff

def wait (n : Nat) : Nat := if n < threshold then 0 else seconds n * second

def waits (n : Nat) : Nat := ∑ k ∈ Finset.range n, wait k

theorem waits_succ (n : Nat) : waits (n + 1) = waits n + wait n := Finset.sum_range_succ wait n

theorem wait_of_few {n : Nat} (few : n < 3) : wait n = 0 := if_pos few

theorem wait_of_many {n : Nat} (many : 3 ≤ n) : wait n = min (2 ^ min n 9) 300 * 1000000000 :=
  if_neg (Nat.not_lt_of_le many)

theorem wait_le (n : Nat) : wait n ≤ 300 * 1000000000 := by
  unfold wait
  split
  · exact Nat.zero_le _
  · exact Nat.mul_le_mul_right second (Nat.min_le_right _ _)

theorem wait_mono : Monotone wait := by
  intro m n le
  rcases Nat.lt_or_ge m 3 with few | many
  · rw [wait_of_few few]
    exact Nat.zero_le _
  · rw [wait_of_many many, wait_of_many (Nat.le_trans many le)]
    exact Nat.mul_le_mul_right _ (min_le_min_right _
      (Nat.pow_le_pow_right (by decide) (min_le_min_right 9 le)))

theorem wait_capped (n : Nat) : wait (min n failureLimit) = wait n := by
  have limit : failureLimit = 0xFFFFFFFF := rfl
  rcases Nat.lt_or_ge n 3 with few | many
  · rw [wait_of_few few, wait_of_few (by omega)]
  · have nine : min (min n failureLimit) 9 = min n 9 := by omega
    rw [wait_of_many many, wait_of_many (by omega), nine]

theorem waits_eq (n : Nat) :
    waits n = ∑ k ∈ Finset.Ico 3 n, min (2 ^ min k 9) 300 * 1000000000 := by
  induction n with
  | zero => rfl
  | succ n ih =>
      rw [waits_succ]
      rcases Nat.lt_or_ge n 3 with few | many
      · rw [ih, wait_of_few few, Finset.Ico_eq_empty_of_le few.le, Finset.Ico_eq_empty_of_le few]
        rfl
      · rw [ih, wait_of_many many, Finset.sum_Ico_succ_top many]

def left? (n t : Nat) : Option Nat := (⟨n, some 0⟩ : Backoff).delay? t

theorem delay?_eq_left? {b : Backoff} {last : Nat} (failed : b.lastFailure = some last)
    (now : Nat) : b.delay? now = left? b.failures (now - last) := by
  unfold left? delay?
  rw [failed]
  rfl

theorem left?_eq (n t : Nat) : left? n t = if wait n ≤ t then none else some (wait n - t) := by
  unfold left? delay?
  dsimp only
  by_cases few : n < threshold
  · rw [if_pos (.inl few), wait_of_few few, if_pos (Nat.zero_le t)]
  · rw [Nat.sub_zero, wait, if_neg few]
    by_cases passed : seconds n * second ≤ t
    · rw [if_pos (.inr (Nat.sub_eq_zero_of_le passed)), if_pos passed]
    · rw [if_neg (not_or.2 ⟨few, Nat.sub_ne_zero_of_lt (Nat.lt_of_not_le passed)⟩), if_neg passed]

theorem left?_eq_ite (n t : Nat) :
    left? n t =
      let whole := min (2 ^ min n 9) 300 * 1000000000
      if n < 3 ∨ whole ≤ t then none else some (whole - t) := by
  rw [left?_eq]
  rcases Nat.lt_or_ge n 3 with few | many
  · rw [wait_of_few few, if_pos (Nat.zero_le t)]
    exact (if_pos (.inl few)).symm
  · rw [wait_of_many many]
    simp only [Nat.not_lt_of_le many, false_or]

theorem left?_getD (n t : Nat) : (left? n t).getD 0 = wait n - t := by
  rw [left?_eq]
  split
  · rw [Option.getD_none]
    omega
  · rfl

theorem left?_capped (n t : Nat) : left? (min n failureLimit) t = left? n t := by
  rw [left?_eq, left?_eq, wait_capped]

theorem left?_bounds {n t left : Nat} (found : left? n t = some left) :
    0 < left ∧ left ≤ wait n := by
  rw [left?_eq] at found
  split at found
  · cases found
  · cases found
    omega

theorem left?_failure (n t : Nat) : (left? n t).getD 0 ≤ (left? (n + 1) 0).getD 0 := by
  rw [left?_getD, left?_getD]
  calc wait n - t
      ≤ wait n := Nat.sub_le ..
    _ ≤ wait (n + 1) := wait_mono (Nat.le_succ n)

theorem left?_advance (n t more : Nat) :
    left? n (t + more) =
      (left? n t).bind fun left => if more < left then some (left - more) else none := by
  rw [left?_eq, left?_eq]
  by_cases passed : wait n ≤ t
  · rw [if_pos passed, if_pos (Nat.le_add_right_of_le passed), Option.bind_none]
  · rw [if_neg passed, Option.bind_some]
    by_cases enough : more < wait n - t
    · rw [if_neg (by omega), if_pos enough, Nat.sub_sub]
    · rw [if_pos (by omega), if_neg enough]

theorem delay?_none {b : Backoff} (none : b.failures = 0) (now : Nat) : b.delay? now = .none := by
  unfold delay?
  cases b.lastFailure with
  | none => rfl
  | some last => exact if_pos (.inl (by rw [none]; decide))

theorem delay?_eq {b : Backoff} {last : Nat} (failed : b.lastFailure = some last) (now : Nat) :
    (b.delay? now).getD 0 = wait b.failures - (now - last) := by
  rw [delay?_eq_left? failed, left?_getD]

end ClusterDirectory.Backoff
