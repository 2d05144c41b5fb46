import ClusterDirectory.Proofs.Backoff.Checked

/-!
# The wait is decided by the history

What is left of the wait depends on two things of the history alone: how many failures there were
since the last success, and how much time has passed since the last failure (`delay_of_history`). A
success clears the count and leaves the time of the last failure, which then has no part in the wait
before the third failure in a row.
-/

namespace ClusterDirectory.Backoff

inductive Event
  | failure
  | success
  | advance (nanoseconds : Nat)

namespace Event

def isFailure : Event → Bool
  | .failure => true
  | .success | .advance _ => false

def isSuccess : Event → Bool
  | .success => true
  | .failure | .advance _ => false

def span : Event → Nat
  | .advance n => n
  | .failure | .success => 0

end Event

def failuresSince (events : List Event) : Nat :=
  (events.reverse.takeWhile (!·.isSuccess)).countP (·.isFailure)

def timeSince (events : List Event) : Nat :=
  ((events.reverse.takeWhile (!·.isFailure)).map (·.span)).sum

theorem failuresSince_concat (events : List Event) (e : Event) :
    failuresSince (events ++ [e]) =
      match e with
      | .failure => failuresSince events + 1
      | .success => 0
      | .advance _ => failuresSince events := by
  cases e <;> simp [failuresSince, Event.isSuccess, Event.isFailure]

theorem timeSince_concat (events : List Event) (e : Event) :
    timeSince (events ++ [e]) =
      match e with
      | .failure => 0
      | .success => timeSince events
      | .advance n => timeSince events + n := by
  cases e <;> simp [timeSince, Event.isFailure, Event.span, Nat.add_comm]

structure Timed where
  backoff : Backoff := {}
  now : Nat

namespace Timed

def step (x : Timed) : Event → Timed
  | .failure => { x with backoff := x.backoff.recordFailure x.now }
  | .success => { x with backoff := x.backoff.recordSuccess }
  | .advance n => { x with now := x.now + n }

def run (x : Timed) (events : List Event) : Timed := events.foldl step x

def delay? (x : Timed) : Option Nat := x.backoff.delay? x.now

end Timed

structure Recorded (x : Timed) (events : List Event) : Prop where
  count : x.backoff.failures = min (failuresSince events) failureLimit
  time : ∀ last, x.backoff.lastFailure = some last → last + timeSince events = x.now
  none : x.backoff.lastFailure = none → failuresSince events = 0

namespace Recorded

variable {x : Timed} {events : List Event}

theorem start (began : Nat) : Recorded { now := began } [] := ⟨rfl, fun _ => nofun, fun _ => rfl⟩

theorem step (h : Recorded x events) (e : Event) : Recorded (x.step e) (events ++ [e]) := by
  cases e with
  | failure =>
      refine ⟨?_, ?_, nofun⟩
      · have count := h.count
        rw [failuresSince_concat]
        simp only [Timed.step, recordFailure]
        omega
      · rintro last recorded
        cases recorded
        rw [timeSince_concat]
        rfl
  | success =>
      refine ⟨?_, ?_, fun _ => failuresSince_concat ..⟩
      · rw [failuresSince_concat]
        rfl
      · rw [timeSince_concat]
        exact h.time
  | advance n =>
      refine ⟨?_, ?_, ?_⟩
      · rw [failuresSince_concat]
        exact h.count
      · intro last recorded
        rw [timeSince_concat, Timed.step, ← h.time last recorded]
        exact (Nat.add_assoc ..).symm
      · rw [failuresSince_concat]
        exact h.none

theorem run (h : Recorded x events) (more : List Event) :
    Recorded (x.run more) (events ++ more) := by
  induction more generalizing x events with
  | nil =>
      rw [List.append_nil]
      exact h
  | cons e more ih =>
      rw [← List.singleton_append, ← List.append_assoc]
      exact ih (h.step e)

theorem elapsed (h : Recorded x events) {last : Nat}
    (recorded : x.backoff.lastFailure = some last) :
    last ≤ x.now ∧ x.now - last = timeSince events := by
  rw [← h.time last recorded]
  exact ⟨Nat.le_add_right .., Nat.add_sub_cancel_left ..⟩

theorem delay?_eq (h : Recorded x events) :
    x.delay? = left? (failuresSince events) (timeSince events) := by
  cases recorded : x.backoff.lastFailure with
  | none =>
      -- there was no failure yet, so no time is needed to see that there is no wait
      have count := h.count
      rw [h.none recorded] at count ⊢
      rw [Timed.delay?, delay?_none count]
      rfl
  | some last =>
      rw [Timed.delay?, delay?_eq_left? recorded, h.count, left?_capped, (h.elapsed recorded).2]

end Recorded

/-- Before the third failure in a row there is no wait. From then on the whole wait is two to the
power of their number in seconds, five minutes at most, and what is left of it is what the time
since the last failure leaves. -/
theorem delay_of_history :
    (∀ (began : Nat) (events : List Event),
      let x := ({ now := began } : Timed).run events
      let e := min (failuresSince events) 0xFFFFFFFF
      let t := timeSince events
      let whole := min (2 ^ min e 9) 300 * 1000000000
      x.backoff.failures = e ∧
        (∀ last, x.backoff.lastFailure = some last → last ≤ x.now ∧ x.now - last = t) ∧
        x.delay? = (if e < 3 ∨ whole ≤ t then none else some (whole - t)) ∧
        (checkedDelay e (.ofNanoseconds t)).map (Option.map Span.nanoseconds) = some x.delay? ∧
        (∀ left, x.delay? = some left → 0 < left ∧ left ≤ 300 * 1000000000) ∧
        x.delay?.getD 0 ≤ (x.step .failure).delay?.getD 0 ∧
        ∀ n, (x.step (.advance n)).delay? =
          x.delay?.bind fun left => if n < left then some (left - n) else none) ∧
    ∀ e t, ∃ left, checkedDelay e (.ofNanoseconds t) = some left := by
  refine ⟨?_, ?_⟩
  · intro began events x e t whole
    have recorded : Recorded x events := (Recorded.start began).run events
    have delay : x.delay? = left? e t := by
      rw [recorded.delay?_eq]
      exact (left?_capped ..).symm
    refine ⟨recorded.count, fun _ => recorded.elapsed, ?_, ?_, ?_, ?_, ?_⟩
    · rw [delay, left?_eq_ite]
    · rw [checkedDelay_eq, delay]
    · intro left found
      obtain ⟨positive, most⟩ := left?_bounds (delay.symm.trans found)
      exact ⟨positive, Nat.le_trans most (wait_le e)⟩
    · rw [recorded.delay?_eq, (recorded.step .failure).delay?_eq, failuresSince_concat,
        timeSince_concat]
      exact left?_failure ..
    · intro n
      rw [recorded.delay?_eq, (recorded.step (.advance n)).delay?_eq, failuresSince_concat,
        timeSince_concat]
      exact left?_advance ..
  · intro e t
    obtain ⟨left, found, -⟩ := Option.map_eq_some_iff.1 (checkedDelay_eq e t)
    exact ⟨left, found⟩

/-- Five seconds after the third failure, three are left of its eight. -/
example : (({ now := 0 } : Timed).run [.failure, .advance 60000000000, .failure, .failure,
    .advance 5000000000]).delay? = some 3000000000 := by decide

end ClusterDirectory.Backoff
