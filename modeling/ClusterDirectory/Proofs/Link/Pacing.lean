import ClusterDirectory.Proofs.Backoff.Wait
import ClusterDirectory.Proofs.Link.Read

/-!
# How reads are paced

A read asks for a connection only when none is up, and after the wait that the failures before it
ask for. So whatever the publisher does, and however much time passes, between the reads or until a
connection is answered, the failures in a row are apart by the waits between them: `Paced` says so
of a link and the times of these failures, and it is kept by everything that happens (`Paced.step`).
-/

namespace ClusterDirectory.Link

theorem send_keeps (l : Link) (t : Transmission) :
    (l.send t).backoff = l.backoff ∧ (l.send t).now = l.now ∧
      (l.send t).wire.isSome = l.wire.isSome := by
  unfold Link.send
  cases up : l.wire with
  | none => exact ⟨rfl, rfl, rfl⟩
  | some w =>
      dsimp only
      split <;> exact ⟨rfl, rfl, rfl⟩

inductive Event
  | send (t : Transmission)
  /-- from now on connections are answered like this -/
  | answer (a : Answer)
  /-- from now on answers take this long -/
  | delay (nanoseconds : Nat)
  | advance (nanoseconds : Nat)
  | read

/-- A link, and the times at which its reads failed since the last one that gave a message. -/
structure Trail where
  link : Link
  failures : List Nat := []

namespace Trail

def ended (x : Trail) (r : Result) (l : Link) : Trail where
  link := l
  failures :=
    match r with
    | .message _ => []
    | .failed _ => x.failures ++ [l.now]
    | .pending => x.failures

def step (x : Trail) : Event → Trail
  | .send t => { x with link := x.link.send t }
  | .answer a => { x with link := { x.link with answer := a } }
  | .delay n => { x with link := x.link.delay n }
  | .advance n => { x with link := x.link.advance n }
  | .read => x.ended x.link.read.result x.link.read.link

def run (x : Trail) (events : List Event) : Trail := events.foldl step x

end Trail

open Backoff (wait waits)

/-- What the failures in a row leave in the link, and how far apart they are. -/
structure Paced (x : Trail) : Prop where
  count : x.link.backoff.failures = min x.failures.length Backoff.failureLimit
  last : ∀ t ∈ x.failures.getLast?, x.link.backoff.lastFailure = some t ∧ t ≤ x.link.now
  apart : ∀ first ∈ x.failures.head?, ∀ last ∈ x.failures.getLast?,
    first + waits x.failures.length ≤ last
  /-- a connection is up only when the wait for it is over -/
  elapsed : x.link.wire.isSome → ∀ last ∈ x.failures.getLast?,
    last + wait x.failures.length ≤ x.link.now

namespace Paced

variable {x : Trail}

theorem waited (h : Paced x) :
    x.link.pause.waited =
      x.failures.getLast?.elim 0 fun last => last + wait x.failures.length - x.link.now := by
  rw [pause_waited]
  cases latest : x.failures.getLast? with
  | none =>
      have count := h.count
      rw [List.getLast?_eq_none_iff.1 latest] at count
      rw [Backoff.delay?_none count]
      rfl
  | some last =>
      obtain ⟨recorded, past⟩ := h.last last latest
      rw [Backoff.delay?_eq recorded, h.count, Backoff.wait_capped, Option.elim_some]
      omega

theorem tried (h : Paced x) : ∀ last ∈ x.failures.getLast?,
    last + wait x.failures.length ≤ x.link.tried.now := by
  intro last latest
  have waited := h.waited
  rw [latest, Option.elim_some] at waited
  -- the wait is over when the attempt begins, and the attempt only adds to it
  have now : x.link.tried.now = x.link.now + x.link.pause.waited + x.link.attemptTime := by
    rw [tried_eq]
    rfl
  omega

theorem fail (h : Paced x) {k : Link} (down : k.wire = none) (same : k.backoff = x.link.backoff)
    (elapsed : ∀ last ∈ x.failures.getLast?, last + wait x.failures.length ≤ k.now) (f : Failure) :
    Paced (x.ended (.failed f) k.recordFailure) where
  count := by
    have count := h.count
    simp only [Trail.ended, recordFailure, Backoff.recordFailure, same, List.length_append,
      List.length_singleton]
    omega
  last t latest := by
    simp only [Trail.ended, List.getLast?_concat, Option.mem_some_iff] at latest
    subst latest
    exact ⟨rfl, Nat.le_refl _⟩
  apart first earliest last latest := by
    simp only [Trail.ended, List.getLast?_concat, Option.mem_some_iff] at latest
    subst latest
    rw [Trail.ended] at earliest ⊢
    dsimp only at earliest ⊢
    rw [List.length_append, List.length_singleton, Backoff.waits_succ]
    cases before : x.failures.getLast? with
    | none =>
        rw [List.getLast?_eq_none_iff.1 before] at earliest ⊢
        cases earliest
        exact Nat.le_refl _
    | some previous =>
        have nonempty : x.failures ≠ [] := by
          intro nothing
          rw [nothing] at before
          cases before
        rw [List.head?_append_of_ne_nil _ nonempty] at earliest
        have apart := h.apart first earliest previous before
        have gap := elapsed previous before
        have now : k.recordFailure.now = k.now := rfl
        omega
  elapsed up := by
    have still : k.recordFailure.wire = none := down
    rw [Trail.ended, still] at up
    cases up

theorem message (payload : List UInt8) {k : Link} (none : k.backoff.failures = 0) :
    Paced (x.ended (.message payload) k) where
  count := none
  last _ latest := by cases latest
  apart _ earliest := by cases earliest
  elapsed _ _ latest := by cases latest

theorem readWire (h : Paced x) {w : Wire} (up : x.link.wire = some w) :
    Paced (x.ended x.link.readWire.1 x.link.readWire.2) := by
  rcases readWire_cases up with ⟨payload, rest, taken⟩ | pending | ⟨f, failed⟩
  · rw [taken]
    exact message payload rfl
  · rw [pending]
    exact h
  · rw [failed]
    have begun : x.link.wire.isSome := by rw [up]; rfl
    exact h.fail (k := { x.link with wire := none }) rfl rfl (h.elapsed begun) f

theorem read (h : Paced x) : Paced (x.step .read) := by
  rw [Trail.step]
  rcases read_cases x.link with
    ⟨w, up, same⟩ | ⟨down, f, -, same⟩ | ⟨-, -, w, queue, notices, same⟩
  · rw [same]
    exact h.readWire up
  · rw [same]
    refine h.fail (k := x.link.tried) ?_ ?_ h.tried f
    · rw [tried_eq]
      exact down
    · rw [tried_eq]
      rfl
  · rw [same]
    have reconnected :
        Paced { x with link := { x.link.tried with wire := some w, queue } } := by
      refine ⟨?_, ?_, h.apart, fun _ => h.tried⟩
      · rw [tried_eq]
        exact h.count
      · intro t latest
        obtain ⟨recorded, past⟩ := h.last t latest
        rw [tried_eq]
        exact ⟨recorded, Nat.le_add_right_of_le (Nat.le_add_right_of_le past)⟩
    exact reconnected.readWire rfl

theorem send (h : Paced x) (t : Transmission) : Paced (x.step (.send t)) := by
  obtain ⟨backoff, now, wire⟩ := send_keeps x.link t
  refine ⟨?_, ?_, h.apart, ?_⟩
  · rw [Trail.step, backoff]
    exact h.count
  · rw [Trail.step, backoff, now]
    exact h.last
  · rw [Trail.step, wire, now]
    exact h.elapsed

theorem step (h : Paced x) (e : Event) : Paced (x.step e) := by
  cases e with
  | send t => exact h.send t
  | answer _ | delay _ => exact ⟨h.count, h.last, h.apart, h.elapsed⟩
  | advance n =>
      refine ⟨h.count, fun t latest => ?_, h.apart, fun up last latest => ?_⟩
      · exact ⟨(h.last t latest).1, Nat.le_add_right_of_le (h.last t latest).2⟩
      · exact Nat.le_add_right_of_le (h.elapsed up last latest)
  | read => exact h.read

theorem run (h : Paced x) (events : List Event) : Paced (x.run events) := by
  induction events generalizing x with
  | nil => exact h
  | cons e events ih => exact ih (h.step e)

theorem start {settings : StreamSettings} {answer : Answer} {latency : Nat}
    {queue : List Transmission} {began : Nat} {l : Link} {begun : List Notice}
    (connected : connect { settings, answer, latency, queue, now := began } = (.ok l, begun)) :
    Paced ⟨l, []⟩ := by
  obtain ⟨-, rfl⟩ := connect_ok connected
  exact ⟨rfl, fun _ => nofun, fun _ => nofun, fun _ _ => nofun⟩

theorem recorded (h : Paced x) (positive : 0 < x.link.backoff.failures) :
    x.link.backoff.lastFailure.isSome := by
  cases latest : x.failures.getLast? with
  | none =>
      have count := h.count
      rw [List.getLast?_eq_none_iff.1 latest] at count
      exact absurd count (Nat.ne_of_gt positive)
  | some t => exact Option.isSome_of_eq_some (h.last t latest).1

theorem read_waited (h : Paced x) (down : x.link.wire = none) :
    x.link.read.waited =
      x.failures.getLast?.elim 0 fun last => last + wait x.failures.length - x.link.now :=
  (read_down down).1.trans h.waited

theorem read_waited_le (h : Paced x) :
    x.link.read.waited ≤ wait x.failures.length := by
  cases up : x.link.wire with
  | some w =>
      rw [(read_up (by rw [up]; rfl)).1]
      exact Nat.zero_le _
  | none =>
      rw [h.read_waited up]
      cases latest : x.failures.getLast? with
      | none => exact Nat.zero_le _
      | some last =>
          have past := (h.last last latest).2
          rw [Option.elim_some]
          omega

end Paced

end ClusterDirectory.Link
