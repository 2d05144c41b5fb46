import ClusterDirectory.Proofs.Updates.Handled

/-!
# Updates until a stop

Whatever happens to the updates, they handle the reads that are supplied before the first stop, each
once and in order, and nothing after it (`watch_running`, `watch_stopped`). So the directory is made
by the changes in these reads, and no failure among them ends the updates (`handles_until_stop`).
-/

namespace ClusterDirectory.Updates

structure Event where
  now : UInt64
  step : Step

def Step.halts : Step → Bool
  | .reads _ => false
  | .stop asked => asked
  | .abandon => true

def Step.leaves : Step → Bool
  | .abandon => true
  | _ => false

def Event.supplied (e : Event) : List (UInt64 × Read) :=
  match e.step with
  | .reads batch => batch.map fun r => (e.now, r)
  | _ => []

def stopped (events : List Event) : Bool := events.any (·.step.halts)

def abandoned (events : List Event) : Bool := events.any (·.step.leaves)

/-- The reads that are supplied before the first stop. -/
def heard (events : List Event) : List (UInt64 × Read) :=
  (events.takeWhile (!·.step.halts)).flatMap Event.supplied

def watch (u : Updates) : List Event → Updates × List Notice
  | [] => (u, [])
  | e :: events =>
      let (u, first) := u.step e.now e.step
      let (u, more) := watch u events
      (u, first ++ more)

def handleEach (u : Updates) : List (UInt64 × Read) → Updates × List Notice
  | [] => (u, [])
  | (now, r) :: rs =>
      let (u, first) := u.handle now r
      let (u, more) := handleEach u rs
      (u, first ++ more)

theorem handleEach_append (u : Updates) (rs qs : List (UInt64 × Read)) :
    u.handleEach (rs ++ qs) =
      (((u.handleEach rs).1.handleEach qs).1,
        (u.handleEach rs).2 ++ ((u.handleEach rs).1.handleEach qs).2) := by
  induction rs generalizing u with
  | nil => rfl
  | cons r rs ih => simp only [List.cons_append, handleEach, ih, List.append_assoc]

theorem watch_append (u : Updates) (es fs : List Event) :
    u.watch (es ++ fs) =
      (((u.watch es).1.watch fs).1, (u.watch es).2 ++ ((u.watch es).1.watch fs).2) := by
  induction es generalizing u with
  | nil => rfl
  | cons e es ih => simp only [List.cons_append, watch, ih, List.append_assoc]

theorem handleAll_eq_handleEach (now : UInt64) (u : Updates) (batch : List Read) :
    u.handleAll now batch = u.handleEach (batch.map fun r => (now, r)) := by
  induction batch generalizing u with
  | nil => rfl
  | cons r batch ih => simp only [List.map_cons, handleAll, handleEach, ih]

theorem handle_supervised (now : UInt64) (u : Updates) (r : Read) :
    (u.handle now r).1.supervised = u.supervised := by
  cases found : change? r with
  | none =>
      rw [handle_of_none found]
      rfl
  | some c =>
      rw [handle_of_change found]
      rfl

theorem handle_reads (now : UInt64) (u : Updates) (r : Read) :
    (u.handle now r).1.reads = u.reads + 1 := by
  cases found : change? r with
  | none =>
      rw [handle_of_none found]
      rfl
  | some c =>
      rw [handle_of_change found]
      rfl

theorem handleEach_running (u : Updates) (rs : List (UInt64 × Read)) :
    (u.handleEach rs).1.running = u.running := by
  induction rs generalizing u with
  | nil => rfl
  | cons r rs ih => exact (ih _).trans (handle_running r.1 u r.2)

theorem handleEach_supervised (u : Updates) (rs : List (UInt64 × Read)) :
    (u.handleEach rs).1.supervised = u.supervised := by
  induction rs generalizing u with
  | nil => rfl
  | cons r rs ih => exact (ih _).trans (handle_supervised r.1 u r.2)

theorem handleEach_reads (u : Updates) (rs : List (UInt64 × Read)) :
    (u.handleEach rs).1.reads = u.reads + rs.length := by
  induction rs generalizing u with
  | nil => rfl
  | cons r rs ih =>
      have rest := ih (u.handle r.1 r.2).1
      rw [handle_reads] at rest
      rw [List.length_cons, Nat.add_comm rs.length, ← Nat.add_assoc]
      exact rest

theorem handleEach_handled {u : Updates} {before : List Read} (h : Handled u before)
    (rs : List (UInt64 × Read)) : Handled (u.handleEach rs).1 (before ++ rs.map Prod.snd) := by
  induction rs generalizing u before with
  | nil => simpa [handleEach] using h
  | cons r rs ih => simpa [handleEach] using ih (h.handle r.1 r.2)

theorem step_stopped {u : Updates} (ended : u.running = false) (now : UInt64) (s : Step) :
    u.step now s = ({ u with supervised := u.supervised && !s.leaves }, []) := by
  obtain ⟨directory, metrics, running, supervised, reads⟩ := u
  cases ended
  cases s with
  | reads batch => simp [step, Step.leaves]
  | stop asked => cases asked <;> simp [step, halt, Step.leaves]
  | abandon => simp [step, halt, Step.leaves]

theorem watch_stopped {u : Updates} (ended : u.running = false) (events : List Event) :
    u.watch events = ({ u with supervised := u.supervised && !abandoned events }, []) := by
  induction events generalizing u with
  | nil => simp [watch, abandoned]
  | cons e events ih =>
      have later := @ih { u with supervised := u.supervised && !e.step.leaves } ended
      simp only [watch, step_stopped ended, later, List.nil_append]
      simp [abandoned, Bool.and_assoc]

theorem heard_halts {e : Event} (halts : e.step.halts = true) (events : List Event) :
    heard (e :: events) = [] := by
  simp [heard, halts]

theorem heard_goes_on {e : Event} (goes : e.step.halts = false) (events : List Event) :
    heard (e :: events) = e.supplied ++ heard events := by
  simp [heard, goes]

theorem heard_append_of_stopped {events : List Event} (halted : stopped events = true)
    (later : List Event) : heard (events ++ later) = heard events := by
  induction events with
  | nil => cases halted
  | cons e events ih =>
      cases here : e.step.halts with
      | true => rw [List.cons_append, heard_halts here, heard_halts here]
      | false =>
          have rest : stopped events = true := by simpa [stopped, here] using halted
          rw [List.cons_append, heard_goes_on here, heard_goes_on here, ih rest]

theorem watch_running {u : Updates} (running : u.running = true) (supervised : u.supervised = true)
    (events : List Event) :
    u.watch events =
      ({ (u.handleEach (heard events)).1 with
          running := !stopped events
          supervised := !abandoned events },
        (u.handleEach (heard events)).2 ++ if stopped events then [.updatesStopped] else []) := by
  induction events generalizing u with
  | nil => cases u; simp_all [watch, heard, handleEach, stopped, abandoned]
  | cons e events ih =>
      obtain ⟨now, s⟩ := e
      cases s with
      | reads batch =>
          have goes : (⟨now, .reads batch⟩ : Event).step.halts = false := rfl
          have after := @ih (u.handleEach (batch.map fun r => (now, r))).1
            ((handleEach_running _ _).trans running)
            ((handleEach_supervised _ _).trans supervised)
          simp only [watch, step, running, if_true, handleAll_eq_handleEach, heard_goes_on goes,
            handleEach_append, after, List.append_assoc]
          rfl
      | stop asked =>
          cases asked with
          | false =>
              have after := ih running supervised
              simp only [watch, step, Bool.false_and, Bool.false_eq_true, if_false, after]
              rfl
          | true =>
              rw [heard_halts rfl]
              simp only [watch, step, halt, running, supervised, Bool.and_self, if_true, handleEach,
                watch_stopped]
              simp [stopped, abandoned, Step.halts, Step.leaves]
      | abandon =>
          rw [heard_halts rfl]
          simp only [watch, step, halt, running, if_true, handleEach, watch_stopped]
          simp [stopped, abandoned, Step.halts, Step.leaves]

theorem watch_start (events : List Event) :
    (start false).1.watch events =
      ({ ((start false).1.handleEach (heard events)).1 with
          running := !stopped events
          supervised := !abandoned events },
        ((start false).1.handleEach (heard events)).2 ++
          if stopped events then [.updatesStopped] else []) :=
  watch_running rfl rfl events

theorem watch_start_directory (events : List Event) :
    ((start false).1.watch events).1.directory =
      Directory.after ((heard events).filterMap (change? ·.2)) := by
  have handled := handleEach_handled Handled.start (heard events)
  rw [watch_start]
  simpa [List.filterMap_map, Function.comp_def] using handled.directory

theorem watch_directory (stopped : Bool) (events : List Event) :
    ((start stopped).1.watch events).1.directory =
      Directory.after (if stopped then [] else (heard events).filterMap (change? ·.2)) := by
  cases stopped with
  | false => exact watch_start_directory events
  | true =>
      rw [watch_stopped rfl]
      rfl

theorem watch_start_stopped {events : List Event} (halted : stopped events = true)
    (later : List Event) :
    (start false).1.watch (events ++ later) =
      ({ ((start false).1.watch events).1 with
          supervised := !abandoned events && !abandoned later },
        ((start false).1.watch events).2) := by
  have ended : ((start false).1.watch events).1.running = false := by
    rw [watch_start, halted]
    rfl
  rw [watch_append, watch_stopped ended, List.append_nil]
  simp only [watch_start]

/-- A batch is handled as its parts are, so what holds after every row of steps holds between the
reads of a batch as well. -/
theorem step_batch (now : UInt64) (u : Updates) (front back : List Read) :
    u.watch [⟨now, .reads (front ++ back)⟩] =
      u.watch [⟨now, .reads front⟩, ⟨now, .reads back⟩] := by
  by_cases running : u.running = true
  · have still := (handleEach_running u (front.map fun r => (now, r))).trans running
    simp only [watch, step, running, if_true, handleAll_eq_handleEach, List.map_append,
      handleEach_append, still, List.append_nil]
  · simp [watch, step, running]

theorem handles_until_stop :
    (∀ events,
      ((start false).1.watch events).1 =
          { ((start false).1.handleEach (heard events)).1 with
            running := !stopped events
            supervised := !abandoned events } ∧
        ((start false).1.watch events).2 =
          ((start false).1.handleEach (heard events)).2 ++
            (if stopped events then [.updatesStopped] else []) ∧
        ((start false).1.watch events).1.reads = (heard events).length + 1 ∧
        ((start false).1.watch events).1.directory =
          Directory.after ((heard events).filterMap (change? ·.2)) ∧
        ∀ r, ((start false).1.watch events).1.accepts (.reads [r]) = !stopped events) ∧
    (∀ events later, stopped events = true →
      heard (events ++ later) = heard events ∧
        ((start false).1.watch (events ++ later)).1.directory =
          ((start false).1.watch events).1.directory ∧
        ((start false).1.watch (events ++ later)).1.metrics =
          ((start false).1.watch events).1.metrics ∧
        ∀ r, ((start false).1.watch (events ++ later)).1.accepts (.reads [r]) = false) ∧
    (∀ u now, step now u (.stop false) = (u, [])) ∧
    (∀ (u : Updates) now front back, u.watch [⟨now, .reads (front ++ back)⟩] =
      u.watch [⟨now, .reads front⟩, ⟨now, .reads back⟩]) ∧
    ∀ events,
      ((start true).1.watch events).1 = { (start true).1 with supervised := !abandoned events } ∧
        ((start true).1.watch events).1.directory = Directory.empty ∧
        ((start true).1.watch events).1.reads = 0 ∧
        ∀ r, ((start true).1.watch events).1.accepts (.reads [r]) = false := by
  refine ⟨?_, ?_, fun _ _ => rfl, fun u now => step_batch now u, ?_⟩
  · intro events
    refine ⟨?_, ?_, ?_, watch_start_directory events, ?_⟩
    · rw [watch_start]
    · rw [watch_start]
    · rw [watch_start]
      exact (handleEach_reads _ _).trans (Nat.add_comm 1 _)
    · intro r
      rw [watch_start]
      exact Bool.or_false _
  · intro events later halted
    have after := watch_start_stopped halted later
    refine ⟨?_, ?_, ?_, ?_⟩
    · exact heard_append_of_stopped halted later
    · rw [after]
    · rw [after]
    · intro r
      rw [after, watch_start, halted]
      rfl
  · intro events
    have ended : (start true).1.running = false := rfl
    rw [watch_stopped ended]
    exact ⟨rfl, rfl, rfl, fun _ => rfl⟩

end ClusterDirectory.Updates
