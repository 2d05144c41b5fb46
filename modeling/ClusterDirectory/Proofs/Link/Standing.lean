import ClusterDirectory.Proofs.Link.Delivery
import ClusterDirectory.Proofs.Link.Pacing

/-!
# What a link keeps of its reads

The link holds a connection unless its last read failed, and counts the failures since the last
message: a read does both (`read_wire`, `read_backoff`), and what happens between the reads leaves
them alone (`Standing.step`). No read takes a frame without a connection (`read_ne_unconnected`).
-/

namespace ClusterDirectory.Link

theorem obstacle?_cases {l : Link} {f : Failure} (obstacle : l.obstacle? = some f) :
    (∃ reason, f = l.cannotConnect reason) ∨ f = l.timedOut := by
  unfold obstacle? at obstacle
  repeat' split at obstacle
  all_goals simp only [reduceCtorEq, Option.some.injEq] at obstacle
  all_goals subst obstacle
  all_goals first | exact .inl ⟨_, rfl⟩ | exact .inr rfl

theorem readWire_failure {l : Link} {w : Wire} {f : Failure} (up : l.wire = some w)
    (failed : l.readWire.1 = .failed f) : ∃ defect, f = closeFailure l.address defect := by
  cases found : Frame.next w.unread with
  | ok frame => simp [readWire, up, found] at failed
  | error stop =>
      by_cases waits : (couldMend stop.defect && !w.closed) = true
      · simp [readWire, up, found, waits] at failed
      · simp only [readWire, up, found, waits, Bool.false_eq_true, if_false, Result.failed.injEq]
          at failed
        exact ⟨stop.defect, failed.symm⟩

theorem read_failure {l : Link} {f : Failure} (failed : l.read.result = .failed f) :
    (∃ reason, f = l.cannotConnect reason) ∨ f = l.timedOut ∨
      ∃ defect, f = closeFailure l.address defect := by
  rcases read_cases l with
    ⟨w, up, same⟩ | ⟨down, g, obstacle, same⟩ | ⟨-, -, w, queue, notices, same⟩
  · rw [same] at failed
    exact .inr (.inr (readWire_failure up failed))
  · rw [same] at failed
    cases failed
    exact (obstacle?_cases obstacle).imp_right .inl
  · rw [same] at failed
    obtain ⟨defect, rfl⟩ := readWire_failure rfl failed
    rw [tried_eq]
    exact .inr (.inr ⟨defect, rfl⟩)

theorem read_ne_unconnected (l : Link) (address : String) :
    l.read.result ≠ .failed (.transport s!"no connection to {address}") := by
  intro failed
  have no : (toString "no connection to ").toList.head? = some 'n' := rfl
  have cannot : (toString "failed to connect to ").toList.head? = some 'f' := rfl
  have late : (toString "connection to ").toList.head? = some 'c' := rfl
  have broken : (toString "read from ").toList.head? = some 'r' := rfl
  -- the four texts differ in their first letters
  obtain ⟨reason, same⟩ | same | ⟨defect, same⟩ := read_failure failed
  all_goals
    have texts := congrArg (·.toList.head?) (Failure.transport.inj same)
    simp [no, cannot, late, broken] at texts

def Result.isMessage : Result → Bool
  | .message _ => true
  | _ => false

def Result.isFailed : Result → Bool
  | .failed _ => true
  | _ => false

/-- The number of reads that failed since the last one that gave a message. -/
def failuresInRow (results : List Result) : Nat :=
  (results.reverse.takeWhile (!·.isMessage)).countP (·.isFailed)

theorem failuresInRow_concat (results : List Result) (r : Result) :
    failuresInRow (results ++ [r]) =
      match r with
      | .message _ => 0
      | .failed _ => failuresInRow results + 1
      | .pending => failuresInRow results := by
  cases r <;> simp [failuresInRow, Result.isMessage, Result.isFailed]

namespace Trail

def told (x : Trail) : Event → List Result
  | .read => [x.link.read.result]
  | .send _ | .answer _ | .delay _ | .advance _ => []

def results (x : Trail) : List Event → List Result
  | [] => []
  | e :: events => x.told e ++ (x.step e).results events

theorem ne_unconnected_of_mem {x : Trail} {events : List Event} {r : Result}
    (member : r ∈ x.results events) (address : String) :
    r ≠ .failed (.transport s!"no connection to {address}") := by
  induction events generalizing x with
  | nil => cases member
  | cons e events ih =>
      rcases List.mem_append.1 member with now | later
      · cases e with
        | read =>
            rw [List.mem_singleton.1 now]
            exact read_ne_unconnected x.link address
        | send _ | answer _ | delay _ | advance _ => cases now
      · exact ih later

end Trail

structure Standing (x : Trail) (results : List Result) : Prop where
  held : x.link.wire.isSome ↔ ∀ f, results.getLast? ≠ some (.failed f)
  counted : x.failures.length = failuresInRow results

namespace Standing

variable {x : Trail} {results : List Result}

theorem read (h : Standing x results) :
    Standing (x.step .read) (results ++ [x.link.read.result]) where
  held := by
    rw [List.getLast?_concat]
    exact (read_wire x.link).trans (forall_congr' fun f => not_congr Option.some_inj.symm)
  counted := by
    rw [failuresInRow_concat]
    cases ended : x.link.read.result with
    | message payload => simp [Trail.step, Trail.ended, ended]
    | failed f => simp [Trail.step, Trail.ended, ended, h.counted]
    | pending => simp [Trail.step, Trail.ended, ended, h.counted]

theorem step (h : Standing x results) (e : Event) : Standing (x.step e) (results ++ x.told e) := by
  cases e with
  | send t =>
      rw [Trail.told, List.append_nil]
      exact ⟨by rw [Trail.step, (send_keeps x.link t).2.2, h.held], h.counted⟩
  | answer _ | delay _ | advance _ =>
      rw [Trail.told, List.append_nil]
      exact ⟨h.held, h.counted⟩
  | read => exact h.read

theorem run (h : Standing x results) (events : List Event) :
    Standing (x.run events) (results ++ x.results events) := by
  induction events generalizing x results with
  | nil =>
      rw [Trail.results, List.append_nil]
      exact h
  | cons e events ih =>
      rw [Trail.results, ← List.append_assoc]
      exact ih (h.step e)

theorem start {l k : Link} {begun : List Notice} (connected : connect l = (.ok k, begun)) :
    Standing ⟨k, []⟩ [] := by
  obtain ⟨-, rfl⟩ := connect_ok connected
  exact ⟨by simp, rfl⟩

theorem held_between (h : Standing x results) (between : results.getLast? ≠ some .pending) :
    x.link.wire.isSome ↔
      results = [] ∨ ∃ payload, results.getLast? = some (.message payload) := by
  rw [h.held]
  cases last : results.getLast? with
  | none => simp [List.getLast?_eq_none_iff.1 last]
  | some r =>
      have nonempty : results ≠ [] := by
        rintro nothing
        rw [nothing] at last
        cases last
      cases r with
      | message payload => simp
      | failed f => simp [nonempty]
      | pending => exact absurd last between

end Standing

/-- Between reads a link holds a connection if none was made yet or the last one gave a message, and
only then; a read that is pending holds one as well. Each read that fails adds one to the failures
since the last message, wherever it fails, and opening a connection takes none away. -/
theorem standing_of_reads {settings : StreamSettings} {answer : Answer} {latency : Nat}
    {queue : List Transmission} {began : Nat} {l : Link} {begun : List Notice}
    (connected : connect { settings, answer, latency, queue, now := began } = (.ok l, begun))
    (events : List Event) :
    let k := ((⟨l, []⟩ : Trail).run events).link
    let results := (⟨l, []⟩ : Trail).results events
    (results.getLast? ≠ some .pending →
        (k.wire.isSome ↔ results = [] ∨ ∃ payload, results.getLast? = some (.message payload))) ∧
      (results.getLast? = some .pending → k.wire.isSome) ∧
      k.backoff.failures = min (failuresInRow results) 0xFFFFFFFF ∧
      (∀ f, k.read.result = .failed f →
        k.read.link.backoff.failures = min (k.backoff.failures + 1) 0xFFFFFFFF ∧
          k.read.link.backoff.lastFailure = some k.read.link.now) ∧
      (k.wire = none → ∀ f, k.reconnect.result = .error f →
        k.read.result = .failed f ∧ k.read.link = k.reconnect.link) ∧
      (k.reconnect.result = .ok () →
        k.reconnect.link.backoff = k.backoff ∧ k.reconnect.link.wire.isSome) ∧
      (0 < k.backoff.failures → k.backoff.lastFailure.isSome) ∧
      ∀ r ∈ results, ∀ address : String,
        r ≠ .failed (.transport s!"no connection to {address}") := by
  intro k results
  have paced : Paced ((⟨l, []⟩ : Trail).run events) := (Paced.start connected).run events
  have standing : Standing ((⟨l, []⟩ : Trail).run events) results :=
    (Standing.start connected).run events
  refine ⟨standing.held_between, ?_, ?_, ?_, fun down f => read_of_reconnect_error down,
    reconnect_ok, paced.recorded, fun r member => Trail.ne_unconnected_of_mem member⟩
  · intro pending
    rw [standing.held, pending]
    exact fun f => nofun
  · rw [← standing.counted]
    exact paced.count
  · intro f failed
    rw [read_backoff, failed]
    exact ⟨rfl, rfl⟩

/-- Two failures, with the end of the connection and with an attempt that is not answered, are not
forgotten when a connection is opened and the read over it is pending. -/
theorem standing_of_reads_reopened :
    ∃ l begun,
      connect { settings := ⟨"publisher.local:9092", 5⟩, answer := .accepted, latency := 3 } =
        (.ok l, begun) ∧
      let events : List Event := [.send ⟨[1, 0x61], true⟩, .read, .answer .silent, .read, .read,
        .answer .accepted, .read, .send ⟨[2], true⟩, .read]
      let k := ((⟨l, []⟩ : Trail).run events).link
      let results := (⟨l, []⟩ : Trail).results events
      results.map Result.isFailed = [false, true, true, false, true] ∧
        results.getLast? ≠ some .pending ∧ k.wire = none ∧
        k.backoff.failures = 3 ∧ k.backoff.lastFailure.isSome := by
  obtain ⟨l, begun, connected⟩ : ∃ l begun,
    connect { settings := ⟨"publisher.local:9092", 5⟩, answer := .accepted, latency := 3 } =
      (.ok l, begun) := ⟨_, _, rfl⟩
  refine ⟨l, begun, connected, ?_⟩
  intro events k results
  obtain ⟨held, -, count, -, -, -, timed, -⟩ := standing_of_reads connected events
  cases connected
  have ended : results.map Result.isFailed = [false, true, true, false, true] := by decide
  have between : results.getLast? ≠ some .pending := by decide
  have failures : k.backoff.failures = 3 := count.trans (by decide)
  have last : results.getLast?.map Result.isFailed = some true := by
    rw [← List.getLast?_map, ended]
    rfl
  refine ⟨ended, between, ?_, failures, timed (by rw [failures]; decide)⟩
  refine Option.not_isSome_iff_eq_none.1 fun up => ?_
  have given : results = [] ∨ ∃ payload, results.getLast? = some (.message payload) :=
    (held between).1 up
  obtain nothing | ⟨payload, given⟩ := given
  · rw [nothing] at last
    cases last
  · rw [given] at last
    cases last

end ClusterDirectory.Link
