import ClusterDirectory.Proofs.Stream.Connections
import ClusterDirectory.Proofs.Updates.Stop
import ClusterDirectory.Service

/-!
# Requests change nothing

A request for the metrics brings the gauges up to date. The updates do so after every change, and no
other read moves the directory, so there is never anything to bring up to date (`Current`): a
request leaves the service as it was (`respond_current`). So requests can be left out of a run, and
all else in it stays as it is (`record_without_requests`).
-/

namespace ClusterDirectory

theorem Metrics.setEntries_recordMessage (m : Metrics) (o : Outcome) (addresses nodes : UInt64) :
    (m.recordMessage o).setEntries addresses nodes =
      (m.setEntries addresses nodes).recordMessage o := by
  cases o <;> rfl

namespace Updates

/-- The gauges are up to date: to set them again changes nothing. -/
def Current (u : Updates) : Prop :=
  u.metrics.setEntries (UInt64.ofNat u.directory.counts.1) (UInt64.ofNat u.directory.counts.2) =
    u.metrics

namespace Current

variable {u : Updates}

theorem start (stopped : Bool) : (Updates.start stopped).1.Current := by
  cases stopped <;> rfl

theorem handle (h : u.Current) (now : UInt64) (r : Read) : (u.handle now r).1.Current := by
  cases found : change? r with
  | none =>
      rw [handle_of_none found]
      exact (Metrics.setEntries_recordMessage ..).trans (congrArg (·.recordMessage (outcome r)) h)
  | some c =>
      rw [handle_of_change found]
      rfl

theorem handleAll (h : u.Current) (now : UInt64) (batch : List Read) :
    (u.handleAll now batch).1.Current := by
  induction batch generalizing u with
  | nil => exact h
  | cons r batch ih => exact ih (h.handle now r)

theorem halt (h : u.Current) : u.halt.1.Current := by
  unfold Updates.halt
  split <;> exact h

theorem step (h : u.Current) (now : UInt64) (s : Step) : (u.step now s).1.Current := by
  cases s with
  | reads batch =>
      simp only [Updates.step]
      split
      · exact h.handleAll now batch
      · exact h
  | stop asked =>
      simp only [Updates.step]
      split
      · exact h.halt
      · exact h
  | abandon =>
      have still : { u with supervised := false }.Current := h
      exact still.halt

end Current

end Updates

theorem Stream.current_next {s : Stream} (h : s.updates.Current) (now : UInt64) :
    (s.next now).2.1.updates.Current := by
  unfold next
  split
  · dsimp only
    cases readOf s.link.read.result with
    | none => exact h
    | some r => exact h.handle now r
  · exact h

namespace Http.Site

theorem respond_site {s : Site} (current : s.refreshed = s) (q : Request) :
    (s.respond q).2.1 = s := by
  have same (route : Route) : (s.get route).2.1 = s := by
    cases route with
    | metrics => exact current
    | _ => rfl
  unfold respond
  cases Route.ofPath? q.target.path with
  | none => rfl
  | some route =>
      cases q.method with
      | get => exact same route
      | head => exact same route
      | other name => rfl

def statuses : List Nat := [200, 400, 404, 405]

theorem found_status (what : String) (r : Option Resource) : (found what r).status ∈ statuses := by
  cases r with
  | none => exact (by decide : 404 ∈ statuses)
  | some r => exact (by decide : 200 ∈ statuses)

theorem withParameter_status {name : String} {segment : List Char}
    {lookup : String → Response × List Notice}
    (known : ∀ text, (lookup text).1.status ∈ statuses) :
    (withParameter name segment lookup).1.status ∈ statuses := by
  unfold withParameter
  split
  · exact known _
  · exact (by decide : 400 ∈ statuses)

theorem get_status {s : Site} {d : Directory} (stream : s.source = .stream d) (route : Route) :
    (s.get route).1.status ∈ statuses := by
  cases route with
  | health => exact (by decide : 200 ∈ statuses)
  | metrics => exact (by decide : 200 ∈ statuses)
  | address segment =>
      refine withParameter_status fun text => ?_
      unfold lookupAddress
      split
      · exact (by decide : 400 ∈ statuses)
      · exact found_status ..
  | node segment =>
      refine withParameter_status fun name => ?_
      simp only [lookupNode, stream, Source.node?]
      exact found_status ..

theorem respond_status {s : Site} {d : Directory} (stream : s.source = .stream d) (q : Request) :
    (s.respond q).1.status ∈ statuses := by
  unfold respond
  split
  · exact (by decide : 404 ∈ statuses)
  · split
    · exact get_status stream _
    · exact get_status stream _
    · exact (by decide : 405 ∈ statuses)

end Http.Site

namespace Service

inductive Event
  | action (a : Stream.Action)
  | update (e : Updates.Event)
  | request (q : Http.Request)

def Event.isRequest : Event → Bool
  | .request _ => true
  | _ => false

def step (s : Stream) : Event → Stream × Option Http.Response
  | .action a => ((s.act a).1, none)
  | .update e => ({ s with updates := (s.updates.step e.now e.step).1 }, none)
  | .request q => ((respond s q).2.1, some (respond s q).1)

structure Seen where
  event : Event
  response : Option Http.Response
  after : Stream

def record {α : Type} (s : Stream) : List (α × Event) → List (α × Seen)
  | [] => []
  | (mark, e) :: events =>
      (mark, ⟨e, (step s e).2, (step s e).1⟩) :: record (step s e).1 events

theorem site_current {s : Stream} (h : s.updates.Current) : (site s).refreshed = site s := by
  have current : (site s).refreshed =
      ⟨s.source, s.updates.metrics.setEntries (UInt64.ofNat s.updates.directory.counts.1)
        (UInt64.ofNat s.updates.directory.counts.2)⟩ := rfl
  rw [current, h]
  rfl

theorem respond_current {s : Stream} (h : s.updates.Current) (q : Http.Request) :
    (respond s q).2.1 = s := by
  have same := Http.Site.respond_site (site_current h) q
  unfold respond
  dsimp only
  rw [same]
  rfl

theorem step_current {s : Stream} (h : s.updates.Current) (e : Event) :
    (step s e).1.updates.Current := by
  cases e with
  | action a =>
      cases a with
      | send _ | delay _ | advance _ => exact h
      | read now => exact Stream.current_next h now
  | update e => exact h.step e.now e.step
  | request q =>
      rw [step, respond_current h]
      exact h

def stays {α : Type} (out : α → Bool) (mark : α) (e : Event) : Bool := !(out mark && e.isRequest)

theorem record_filter {α : Type} (out : α → Bool) {s : Stream} (h : s.updates.Current)
    (events : List (α × Event)) :
    record s (events.filter fun e => stays out e.1 e.2) =
      (record s events).filter fun e => stays out e.1 e.2.event := by
  induction events generalizing s with
  | nil => rfl
  | cons first events ih =>
      obtain ⟨mark, e⟩ := first
      have rest := ih (step_current h e)
      cases stay : stays out mark e with
      | true =>
          rw [List.filter_cons_of_pos (by exact stay), record, record,
            List.filter_cons_of_pos (by exact stay), rest]
      | false =>
          -- what is left out is a request, and it leaves the service as it was
          rw [List.filter_cons_of_neg (by simp [stay]), record,
            List.filter_cons_of_neg (by simp [stay]), ← rest]
          cases e with
          | request q => rw [step, respond_current h]
          | action a => simp [stays, Event.isRequest] at stay
          | update e => simp [stays, Event.isRequest] at stay

/-- Whichever requests are left out of a run, every other request has the response that it had, and
after every other event the service is as it was. -/
theorem record_without_requests :
    (∀ {α : Type} (l : Link) (stopped : Bool) (events : List (α × Event)) (out : α → Bool),
      let s : Stream := ⟨l, (Updates.start stopped).1⟩
      record s (events.filter fun e => stays out e.1 e.2) =
        (record s events).filter fun e => stays out e.1 e.2.event) ∧
    ∀ (s : Stream) (q : Http.Request),
      (respond s q).1.status ∈ ([200, 400, 404, 405] : List Nat) := by
  refine ⟨?_, ?_⟩
  · intro α l stopped events out s
    exact record_filter out (Updates.Current.start stopped) events
  · intro s q
    have stream : (site s).source = .stream s.updates.directory := rfl
    exact Http.Site.respond_status stream q

end Service

end ClusterDirectory
