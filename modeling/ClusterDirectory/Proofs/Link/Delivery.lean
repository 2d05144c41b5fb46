import ClusterDirectory.Proofs.Frame.Sequence
import ClusterDirectory.Proofs.Link.Read

/-!
# What a link delivers

The publisher's transmissions make up connections, however they are cut and whenever they are sent
(`connections`). `Carries` says what is still to be read over a link: the rest of the connection
that is up, and the connections after it. Sending and the passing of time leave that as it is, and
a read takes one frame from the front of it, or one connection of which no further frame can be read
(`Carries.read`).
-/

namespace ClusterDirectory.Link

/-- The bytes of each connection that is closed, and the bytes of the one that stays open. -/
def connections : List Transmission → List (List UInt8) × List UInt8
  | [] => ([], [])
  | t :: ts =>
      if t.closes then (t.bytes :: (connections ts).1, (connections ts).2)
      else
        match connections ts with
        | ([], last) => ([], t.bytes ++ last)
        | (c :: cs, last) => ((t.bytes ++ c) :: cs, last)

theorem connections_closes (bytes : List UInt8) (ts : List Transmission) :
    connections (⟨bytes, true⟩ :: ts) = (bytes :: (connections ts).1, (connections ts).2) := rfl

@[simp] theorem connections_empty (ts : List Transmission) :
    connections (⟨[], false⟩ :: ts) = connections ts := by
  rw [connections]
  split
  · contradiction
  · split <;> simp_all

theorem connections_merge (a b : List UInt8) (closes : Bool) (ts : List Transmission) :
    connections (⟨a, false⟩ :: ⟨b, closes⟩ :: ts) = connections (⟨a ++ b, closes⟩ :: ts) := by
  cases closes with
  | true => rfl
  | false => rcases read : connections ts with ⟨_ | ⟨c, cs⟩, last⟩ <;> simp [connections, read]

def afterClose : List Transmission → List Transmission
  | [] => []
  | t :: ts => if t.closes then ts else afterClose ts

theorem connections_afterClose {ts : List Transmission} {c last : List UInt8}
    {cs : List (List UInt8)} (h : connections ts = (c :: cs, last)) :
    connections (afterClose ts) = (cs, last) := by
  induction ts generalizing c with
  | nil => cases h
  | cons t ts ih =>
      rw [connections] at h
      rw [afterClose]
      split at h
      · rename_i closes
        cases h
        rw [if_pos closes]
      · rename_i more
        rw [if_neg more]
        split at h
        · cases h
        · rename_i later
          cases h
          exact ih later

def Wire.transmission (w : Wire) : Transmission := ⟨w.unread, w.closed⟩

def ahead (l : Link) : List Transmission :=
  (l.wire.map Wire.transmission).toList ++ l.queue

theorem connections_deliver (w : Wire) (isOpen : w.closed = false)
    (queue later : List Transmission) :
    connections (Wire.transmission (deliver w queue).1 :: ((deliver w queue).2 ++ later)) =
      connections (Wire.transmission w :: (queue ++ later)) := by
  induction queue generalizing w with
  | nil => rfl
  | cons t ts ih =>
      have merged : connections (Wire.transmission w :: (t :: ts ++ later)) =
          connections (Wire.transmission (w.send t) :: (ts ++ later)) := by
        simp only [Wire.transmission, isOpen, List.cons_append]
        exact connections_merge w.unread t.bytes t.closes (ts ++ later)
      rw [merged, deliver]
      split
      · rfl
      · rename_i more
        exact ih (w.send t) (by simpa [Wire.send] using more)

theorem queue_of_deliver_open {w : Wire} (isOpen : w.closed = false) {queue : List Transmission}
    (still : (deliver w queue).1.closed = false) : (deliver w queue).2 = [] := by
  induction queue generalizing w with
  | nil => rfl
  | cons t ts ih =>
      rw [deliver] at still ⊢
      split
      · rename_i closes
        simp [closes, Wire.send] at still
      · rename_i more
        rw [if_neg more] at still
        exact ih (by simpa [Wire.send] using more) still

theorem any_closes_deliver {w : Wire} (isOpen : w.closed = false) (queue : List Transmission) :
    ((deliver w queue).1.closed || (deliver w queue).2.any (·.closes)) = queue.any (·.closes) := by
  induction queue generalizing w with
  | nil => simp [deliver, isOpen]
  | cons t ts ih =>
      rw [deliver]
      split
      · rename_i closes
        simp [closes, Wire.send]
      · rename_i more
        rw [ih (by simpa [Wire.send] using more)]
        simp [more]

/-- A publisher that can be reached at `address` carries the connections `coming` over the link,
with what it sends in the future. -/
structure Carries (address : String) (l : Link) (future : List Transmission)
    (coming : List (List UInt8)) : Prop where
  named : l.address = address
  reachable : l.obstacle? = none
  /-- nothing is kept back while the connection that is up takes more -/
  sent : ∀ w, l.wire = some w → w.closed = false → l.queue = []
  coming : connections (l.ahead ++ future) = (coming, [])

namespace Carries

variable {address : String} {l : Link} {future : List Transmission}
  {coming : List (List UInt8)}

theorem send {t : Transmission} (h : Carries address l (t :: future) coming) :
    Carries address (l.send t) future coming := by
  obtain ⟨named, reachable, sent, all⟩ := h
  cases up : l.wire with
  | none =>
      have after : l.send t = { l with queue := l.queue ++ [t] } := by simp [Link.send, up]
      rw [after]
      refine ⟨named, (obstacle?_congr rfl rfl).trans reachable, by simp [up], ?_⟩
      simpa [ahead, up] using all
  | some w =>
      cases closed : w.closed with
      | true =>
          have after : l.send t = { l with queue := l.queue ++ [t] } := by
            simp [Link.send, up, closed]
          rw [after]
          refine ⟨named, (obstacle?_congr rfl rfl).trans reachable, ?_,
            by simpa [ahead, up] using all⟩
          intro v eq isOpen
          cases up.symm.trans eq
          rw [closed] at isOpen
          contradiction
      | false =>
          have nothing : l.queue = [] := sent w up closed
          have after : l.send t = { l with wire := some (w.send t) } := by
            simp [Link.send, up, closed]
          rw [after]
          refine ⟨named, (obstacle?_congr rfl rfl).trans reachable, fun _ _ _ => nothing, ?_⟩
          rw [← all]
          simp only [ahead, up, nothing, Option.map_some, Option.toList_some, List.append_nil,
            List.cons_append, List.nil_append, Wire.transmission, Wire.send, closed]
          exact (connections_merge w.unread t.bytes t.closes future).symm

theorem advance (h : Carries address l future coming) (nanoseconds : Nat) :
    Carries address (l.advance nanoseconds) future coming :=
  ⟨h.named, (obstacle?_congr rfl rfl).trans h.reachable, h.sent, h.coming⟩

theorem delay (h : Carries address l future coming) (nanoseconds : Nat) :
    Carries address (l.delay nanoseconds) future coming :=
  ⟨h.named, (obstacle?_congr rfl rfl).trans h.reachable, h.sent, h.coming⟩

theorem up {w : Wire} (h : Carries address l future coming) (up : l.wire = some w) :
    (w.closed = false ∧ w.unread = [] ∧ coming = []) ∨
      ∃ unsent cs, coming = (w.unread ++ unsent) :: cs ∧
        (w.closed = true → unsent = [] ∧ connections (l.queue ++ future) = (cs, [])) ∧
        (w.closed = false → future ≠ []) ∧
        ∀ unread, connections (⟨unread, w.closed⟩ :: (l.queue ++ future)) =
          ((unread ++ unsent) :: cs, []) := by
  have all := h.coming
  simp only [ahead, up, Option.map_some, Option.toList_some, Wire.transmission, List.cons_append,
    List.nil_append] at all
  cases closed : w.closed with
  | true =>
      rw [closed, connections_closes, Prod.mk.injEq] at all
      refine .inr ⟨[], (connections (l.queue ++ future)).1, ?_, fun _ => ⟨rfl, ?_⟩, by simp, ?_⟩
      · rw [List.append_nil, ← all.1]
      · rw [← all.2]
      · intro unread
        rw [connections_closes, List.append_nil, all.2]
  | false =>
      rw [closed, connections, if_neg Bool.false_ne_true] at all
      rcases later : connections (l.queue ++ future) with ⟨_ | ⟨c, cs⟩, last⟩
      · simp only [later, Prod.mk.injEq, List.append_eq_nil_iff] at all
        exact .inl ⟨rfl, all.2.1, all.1.symm⟩
      · simp only [later, Prod.mk.injEq] at all
        refine .inr ⟨c, cs, all.1.symm, by simp, ?_, ?_⟩
        · rintro - rfl
          rw [h.sent w up closed] at later
          cases later
        · intro unread
          rw [connections, if_neg Bool.false_ne_true, later, all.2]

end Carries

def closeFailure (address : String) (defect : Frame.Defect) : Failure :=
  .transport s!"read from {address} failed: {defect.message}"

/-- The results of reading whole connections: their frames, and one failure for each. -/
def results (address : String) (coming : List (List UInt8)) : List Result :=
  coming.flatMap fun bytes =>
    (Frame.readAll bytes).1.map .message ++
      [.failed (closeFailure address (Frame.readAll bytes).2.defect)]

theorem ne_pending_of_mem_results {address : String} {coming : List (List UInt8)} {r : Result}
    (member : r ∈ results address coming) : r ≠ .pending := by
  rintro rfl
  simp [results] at member

def EndEarly (coming : List (List UInt8)) : Prop :=
  ∀ bytes ∈ coming, couldMend (Frame.readAll bytes).2.defect

theorem results_frame {address : String} {c payload rest : List UInt8} {cs : List (List UInt8)}
    (found : Frame.next c = .ok (payload, rest)) :
    results address (c :: cs) = .message payload :: results address (rest :: cs) := by
  simp [results, Frame.readAll_ok found]

theorem results_close {address : String} {c : List UInt8} {cs : List (List UInt8)}
    {stop : Frame.Stop} (found : Frame.next c = .error stop) :
    results address (c :: cs) =
      .failed (closeFailure address stop.defect) :: results address cs := by
  simp [results, Frame.readAll_error found]

theorem EndEarly.frame {c payload rest : List UInt8} {cs : List (List UInt8)}
    (h : EndEarly (c :: cs)) (found : Frame.next c = .ok (payload, rest)) :
    EndEarly (rest :: cs) := by
  intro bytes member
  rcases List.mem_cons.1 member with rfl | member
  · have first := h c List.mem_cons_self
    rwa [Frame.readAll_ok found] at first
  · exact h bytes (List.mem_cons_of_mem _ member)

/-- What the publisher still sends after a read. A connection on which a read fails is gone on both
sides, so what was yet to be sent on it is lost. -/
def unsent (l : Link) (r : Result) (script : List Transmission) : List Transmission :=
  match r with
  | .failed _ => if l.ahead.any (·.closes) then script else afterClose script
  | _ => script

theorem unsent_congr {l k : Link} (same : l.ahead.any (·.closes) = k.ahead.any (·.closes))
    (r : Result) (script : List Transmission) : l.unsent r script = k.unsent r script := by
  simp only [unsent, same]

namespace Carries

variable {address : String} {l : Link} {future : List Transmission}
  {coming : List (List UInt8)}

theorem giveUp {w : Wire} {later : List UInt8} {cs : List (List UInt8)}
    (h : Carries address l future coming) (up : l.wire = some w)
    (rest : connections (⟨[], w.closed⟩ :: (l.queue ++ future)) = (later :: cs, [])) (f : Failure) :
    Carries address ({ l with wire := none }.recordFailure) (l.unsent (.failed f) future) cs := by
  refine ⟨h.named, (obstacle?_congr rfl rfl).trans h.reachable, by simp [recordFailure], ?_⟩
  have left : ({ l with wire := none }.recordFailure).ahead = l.queue := rfl
  rw [left]
  cases closed : w.closed with
  | true =>
      have kept : l.unsent (.failed f) future = future := by
        simp [unsent, ahead, up, Wire.transmission, closed]
      rw [closed, connections_closes, Prod.mk.injEq, List.cons.injEq] at rest
      rw [kept, ← rest.1.2, ← rest.2]
  | false =>
      have nothing : l.queue = [] := h.sent w up closed
      have lost : l.unsent (.failed f) future = afterClose future := by
        simp [unsent, ahead, up, Wire.transmission, closed, nothing]
      rw [closed, connections_empty, nothing] at rest
      rw [lost, nothing]
      exact connections_afterClose rest

theorem readWire (h : Carries address l future coming) (up : l.wire.isSome = true) :
    (l.readWire = (.pending, l) ∧ (future = [] → coming = [])) ∨
      ∃ remaining, results address coming = l.readWire.1 :: results address remaining ∧
        Carries address l.readWire.2 (l.unsent l.readWire.1 future) remaining ∧
        (EndEarly coming → EndEarly remaining ∧ l.unsent l.readWire.1 future = future) := by
  obtain ⟨w, up⟩ := Option.isSome_iff_exists.1 up
  rcases h.up up with ⟨isOpen, nothing, rfl⟩ | ⟨later, cs, rfl, whenClosed, whenOpen, rest⟩
  · refine .inl ⟨?_, fun _ => rfl⟩
    simp [Link.readWire, up, nothing, isOpen, Frame.next, Frame.readLength, couldMend]
  cases found : Frame.next w.unread with
  | ok frame =>
      obtain ⟨payload, unread⟩ := frame
      have first := Frame.next_append found later
      have taken : l.readWire = (.message payload,
          { l with wire := some { w with unread }, backoff := l.backoff.recordSuccess }) := by
        simp [Link.readWire, up, found]
      rw [taken]
      refine .inr ⟨(unread ++ later) :: cs, results_frame first, ?_, fun early =>
        ⟨early.frame first, rfl⟩⟩
      refine ⟨h.named, (obstacle?_congr rfl rfl).trans h.reachable, ?_, ?_⟩
      · rintro v eq isOpen
        cases eq
        exact h.sent w up isOpen
      · simpa [ahead, Wire.transmission, unsent] using rest unread
  | error stop =>
      by_cases waits : (couldMend stop.defect && !w.closed) = true
      · simp only [Bool.and_eq_true, Bool.not_eq_true'] at waits
        refine .inl ⟨by simp [Link.readWire, up, found, waits], fun none => ?_⟩
        exact absurd none (whenOpen waits.2)
      · have failed : l.readWire = (.failed (closeFailure address stop.defect),
            { l with wire := none }.recordFailure) := by
          rw [← h.named]
          simp [Link.readWire, up, found, waits, closeFailure]
        -- what is still unsent does not mend the defect
        obtain ⟨whole, same, first⟩ : ∃ whole, whole.defect = stop.defect ∧
            Frame.next (w.unread ++ later) = .error whole := by
          cases closed : w.closed with
          | true =>
              rw [(whenClosed closed).1, List.append_nil]
              exact ⟨stop, rfl, found⟩
          | false =>
              rcases Frame.next_stop found with ⟨n, t, rfl, -, -⟩ | rfl | rfl
              · exact ⟨⟨.tooLong n, t ++ later⟩, rfl, Frame.next_append_tooLong found later⟩
              all_goals simp [couldMend, closed] at waits
        rw [failed]
        refine .inr ⟨cs, ?_, h.giveUp up (rest []) _, fun early => ⟨fun bytes member =>
          early bytes (List.mem_cons_of_mem _ member), ?_⟩⟩
        · rw [results_close first, same]
        · have mends := early _ List.mem_cons_self
          rw [Frame.readAll_error first, same] at mends
          have closed : w.closed = true := by simpa [mends] using waits
          simp [unsent, ahead, up, Wire.transmission, closed]

theorem openWire (h : Carries address l future coming) (down : l.wire = none) :
    ∃ k notices, l.openWire = (.ok k, notices) ∧ Carries address k future coming ∧
      k.wire.isSome = true ∧ k.ahead.any (·.closes) = l.ahead.any (·.closes) := by
  refine ⟨_, _, openWire_of_reachable h.reachable, ?_, rfl, ?_⟩
  · refine ⟨h.named, (obstacle?_congr rfl rfl).trans h.reachable, ?_, ?_⟩
    · rintro w eq isOpen
      cases eq
      exact queue_of_deliver_open (w := {}) rfl isOpen
    · rw [← h.coming]
      simp only [ahead, down, Option.map_some, Option.map_none, Option.toList_some,
        Option.toList_none, List.cons_append, List.nil_append]
      rw [connections_deliver {} rfl l.queue future]
      exact connections_empty (l.queue ++ future)
  · simp only [ahead, down, Option.map_some, Option.map_none, Option.toList_some,
      Option.toList_none, List.cons_append, List.nil_append, List.any_cons, Wire.transmission]
    exact any_closes_deliver (w := {}) rfl l.queue

theorem reconnect (h : Carries address l future coming) (down : l.wire = none) :
    l.reconnect.result = .ok () ∧ Carries address l.reconnect.link future coming ∧
      l.reconnect.link.wire.isSome = true ∧
      l.reconnect.link.ahead.any (·.closes) = l.ahead.any (·.closes) := by
  have tried := tried_eq l
  have later := (h.advance l.pause.waited).advance l.attemptTime
  rw [← tried] at later
  obtain ⟨k, notices, opened, carries, isUp, same⟩ := later.openWire (by rw [tried]; exact down)
  obtain ⟨result, link⟩ := reconnect_of_openWire opened
  rw [link]
  refine ⟨result, carries, isUp, ?_⟩
  rw [same, tried]
  rfl

theorem read (h : Carries address l future coming) :
    (l.read.result = .pending ∧ Carries address l.read.link future coming ∧
        (future = [] → coming = [])) ∨
      ∃ remaining, results address coming = l.read.result :: results address remaining ∧
        Carries address l.read.link (l.unsent l.read.result future) remaining ∧
        (EndEarly coming → EndEarly remaining ∧ l.unsent l.read.result future = future) := by
  cases up : l.wire.isSome with
  | true =>
      rw [(read_of_up up).1, (read_of_up up).2]
      rcases h.readWire up with ⟨pending, done⟩ | taken
      · exact .inl (by rw [pending]; exact ⟨rfl, h, done⟩)
      · exact .inr taken
  | false =>
      obtain ⟨result, carries, isUp, same⟩ := h.reconnect (by simpa using up)
      rw [(read_of_reconnect up result).1, (read_of_reconnect up result).2]
      rcases carries.readWire isUp with ⟨pending, done⟩ | ⟨remaining, taken⟩
      · exact .inl (by rw [pending]; exact ⟨rfl, carries, done⟩)
      · rw [unsent_congr same] at taken
        exact .inr ⟨remaining, taken⟩

theorem of_connect {settings : StreamSettings} {latency : Nat} {begun : List Notice}
    (connected : connect { settings, answer := .accepted, latency } = (.ok l, begun))
    (sent : connections future = (coming, [])) : Carries settings.address l future coming := by
  obtain ⟨reachable, rfl⟩ := connect_ok connected
  refine ⟨rfl, (obstacle?_congr rfl rfl).trans reachable, fun _ _ _ => rfl, ?_⟩
  rw [← sent]
  exact connections_empty future

theorem read_early (h : Carries address l future coming) (early : EndEarly coming) :
    (l.read.result = .pending ∧ Carries address l.read.link future coming ∧
        (future = [] → coming = [])) ∨
      ∃ remaining, results address coming = l.read.result :: results address remaining ∧
        Carries address l.read.link future remaining ∧ EndEarly remaining := by
  rcases h.read with pending | ⟨remaining, first, carries, stays⟩
  · exact .inl pending
  · obtain ⟨early, same⟩ := stays early
    rw [same] at carries
    exact .inr ⟨remaining, first, carries, early⟩

end Carries

end ClusterDirectory.Link
