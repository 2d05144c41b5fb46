import ClusterDirectory.Proofs.Link.Delivery
import ClusterDirectory.Proofs.Updates.Handled
import ClusterDirectory.Stream

/-!
# Connections that are cut

A publisher sends frames over one connection after the other, and each connection is closed after
some of their bytes. Whenever the bytes arrive, and whenever the updates read, what they handle is
the payloads that came whole, in order, with one failed read at the end of each connection
(`directory_of_cut_connections`).
-/

namespace ClusterDirectory

/-- Payloads that are sent in frames over a connection, and how many of the bytes are sent before it
is closed. -/
structure Connection where
  payloads : List (List UInt8)
  cut : Nat

namespace Connection

def bytes (c : Connection) : List UInt8 := (Frame.encodeAll c.payloads).take c.cut

def whole (c : Connection) : List (List UInt8) := Frame.whole c.payloads c.cut

end Connection

namespace Stream

inductive Action
  | send (t : Transmission)
  | delay (nanoseconds : Nat)
  | advance (nanoseconds : Nat)
  | read (now : UInt64)

def ready (s : Stream) : List Updates.Read :=
  if s.updates.running then (readOf s.link.read.result).toList else []

def act (s : Stream) : Action → Stream × List Updates.Read
  | .send t => ({ s with link := s.link.send t }, [])
  | .delay n => ({ s with link := s.link.delay n }, [])
  | .advance n => ({ s with link := s.link.advance n }, [])
  | .read now => ((s.next now).2.1, s.ready)

def run (s : Stream) : List Action → Stream × List Updates.Read
  | [] => (s, [])
  | a :: as =>
      let (s, first) := s.act a
      let (s, more) := run s as
      (s, first ++ more)

def sends (actions : List Action) : List Transmission :=
  actions.filterMap fun
    | .send t => some t
    | _ => none

@[simp] theorem sends_append (as bs : List Action) : sends (as ++ bs) = sends as ++ sends bs :=
  List.filterMap_append

@[simp] theorem sends_reads (nows : List UInt64) : sends (nows.map .read) = [] := by
  simp [sends]

theorem run_append (s : Stream) (as bs : List Action) :
    s.run (as ++ bs) = (((s.run as).1.run bs).1, (s.run as).2 ++ ((s.run as).1.run bs).2) := by
  induction as generalizing s with
  | nil => rfl
  | cons a as ih => simp only [List.cons_append, run, ih, List.append_assoc]

def expected (address : String) (coming : List (List UInt8)) : List Updates.Read :=
  (Link.results address coming).filterMap readOf

structure Serves (address : String) (s : Stream) (future : List Transmission)
    (coming : List (List UInt8)) (handled : List Updates.Read) : Prop where
  carries : s.link.Carries address future coming
  early : Link.EndEarly coming
  updates : s.updates.Handled handled

namespace Serves

variable {address : String} {s : Stream} {future : List Transmission}
  {coming : List (List UInt8)} {handled : List Updates.Read}

theorem read (h : Serves address s future coming handled) (now : UInt64) :
    ∃ remaining, expected address coming = s.ready ++ expected address remaining ∧
      Serves address (s.next now).2.1 future remaining (handled ++ s.ready) ∧
      (future = [] → s.ready = [] → coming = []) := by
  have running := h.updates.running
  rcases h.carries.read_early h.early with
    ⟨pending, carries, done⟩ | ⟨remaining, first, carries, early⟩
  · refine ⟨coming, ?_, ?_, fun none _ => done none⟩
    · simp [ready, running, pending, readOf]
    · have same :
          s.next now = (false, { s with link := s.link.read.link }, s.link.read.notices) := by
        simp [next, running, pending, readOf]
      rw [same]
      refine ⟨carries, h.early, ?_⟩
      simpa [ready, running, pending, readOf] using h.updates
  · have taken {r : Updates.Read} (found : readOf s.link.read.result = some r) :
        expected address coming = s.ready ++ expected address remaining ∧
          Serves address (s.next now).2.1 future remaining (handled ++ s.ready) ∧
          (future = [] → s.ready = [] → coming = []) := by
      have one : s.ready = [r] := by simp [ready, running, found]
      have after : (s.next now).2.1 =
          { link := s.link.read.link, updates := (s.updates.handle now r).1 } := by
        simp [next, running, found]
      refine ⟨?_, ?_, by simp [one]⟩
      · rw [expected, first, List.filterMap_cons_some found, one]
        rfl
      · rw [after, one]
        exact ⟨carries, early, h.updates.handle now r⟩
    refine ⟨remaining, ?_⟩
    cases result : s.link.read.result with
    | message payload => exact taken (by rw [result]; rfl)
    | failed f => exact taken (by rw [result]; rfl)
    | pending =>
        have member : s.link.read.result ∈ Link.results address coming := by
          rw [first]
          exact List.mem_cons_self
        exact absurd result (Link.ne_pending_of_mem_results member)

theorem act (a : Action) (h : Serves address s (sends [a] ++ future) coming handled) :
    ∃ remaining, expected address coming = (s.act a).2 ++ expected address remaining ∧
      Serves address (s.act a).1 future remaining (handled ++ (s.act a).2) := by
  cases a with
  | send t =>
      refine ⟨coming, rfl, ?_⟩
      rw [Stream.act, List.append_nil]
      exact ⟨h.carries.send, h.early, h.updates⟩
  | delay n =>
      refine ⟨coming, rfl, ?_⟩
      rw [Stream.act, List.append_nil]
      exact ⟨h.carries.delay n, h.early, h.updates⟩
  | advance n =>
      refine ⟨coming, rfl, ?_⟩
      rw [Stream.act, List.append_nil]
      exact ⟨h.carries.advance n, h.early, h.updates⟩
  | read now =>
      obtain ⟨remaining, first, after, -⟩ := h.read now
      exact ⟨remaining, first, after⟩

theorem run (actions : List Action)
    (h : Serves address s (sends actions ++ future) coming handled) :
    ∃ remaining, expected address coming = (s.run actions).2 ++ expected address remaining ∧
      Serves address (s.run actions).1 future remaining (handled ++ (s.run actions).2) := by
  induction actions generalizing s coming handled with
  | nil => exact ⟨coming, rfl, by simpa [Stream.run, sends] using h⟩
  | cons a as ih =>
      rw [← List.singleton_append, sends_append, List.append_assoc] at h
      obtain ⟨middle, first, after⟩ := h.act a
      obtain ⟨remaining, more, final⟩ := ih after
      refine ⟨remaining, ?_, ?_⟩
      · rw [first, more, ← List.append_assoc]
        rfl
      · rw [List.append_assoc] at final
        exact final

theorem run_reads (h : Serves address s [] coming handled) (nows : List UInt64)
    (enough : (expected address coming).length ≤ nows.length) :
    (s.run (nows.map .read)).2 = expected address coming := by
  induction nows generalizing s coming handled with
  | nil =>
      rw [List.length_nil, Nat.le_zero, List.length_eq_zero_iff] at enough
      exact enough.symm
  | cons now nows ih =>
      obtain ⟨remaining, first, after, progress⟩ := h.read now
      cases got : s.ready with
      | nil =>
          cases progress rfl got
          have silent : Serves address s (sends ((now :: nows).map .read) ++ []) [] handled := by
            rw [sends_reads]
            exact h
          obtain ⟨_, all, -⟩ := run _ silent
          exact (List.append_eq_nil_iff.1 all.symm).1
      | cons r rs =>
          rw [first, got] at enough
          simp only [List.length_append, List.length_cons] at enough
          rw [first, ← ih after (by omega)]
          rfl

end Serves

theorem serves_of_connect {settings : StreamSettings} {s : Stream} {begun : List Notice}
    (connected : connect settings .accepted false = (.ok s, begun)) {future : List Transmission}
    {coming : List (List UInt8)} (sent : Link.connections future = (coming, []))
    (early : Link.EndEarly coming) : Serves settings.address s future coming [] := by
  unfold connect at connected
  split at connected
  · simp at connected
  split at connected
  · simp at connected
  · rename_i link notices up
    cases connected
    exact ⟨.of_connect up sent, early, Updates.Handled.start⟩

def wholePayloads (conns : List Connection) : List (List UInt8) := conns.flatMap Connection.whole

def readsOf (address : String) (c : Connection) : List Updates.Read :=
  c.whole.map .ok ++ [.error (Link.closeFailure address (Frame.readAll c.bytes).2.defect)]

section

variable {conns : List Connection} (bounds : ∀ c ∈ conns, ∀ p ∈ c.payloads,
  p.length ≤ Frame.maxPayload)

include bounds

theorem endEarly_of_bounds : Link.EndEarly (conns.map Connection.bytes) := by
  intro bytes member
  obtain ⟨c, among, rfl⟩ := List.mem_map.1 member
  obtain ⟨defect, read, short⟩ := Frame.readAll_cut (bounds c among) c.cut
  rw [Connection.bytes, read]
  cases defect with
  | tooLong n => exact absurd rfl (short n)
  | endsAtByte => rfl
  | endsInBlock => rfl

theorem expected_of_bounds (address : String) :
    expected address (conns.map Connection.bytes) = conns.flatMap (readsOf address) := by
  induction conns with
  | nil => rfl
  | cons c cs ih =>
      have rest := ih fun d member => bounds d (List.mem_cons_of_mem _ member)
      obtain ⟨defect, read, -⟩ := Frame.readAll_cut (bounds c List.mem_cons_self) c.cut
      have here : Frame.readAll c.bytes = (c.whole, ⟨defect, []⟩) := read
      rw [List.flatMap_cons, ← rest]
      simp [expected, Link.results, readsOf, here, readOf, Function.comp_def]

end

theorem countP_expected (address : String) (coming : List (List UInt8)) :
    (expected address coming).countP (Updates.outcome · = .transportError) = coming.length := by
  induction coming with
  | nil => rfl
  | cons c cs ih =>
      have split : expected address (c :: cs) =
          (Frame.readAll c).1.map .ok ++
            .error (Link.closeFailure address (Frame.readAll c).2.defect) ::
              expected address cs := by
        simp [expected, Link.results, readOf, Function.comp_def]
      rw [split, List.countP_append, List.countP_cons, ih, List.countP_map,
        List.countP_eq_zero.2 fun p _ => by simpa using Updates.outcome_ok_ne p]
      simp [Updates.outcome]

theorem length_readsOf (address : String) (conns : List Connection) :
    (conns.flatMap (readsOf address)).length = (wholePayloads conns).length + conns.length := by
  induction conns with
  | nil => rfl
  | cons c cs ih =>
      rw [List.flatMap_cons, List.length_append, ih]
      simp only [readsOf, wholePayloads, List.flatMap_cons, List.length_append, List.length_map,
        List.length_cons, List.length_nil]
      omega

theorem filterMap_readsOf (address : String) (conns : List Connection) :
    (conns.flatMap (readsOf address)).filterMap Updates.change? =
      (wholePayloads conns).filterMap fun p => Updates.change? (.ok p) := by
  induction conns with
  | nil => rfl
  | cons c cs ih =>
      rw [List.flatMap_cons, List.filterMap_append, ih]
      simp [readsOf, wholePayloads, Updates.change?, Function.comp_def]

theorem countP_readsOf (address : String) (conns : List Connection) {o : Outcome}
    (other : o ≠ .transportError) :
    (conns.flatMap (readsOf address)).countP (Updates.outcome · = o) =
      (wholePayloads conns).countP fun p => Updates.outcome (.ok p) = o := by
  induction conns with
  | nil => rfl
  | cons c cs ih =>
      rw [List.flatMap_cons, List.countP_append, ih]
      simp [readsOf, wholePayloads, Updates.outcome, Function.comp_def, other.symm]

/-- At every point the payloads handled are the first of those sent whole. Once the close of every
connection has been counted the directory is made by the changes in them, each of them has been
counted, and so has each close; and that is reached by as many reads as there are of both. -/
theorem directory_of_cut_connections {settings : StreamSettings} {s : Stream} {begun : List Notice}
    (connected : connect settings .accepted false = (.ok s, begun)) {conns : List Connection}
    (bounds : ∀ c ∈ conns, ∀ p ∈ c.payloads, p.length ≤ Frame.maxPayload)
    {actions : List Action}
    (sent : Link.connections (sends actions) = (conns.map Connection.bytes, [])) :
    (s.run actions).2 <+: conns.flatMap (readsOf settings.address) ∧
    ((s.run actions).2.countP (Updates.outcome · = .transportError) = conns.length →
      (s.run actions).1.updates.directory =
          Directory.after ((wholePayloads conns).filterMap fun p => Updates.change? (.ok p)) ∧
        (∀ o, o ≠ .transportError → (s.run actions).1.updates.metrics.messages o =
          UInt64.ofNat ((wholePayloads conns).countP fun p => Updates.outcome (.ok p) = o)) ∧
        (s.run actions).1.updates.metrics.messages .transportError = UInt64.ofNat conns.length) ∧
    ∀ nows : List UInt64, (wholePayloads conns).length + conns.length ≤ nows.length →
      (s.run (actions ++ nows.map .read)).2.countP (Updates.outcome · = .transportError) =
        conns.length := by
  have start : Serves settings.address s (sends actions ++ []) (conns.map Connection.bytes) [] := by
    rw [List.append_nil]
    exact serves_of_connect connected sent (endEarly_of_bounds bounds)
  obtain ⟨remaining, all, after⟩ := start.run actions
  rw [expected_of_bounds bounds] at all
  refine ⟨⟨_, all.symm⟩, fun counted => ?_, fun nows enough => ?_⟩
  · have closes := congrArg (List.countP (Updates.outcome · = .transportError)) all
    rw [← expected_of_bounds bounds, List.countP_append, countP_expected, countP_expected, counted,
      List.length_map] at closes
    have none : remaining = [] := List.length_eq_zero_iff.1 (by omega)
    have whole : (s.run actions).2 = conns.flatMap (readsOf settings.address) := by
      rw [all, none]
      exact (List.append_nil _).symm
    have handled := after.updates
    rw [List.nil_append] at handled
    refine ⟨?_, fun o other => ?_, ?_⟩
    · rw [handled.directory, whole, filterMap_readsOf]
    · rw [handled.messages, whole, countP_readsOf _ _ other]
    · rw [handled.messages, counted]
  · have length := congrArg List.length all
    rw [length_readsOf, List.length_append] at length
    rw [run_append, after.run_reads nows (by omega), ← all, ← expected_of_bounds bounds,
      countP_expected, List.length_map]

/-- Of the first connection a payload comes whole and a length without its payload, of the second an
empty payload; its bytes come in two parts, with a read between them. -/
theorem directory_of_two_cut_connections :
    ∃ s begun, connect ⟨"publisher.local:9092", 5⟩ .accepted false = (.ok s, begun) ∧
      let actions := [.send ⟨[2, 0x61], false⟩, .read 0, .send ⟨[0x62, 1], true⟩, .delay 7,
        .send ⟨[0], true⟩] ++ [1, 2, 3, 4].map Action.read
      (s.run actions).2.countP (Updates.outcome · = .transportError) = 2 ∧
        (s.run actions).1.updates.directory =
          Directory.after ([[0x61, 0x62], []].filterMap fun p => Updates.change? (.ok p)) ∧
        (s.run actions).1.updates.metrics.messages .transportError = 2 := by
  obtain ⟨s, begun, connected⟩ : ∃ s begun,
    connect ⟨"publisher.local:9092", 5⟩ .accepted false = (.ok s, begun) := ⟨_, _, rfl⟩
  refine ⟨s, begun, connected, ?_⟩
  let conns : List Connection := [⟨[[0x61, 0x62], [0x63]], 4⟩, ⟨[[]], 1⟩]
  let before : List Action := [.send ⟨[2, 0x61], false⟩, .read 0, .send ⟨[0x62, 1], true⟩,
    .delay 7, .send ⟨[0], true⟩]
  have bounds : ∀ c ∈ conns, ∀ p ∈ c.payloads, p.length ≤ Frame.maxPayload := by decide
  have sent : Link.connections (sends before) = (conns.map Connection.bytes, []) := rfl
  have counted :=
    (directory_of_cut_connections connected bounds sent).2.2 [1, 2, 3, 4] (by decide)
  have made := (directory_of_cut_connections connected bounds
    (by rw [sends_append, sends_reads]; exact sent)).2.1 counted
  exact ⟨counted, made.1, made.2.2⟩

end Stream

end ClusterDirectory
