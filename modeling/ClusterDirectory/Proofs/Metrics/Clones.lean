import ClusterDirectory.Proofs.Metrics.Samples
import ClusterDirectory.Proofs.Updates.Accounts

/-!
# Metrics that many hold

Metrics are held by handles, and the clone of a handle stands for the same metrics. Whatever handles
are cloned and called, metrics are told by the calls on them alone (`Told`): the counts of messages
and of changes by their numbers, the gauges by the last call that set them. So every handle shows
the same text, and it is true (`shown_by_every_handle`).
-/

namespace ClusterDirectory.Metrics

inductive Call
  | recordMessage (o : Outcome)
  | recordChange (op : Operation) (now : UInt64)
  | setEntries (addresses nodes : UInt64)
  | askMessages (o : Outcome)
  | askChanges (op : Operation)
  | render
  deriving DecidableEq

inductive Reply
  | done
  | count (n : UInt64)
  | text (s : String)

def perform (m : Metrics) : Call → Metrics × Reply
  | .recordMessage o => (m.recordMessage o, .done)
  | .recordChange op now => (m.recordChange op now, .done)
  | .setEntries addresses nodes => (m.setEntries addresses nodes, .done)
  | .askMessages o => (m, .count (m.messages o))
  | .askChanges op => ((m.askChanges op).1, .count (m.askChanges op).2)
  | .render => (m, .text m.render)

def performAll (m : Metrics) (calls : List Call) : Metrics :=
  calls.foldl (fun m c => (m.perform c).1) m

namespace Call

def isChange : Call → Bool
  | .recordChange .. => true
  | _ => false

def records (op : Operation) : Call → Bool
  | .recordChange op' _ => op' = op
  | _ => false

def names (op : Operation) : Call → Bool
  | .recordChange op' _ | .askChanges op' => op' = op
  | _ => false

def entries? : Call → Option (UInt64 × UInt64)
  | .setEntries addresses nodes => some (addresses, nodes)
  | _ => none

def time? : Call → Option UInt64
  | .recordChange _ now => some now
  | _ => none

def asks : Call → Bool
  | .askMessages _ | .askChanges _ | .render => true
  | .recordMessage _ | .recordChange .. | .setEntries .. => false

end Call

/-! ## What calls tell -/

def messagesOf (o : Outcome) (calls : List Call) : Nat :=
  calls.count (.recordMessage o) + if o = .applied then calls.countP Call.isChange else 0

def changesOf (op : Operation) (calls : List Call) : Nat := calls.countP (Call.records op)

def named (op : Operation) (calls : List Call) : Bool := calls.any (Call.names op)

def lastEntries (calls : List Call) : UInt64 × UInt64 :=
  (calls.reverse.findSome? Call.entries?).getD (0, 0)

def lastTime (calls : List Call) : UInt64 := (calls.reverse.findSome? Call.time?).getD 0

theorem messagesOf_append (o : Outcome) (calls more : List Call) :
    messagesOf o (calls ++ more) = messagesOf o calls + messagesOf o more := by
  simp only [messagesOf, List.count_append, List.countP_append]
  split <;> omega

theorem messagesOf_le (o : Outcome) (calls : List Call) : messagesOf o calls ≤ calls.length := by
  induction calls with
  | nil => simp [messagesOf]
  | cons c calls ih =>
      have one : messagesOf o [c] ≤ 1 := by
        cases c <;> simp [messagesOf, Call.isChange, List.count_singleton] <;> split <;> simp
      rw [← List.singleton_append, messagesOf_append, List.length_append, List.length_singleton]
      omega

theorem changesOf_append (op : Operation) (calls more : List Call) :
    changesOf op (calls ++ more) = changesOf op calls + changesOf op more :=
  List.countP_append

theorem changesOf_le (op : Operation) (calls : List Call) : changesOf op calls ≤ calls.length :=
  List.countP_le_length

theorem named_append (op : Operation) (calls more : List Call) :
    named op (calls ++ more) = (named op calls || named op more) :=
  List.any_append

theorem lastEntries_concat (calls : List Call) (c : Call) :
    lastEntries (calls ++ [c]) = c.entries?.getD (lastEntries calls) := by
  cases found : c.entries? <;> simp [lastEntries, found]

theorem lastTime_concat (calls : List Call) (c : Call) :
    lastTime (calls ++ [c]) = c.time?.getD (lastTime calls) := by
  cases found : c.time? <;> simp [lastTime, found]

theorem changesOf_of_unnamed {op : Operation} {calls : List Call} (h : named op calls = false) :
    changesOf op calls = 0 := by
  refine List.countP_eq_zero.2 fun c member records => ?_
  have silent := List.any_eq_false.1 h c member
  cases c <;> simp_all [Call.records, Call.names]

/-! ## What one call does -/

@[simp] theorem changes?_recordMessage (m : Metrics) (o : Outcome) (op : Operation) :
    (m.recordMessage o).changes? op = m.changes? op := by
  cases o <;> cases op <;> rfl

theorem changes?_setChanges (m : Metrics) (op : Operation) (n : UInt64) (op' : Operation) :
    (m.setChanges op n).changes? op' = if op = op' then some n else m.changes? op' := by
  cases op <;> cases op' <;> rfl

theorem messages_setChanges (m : Metrics) (op : Operation) (n : UInt64) (o : Outcome) :
    (m.setChanges op n).messages o = m.messages o := by
  cases op <;> cases o <;> rfl

theorem messages_perform (m : Metrics) (c : Call) (o : Outcome) :
    (m.perform c).1.messages o = m.messages o + UInt64.ofNat (messagesOf o [c]) := by
  cases c with
  | recordMessage o' =>
      refine (messages_recordMessage m o' o).trans ?_
      by_cases same : o' = o <;> simp [messagesOf, Call.isChange, same]
  | recordChange op now =>
      refine (messages_recordChange m op now o).trans ?_
      by_cases applied : o = .applied <;> simp [messagesOf, Call.isChange, applied, eq_comm]
  | setEntries addresses nodes => cases o <;> exact (UInt64.add_zero _).symm
  | askMessages o' => cases o <;> exact (UInt64.add_zero _).symm
  | askChanges op =>
      refine (messages_setChanges m op _ o).trans ?_
      cases o <;> exact (UInt64.add_zero _).symm
  | render => cases o <;> exact (UInt64.add_zero _).symm

theorem changes?_perform (m : Metrics) (c : Call) (op : Operation) :
    (m.perform c).1.changes? op =
      if c.names op then some (m.changes op + UInt64.ofNat (changesOf op [c]))
      else m.changes? op := by
  cases c with
  | recordMessage o => simp [perform, Call.names]
  | recordChange op' now =>
      have set : (m.perform (.recordChange op' now)).1.changes? op =
          ((m.recordMessage .applied).setChanges op' (m.changes op' + 1)).changes? op := by
        cases op <;> rfl
      rw [set, changes?_setChanges, changes?_recordMessage]
      by_cases same : op' = op <;> simp [Call.names, Call.records, changesOf, same]
  | setEntries addresses nodes => cases op <;> rfl
  | askMessages o => rfl
  | askChanges op' =>
      refine (changes?_setChanges ..).trans ?_
      by_cases same : op' = op <;> simp [Call.names, Call.records, changesOf, same]
  | render => rfl

theorem gauges_setChanges (m : Metrics) (op : Operation) (n : UInt64) :
    (m.setChanges op n).addressEntries = m.addressEntries ∧
      (m.setChanges op n).nodeEntries = m.nodeEntries ∧
      (m.setChanges op n).lastChange = m.lastChange := by
  cases op <;> exact ⟨rfl, rfl, rfl⟩

theorem gauges_perform (m : Metrics) (c : Call) :
    (m.perform c).1.addressEntries = c.entries?.elim m.addressEntries (·.1.toInt64) ∧
      (m.perform c).1.nodeEntries = c.entries?.elim m.nodeEntries (·.2.toInt64) ∧
      (m.perform c).1.lastChange = c.time?.elim m.lastChange UInt64.toInt64 := by
  cases c with
  | recordMessage o => cases o <;> exact ⟨rfl, rfl, rfl⟩
  | recordChange op now => cases op <;> exact ⟨rfl, rfl, rfl⟩
  | setEntries addresses nodes => exact ⟨rfl, rfl, rfl⟩
  | askMessages o => exact ⟨rfl, rfl, rfl⟩
  | askChanges op => exact gauges_setChanges ..
  | render => exact ⟨rfl, rfl, rfl⟩

/-! ## What all the calls tell -/

structure Told (m : Metrics) (calls : List Call) : Prop where
  messages : ∀ o, m.messages o = UInt64.ofNat (messagesOf o calls)
  changes? : ∀ op,
    m.changes? op = if named op calls then some (UInt64.ofNat (changesOf op calls)) else none
  addressEntries : m.addressEntries = (lastEntries calls).1.toInt64
  nodeEntries : m.nodeEntries = (lastEntries calls).2.toInt64
  lastChange : m.lastChange = (lastTime calls).toInt64

namespace Told

variable {m : Metrics} {calls : List Call}

theorem start : Told {} [] where
  messages o := by cases o <;> rfl
  changes? op := by cases op <;> rfl
  addressEntries := rfl
  nodeEntries := rfl
  lastChange := rfl

theorem changes (h : Told m calls) (op : Operation) :
    m.changes op = UInt64.ofNat (changesOf op calls) := by
  rw [Metrics.changes, h.changes? op]
  split
  · rfl
  · rename_i unnamed
    rw [changesOf_of_unnamed (Bool.eq_false_iff.2 unnamed)]
    rfl

theorem step (h : Told m calls) (c : Call) : Told (m.perform c).1 (calls ++ [c]) := by
  obtain ⟨addressEntries, nodeEntries, lastChange⟩ := gauges_perform m c
  refine ⟨?_, ?_, ?_, ?_, ?_⟩
  · intro o
    rw [messages_perform, h.messages, messagesOf_append, UInt64.ofNat_add]
  · intro op
    have alone : named op [c] = c.names op := Bool.or_false _
    rw [changes?_perform, named_append, alone, h.changes, changesOf_append, UInt64.ofNat_add]
    cases names : c.names op with
    | true => simp
    | false =>
        -- a call that does not name the operation adds nothing to its count
        have none : changesOf op [c] = 0 := changesOf_of_unnamed (alone.trans names)
        simp [h.changes? op, none]
  · rw [addressEntries, h.addressEntries, lastEntries_concat]
    cases c.entries? <;> rfl
  · rw [nodeEntries, h.nodeEntries, lastEntries_concat]
    cases c.entries? <;> rfl
  · rw [lastChange, h.lastChange, lastTime_concat]
    cases c.time? <;> rfl

theorem run (h : Told m calls) (more : List Call) : Told (m.performAll more) (calls ++ more) := by
  induction more generalizing m calls with
  | nil =>
      rw [List.append_nil]
      exact h
  | cons c more ih =>
      rw [← List.singleton_append, ← List.append_assoc]
      exact ih (h.step c)

end Told

/-! ## Handles -/

/-- Metrics in their places, and the place that each handle stands for. -/
structure Held where
  metrics : Nat → Metrics := fun _ => {}
  places : Nat := 0
  handles : List Nat := []

inductive Step
  | create
  | clone (handle : Nat)
  | call (handle : Nat) (c : Call)

namespace Held

/-- New metrics get a place of their own, and a clone shares the place of its original. Nothing
happens to a handle that there is not. -/
def step (s : Held) : Step → Held
  | .create => { s with places := s.places + 1, handles := s.handles ++ [s.places] }
  | .clone h =>
      match s.handles[h]? with
      | some place => { s with handles := s.handles ++ [place] }
      | none => s
  | .call h c =>
      match s.handles[h]? with
      | some place =>
          { s with metrics := Function.update s.metrics place ((s.metrics place).perform c).1 }
      | none => s

def run (s : Held) (steps : List Step) : Held := steps.foldl step s

def reply? (s : Held) (h : Nat) (c : Call) : Option Reply :=
  s.handles[h]?.map fun place => ((s.metrics place).perform c).2

def call? (s : Held) (place : Nat) : Step → Option Call
  | .call h c => if s.handles[h]? = some place then some c else none
  | .create | .clone _ => none

def callsAt (s : Held) (place : Nat) : List Step → List Call
  | [] => []
  | x :: steps => (s.call? place x).toList ++ (s.step x).callsAt place steps

theorem metrics_step (s : Held) (x : Step) (place : Nat) :
    (s.step x).metrics place = (s.metrics place).performAll (s.call? place x).toList := by
  cases x with
  | create => rfl
  | clone h =>
      simp only [step, call?]
      split <;> rfl
  | call h c =>
      simp only [step, call?]
      cases found : s.handles[h]? with
      | none => simp [performAll]
      | some other =>
          by_cases same : other = place
          · subst same
            simp [performAll]
          · simp [performAll, same, Function.update_of_ne (Ne.symm same)]

theorem metrics_run (s : Held) (steps : List Step) (place : Nat) :
    (s.run steps).metrics place = (s.metrics place).performAll (s.callsAt place steps) := by
  induction steps generalizing s with
  | nil => rfl
  | cons x steps ih =>
      rw [callsAt, performAll, List.foldl_append]
      exact (ih (s.step x)).trans (congrArg (performAll · _) (metrics_step s x place))

theorem told (steps : List Step) (place : Nat) :
    Told ((run {} steps).metrics place) (callsAt {} place steps) := by
  rw [metrics_run]
  exact Told.start.run _

end Held

/-! ## What every handle shows -/

def signed (n : UInt64) : Int :=
  if n.toNat < 0x8000000000000000 then n.toNat else n.toNat - 0x10000000000000000

theorem toInt_toInt64 (n : UInt64) : n.toInt64.toInt = signed n := by
  rw [Int64.toInt, UInt64.toBitVec_toInt64, BitVec.toInt_eq_toNat_cond, UInt64.toNat_toBitVec]
  simp only [signed]
  split <;> split <;> omega

def numbers (m : Metrics) : (Outcome → UInt64) × (Operation → UInt64) × Int64 × Int64 × Int64 :=
  (m.messages, m.changes, m.addressEntries, m.nodeEntries, m.lastChange)

theorem numbers_perform {c : Call} (asks : c.asks) (m : Metrics) :
    (m.perform c).1.numbers = m.numbers := by
  cases c with
  | recordMessage o => cases asks
  | recordChange op now => cases asks
  | setEntries addresses nodes => cases asks
  | askMessages o => rfl
  | askChanges op =>
      -- an operation that had no count gets one of zero, which is what was replied for it before
      obtain ⟨addressEntries, nodeEntries, lastChange⟩ := gauges_setChanges m op (m.changes op)
      have changes (op' : Operation) :
          (m.setChanges op (m.changes op)).changes op' = m.changes op' := by
        rw [Metrics.changes, changes?_setChanges]
        split
        · rename_i same
          rw [same]
          rfl
        · rfl
      simp only [perform, askChanges, numbers, addressEntries, nodeEntries, lastChange]
      rw [funext (messages_setChanges m op _), funext changes]
  | render => rfl

/-- A text shows every outcome once, every operation that was recorded or asked for once, and the
three gauges, all with the numbers that the calls through all the handles tell; nothing else is
shown. Asked for a single count a handle replies the same number, and whoever asks, no number
changes. -/
theorem shown_by_every_handle {steps : List Step} {h place : Nat}
    (refers : (Held.run {} steps).handles[h]? = some place)
    (few : (Held.callsAt {} place steps).length < UInt64.size) :
    let s := Held.run {} steps
    let calls := Held.callsAt {} place steps
    (∃ text, s.reply? h .render = some (.text text) ∧
      (∀ o, valuesOf text (messageSeries o) = [toString (messagesOf o calls)]) ∧
      (∀ op, valuesOf text (changeSeries op) =
        if named op calls then [toString (changesOf op calls)] else []) ∧
      valuesOf text "metacache_ip_entries" = [toString (signed (lastEntries calls).1)] ∧
      valuesOf text "metacache_node_entries" = [toString (signed (lastEntries calls).2)] ∧
      valuesOf text "metacache_last_event_timestamp_seconds" =
        [toString (signed (lastTime calls))] ∧
      ∀ p ∈ samples text, p.1 ∈ allSeries) ∧
    (∀ o, ∃ n, s.reply? h (.askMessages o) = some (.count n) ∧ n.toNat = messagesOf o calls) ∧
    (∀ op, ∃ n, s.reply? h (.askChanges op) = some (.count n) ∧ n.toNat = changesOf op calls) ∧
    ∀ c : Call, c.asks → ∀ h' place', ((s.step (.call h' c)).metrics place').numbers =
      (s.metrics place').numbers := by
  intro s calls
  have told : Told (s.metrics place) calls := Held.told steps place
  -- a count is never larger than the number of the calls, so that none is past 64 bits
  have fits {n : Nat} (le : n ≤ calls.length) : (UInt64.ofNat n).toNat = n :=
    UInt64.toNat_ofNat_of_lt' (Nat.lt_of_le_of_lt le few)
  have messages (o : Outcome) : ((s.metrics place).messages o).toNat = messagesOf o calls := by
    rw [told.messages, fits (messagesOf_le o calls)]
  have changes (op : Operation) : ((s.metrics place).changes op).toNat = changesOf op calls := by
    rw [told.changes, fits (changesOf_le op calls)]
  have reply (c : Call) : s.reply? h c = some ((s.metrics place).perform c).2 := by
    rw [Held.reply?, refers]
    rfl
  refine ⟨⟨(s.metrics place).render, reply .render, ?_, ?_, ?_, ?_, ?_, ?_⟩, ?_, ?_, ?_⟩
  · intro o
    rw [valuesOf_messages, messages]
  · intro op
    rw [valuesOf_changes, told.changes?]
    split
    · rw [Option.map_some, fits (changesOf_le op calls)]
      rfl
    · rfl
  · rw [← toInt_toInt64, ← told.addressEntries]
    exact valuesOf_gauge (.head _)
  · rw [← toInt_toInt64, ← told.nodeEntries]
    exact valuesOf_gauge (.tail _ (.head _))
  · rw [← toInt_toInt64, ← told.lastChange]
    exact valuesOf_gauge (.tail _ (.tail _ (.head _)))
  · exact fun p => series_of_sample
  · exact fun o => ⟨_, reply _, messages o⟩
  · exact fun op => ⟨_, reply _, changes op⟩
  · intro c asks h' place'
    rw [Held.metrics_step, Held.call?]
    split
    · exact numbers_perform asks _
    · rfl

/-- Of four handles the third stands for other metrics. The fourth is the clone of a clone, and it
shows what went through the first two. -/
theorem shown_by_a_clone_of_a_clone :
    ∃ text, (Held.run {} [.create, .clone 0, .create, .call 1 (.recordChange .delete 7),
        .call 2 (.recordChange .update 8), .clone 1, .call 0 (.recordMessage .empty),
        .call 0 (.setEntries 0xFFFFFFFFFFFFFFFF 2), .call 3 (.askChanges .add)]).reply? 3 .render =
          some (.text text) ∧
      valuesOf text (messageSeries .applied) = ["1"] ∧
      valuesOf text (messageSeries .empty) = ["1"] ∧
      valuesOf text (changeSeries .add) = ["0"] ∧
      valuesOf text (changeSeries .delete) = ["1"] ∧
      valuesOf text (changeSeries .update) = [] ∧
      valuesOf text "metacache_ip_entries" = ["-1"] := by
  obtain ⟨⟨text, replied, messages, changes, addresses, -⟩, -⟩ :=
    @shown_by_every_handle [.create, .clone 0, .create, .call 1 (.recordChange .delete 7),
      .call 2 (.recordChange .update 8), .clone 1, .call 0 (.recordMessage .empty),
      .call 0 (.setEntries 0xFFFFFFFFFFFFFFFF 2), .call 3 (.askChanges .add)]
      3 0 (by decide) (by decide)
  exact ⟨text, replied, (messages .applied).trans (by decide), (messages .empty).trans (by decide),
    (changes .add).trans (by decide), (changes .delete).trans (by decide),
    (changes .update).trans (by decide), addresses.trans (by decide)⟩

end ClusterDirectory.Metrics
