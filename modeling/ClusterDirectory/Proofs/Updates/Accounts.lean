import ClusterDirectory.Proofs.Updates.Stop

/-!
# The accounts of the updates

The counts, the gauges and the number of reads are written at different places, but after every read
they are those of the reads that were handled (`Accounts`): a read that makes a change brings the
gauges up to date, and one that makes none leaves them and the directory alone. So the accounts are
kept until the stop and after it (`accounts_until_stop`).
-/

namespace ClusterDirectory

namespace Metrics

@[simp] theorem changes_recordMessage (m : Metrics) (o : Outcome) (op : Operation) :
    (m.recordMessage o).changes op = m.changes op := by
  cases o <;> cases op <;> rfl

@[simp] theorem addressEntries_recordMessage (m : Metrics) (o : Outcome) :
    (m.recordMessage o).addressEntries = m.addressEntries := by
  cases o <;> rfl

@[simp] theorem nodeEntries_recordMessage (m : Metrics) (o : Outcome) :
    (m.recordMessage o).nodeEntries = m.nodeEntries := by
  cases o <;> rfl

@[simp] theorem lastChange_recordMessage (m : Metrics) (o : Outcome) :
    (m.recordMessage o).lastChange = m.lastChange := by
  cases o <;> rfl

theorem changes_recordChange (m : Metrics) (op : Operation) (now : UInt64) (op' : Operation) :
    (m.recordChange op now).changes op' = m.changes op' + if op = op' then 1 else 0 := by
  cases op <;> cases op' <;> simp [recordChange, recordMessage, setChanges, changes, changes?]

end Metrics

namespace Updates

def made (rs : List (UInt64 × Read)) : List (UInt64 × Change) :=
  rs.filterMap fun r => (change? r.2).map fun c => (r.1, c)

theorem map_made (rs : List (UInt64 × Read)) :
    (made rs).map Prod.snd = rs.filterMap (change? ·.2) := by
  simp [made, List.map_filterMap, Function.comp_def]

structure Accounts (u : Updates) (rs : List (UInt64 × Read)) : Prop where
  changes : ∀ op, u.metrics.changes op = UInt64.ofNat ((made rs).countP (·.2.operation = op))
  addressEntries : u.metrics.addressEntries = Int64.ofNat u.directory.counts.1
  nodeEntries : u.metrics.nodeEntries = Int64.ofNat u.directory.counts.2
  lastChange : u.metrics.lastChange = ((made rs).getLast?.elim 0 Prod.fst).toInt64

theorem Accounts.start : Accounts (start false).1 [] where
  changes op := by cases op <;> rfl
  addressEntries := rfl
  nodeEntries := rfl
  lastChange := rfl

theorem Accounts.handle {u : Updates} {rs : List (UInt64 × Read)} (h : Accounts u rs)
    (now : UInt64) (r : Read) : Accounts (u.handle now r).1 (rs ++ [(now, r)]) := by
  cases found : change? r with
  | none =>
      have same : made (rs ++ [(now, r)]) = made rs := by simp [made, found]
      rw [handle_of_none found]
      refine ⟨?_, ?_, ?_, ?_⟩
      · intro op
        rw [same, ← h.changes]
        exact Metrics.changes_recordMessage ..
      · exact (Metrics.addressEntries_recordMessage ..).trans h.addressEntries
      · exact (Metrics.nodeEntries_recordMessage ..).trans h.nodeEntries
      · rw [same, ← h.lastChange]
        exact Metrics.lastChange_recordMessage ..
  | some c =>
      have more : made (rs ++ [(now, r)]) = made rs ++ [(now, c)] := by simp [made, found]
      rw [handle_of_change found]
      refine ⟨?_, ?_, ?_, ?_⟩
      · intro op
        rw [more, List.countP_append, UInt64.ofNat_add, ← h.changes]
        refine (Metrics.changes_recordChange u.metrics c.operation now op).trans ?_
        by_cases same : c.operation = op <;> simp [same]
      · exact UInt64.toInt64_ofNat
      · exact UInt64.toInt64_ofNat
      · rw [more, List.getLast?_concat]
        simp [applyChange, begin, Metrics.setEntries, Metrics.recordChange]

theorem Accounts.handleEach {u : Updates} {before : List (UInt64 × Read)} (h : Accounts u before)
    (rs : List (UInt64 × Read)) : Accounts (u.handleEach rs).1 (before ++ rs) := by
  induction rs generalizing u before with
  | nil => simpa [Updates.handleEach] using h
  | cons r rs ih => simpa [Updates.handleEach] using ih (h.handle r.1 r.2)

theorem countP_outcomes (rs : List (UInt64 × Read)) :
    rs.countP (outcome ·.2 = .applied) + rs.countP (outcome ·.2 = .empty) +
      rs.countP (outcome ·.2 = .decodeError) + rs.countP (outcome ·.2 = .transportError) =
        rs.length := by
  induction rs with
  | nil => rfl
  | cons r rs ih =>
      simp only [List.countP_cons, List.length_cons, ← ih]
      cases outcome r.2 <;> simp <;> omega

theorem countP_operations (cs : List (UInt64 × Change)) :
    cs.countP (·.2.operation = .add) + cs.countP (·.2.operation = .update) +
      cs.countP (·.2.operation = .delete) = cs.length := by
  induction cs with
  | nil => rfl
  | cons c cs ih =>
      simp only [List.countP_cons, List.length_cons, ← ih]
      cases c.2.operation <;> simp <;> omega

theorem countP_applied (rs : List (UInt64 × Read)) :
    rs.countP (outcome ·.2 = .applied) = (made rs).length := by
  simp [made, List.length_filterMap_eq_countP, outcome_eq_applied]

theorem toInt64_eq_zero (n : UInt64) : n.toInt64 = 0 ↔ n = 0 := by
  constructor
  · intro zero
    rw [← UInt64.toUInt64_toInt64 n, zero]
    rfl
  · rintro rfl
    rfl

theorem Accounts.lastChange_eq_zero {u : Updates} {rs : List (UInt64 × Read)} (h : Accounts u rs)
    (clock : ∀ r ∈ rs, r.1 ≠ 0) : u.metrics.lastChange = 0 ↔ made rs = [] := by
  rw [h.lastChange, toInt64_eq_zero]
  -- by a clock past its first second, the time of a change is not taken for none
  cases last : (made rs).getLast? with
  | none => simp [List.getLast?_eq_none_iff.1 last]
  | some e =>
      have member := List.mem_of_getLast? last
      obtain ⟨r, among, found⟩ := List.mem_filterMap.1 member
      obtain ⟨c, -, rfl⟩ := Option.map_eq_some_iff.1 found
      have nonempty : made rs ≠ [] := List.ne_nil_of_mem member
      simp [clock r among, nonempty]

def after (stopped : Bool) (events : List Event) : Updates := ((start stopped).1.watch events).1

theorem accounts_after (events : List Event) :
    Accounts (after false events) (heard events) := by
  have accounts := Accounts.start.handleEach (heard events)
  rw [after, watch_start]
  exact ⟨accounts.changes, accounts.addressEntries, accounts.nodeEntries, accounts.lastChange⟩

theorem messages_after (events : List Event) (o : Outcome) :
    (after false events).metrics.messages o =
      UInt64.ofNat ((heard events).countP (outcome ·.2 = o)) := by
  have handled := handleEach_handled Handled.start (heard events)
  rw [after, watch_start]
  simpa [List.countP_map, Function.comp_def] using handled.messages o

theorem reads_after (events : List Event) :
    (after false events).reads = (heard events).length + 1 := by
  rw [after, watch_start]
  exact (handleEach_reads _ _).trans (Nat.add_comm 1 _)

/-- The counts are 64 bits wide; they are exact as long as so many reads were not handled. -/
theorem accounts_until_stop :
    (∀ events, let u := after false events; let rs := heard events
      u = { ((start false).1.handleEach rs).1 with
          running := !stopped events
          supervised := !abandoned events } ∧
        (∀ o, u.metrics.messages o = UInt64.ofNat (rs.countP (outcome ·.2 = o))) ∧
        (∀ op, u.metrics.changes op = UInt64.ofNat ((made rs).countP (·.2.operation = op))) ∧
        u.metrics.applied = UInt64.ofNat (made rs).length ∧
        u.directory = Directory.after ((made rs).map Prod.snd) ∧
        u.metrics.addressEntries = Int64.ofNat u.directory.counts.1 ∧
        u.metrics.nodeEntries = Int64.ofNat u.directory.counts.2 ∧
        u.metrics.lastChange = ((made rs).getLast?.elim 0 Prod.fst).toInt64 ∧
        u.reads = rs.length + 1) ∧
    (∀ events, let u := after false events; let rs := heard events
      rs.length < UInt64.size →
        (∀ o, (u.metrics.messages o).toNat = rs.countP (outcome ·.2 = o)) ∧
        (∀ op, (u.metrics.changes op).toNat = (made rs).countP (·.2.operation = op)) ∧
        u.metrics.applied.toNat = (made rs).length ∧
        u.metrics.applied.toNat = (u.metrics.changes .add).toNat +
          (u.metrics.changes .update).toNat + (u.metrics.changes .delete).toNat ∧
        u.metrics.applied.toNat + u.metrics.empty.toNat + u.metrics.decodeError.toNat +
          u.metrics.transportError.toNat = rs.length ∧
        (u.metrics.applied = 0 → u.metrics.lastChange = 0) ∧
        ((∀ r ∈ rs, r.1 ≠ 0) → u.metrics.lastChange = 0 → u.metrics.applied = 0)) ∧
    ∀ events, (after true events).metrics = {} ∧ (after true events).directory = Directory.empty ∧
      (after true events).reads = 0 := by
  have applied (events : List Event) : (after false events).metrics.applied =
      UInt64.ofNat (made (heard events)).length := by
    rw [← countP_applied]
    exact messages_after events .applied
  refine ⟨?_, ?_, ?_⟩
  · intro events u rs
    have accounts := accounts_after events
    refine ⟨congrArg Prod.fst (watch_start events), messages_after events, accounts.changes,
      applied events, ?_, accounts.addressEntries, accounts.nodeEntries, accounts.lastChange,
      reads_after events⟩
    rw [map_made]
    exact watch_start_directory events
  · intro events u rs few
    have accounts := accounts_after events
    have fits {n : Nat} (le : n ≤ rs.length) : (UInt64.ofNat n).toNat = n :=
      UInt64.toNat_ofNat_of_lt' (Nat.lt_of_le_of_lt le few)
    have fewer : (made rs).length ≤ rs.length := List.length_filterMap_le ..
    have messages (o : Outcome) : (u.metrics.messages o).toNat = rs.countP (outcome ·.2 = o) := by
      rw [messages_after, fits List.countP_le_length]
    have changes (op : Operation) :
        (u.metrics.changes op).toNat = (made rs).countP (·.2.operation = op) := by
      rw [accounts.changes, fits (Nat.le_trans List.countP_le_length fewer)]
    have count : u.metrics.applied.toNat = (made rs).length := by rw [applied, fits fewer]
    refine ⟨messages, changes, count, ?_, ?_, ?_, ?_⟩
    · rw [count, changes, changes, changes, countP_operations]
    · rw [← countP_outcomes rs, ← messages, ← messages, ← messages, ← messages]
      rfl
    · intro zero
      rw [zero] at count
      rw [accounts.lastChange, List.length_eq_zero_iff.1 count.symm]
      rfl
    · intro clock zero
      rw [applied, (accounts.lastChange_eq_zero clock).1 zero]
      rfl
  · intro events
    have ended : (start true).1.running = false := rfl
    rw [after, watch_stopped ended]
    exact ⟨rfl, rfl, rfl⟩

end Updates

end ClusterDirectory
