import ClusterDirectory.Proofs.Directory.History
import ClusterDirectory.Updates

namespace ClusterDirectory

namespace Metrics

theorem messages_recordMessage (m : Metrics) (o o' : Outcome) :
    (m.recordMessage o).messages o' = m.messages o' + if o = o' then 1 else 0 := by
  cases o <;> cases o' <;> simp [recordMessage, messages]

theorem messages_recordChange (m : Metrics) (op : Operation) (now : UInt64) (o : Outcome) :
    (m.recordChange op now).messages o = m.messages o + if .applied = o then 1 else 0 := by
  rw [← messages_recordMessage]
  cases op <;> cases o <;> rfl

end Metrics

namespace Updates

def outcome : Read → Outcome
  | .error _ => .transportError
  | .ok payload =>
      if payload.isEmpty then .empty
      else
        match Change.decode payload with
        | .error _ => .decodeError
        | .ok _ => .applied

def change? : Read → Option Change
  | .error _ => none
  | .ok payload => if payload.isEmpty then none else (Change.decode payload).toOption

theorem change?_of_decode {payload : List UInt8} {c : Change}
    (decoded : Change.decode payload = .ok c) : change? (.ok payload) = some c := by
  cases payload with
  | nil => cases decoded
  | cons b s => simp [change?, decoded, Except.toOption]

theorem outcome_ok_ne (payload : List UInt8) : outcome (.ok payload) ≠ .transportError := by
  simp only [outcome]
  split
  · simp
  · split <;> simp

theorem outcome_eq_applied (r : Read) : outcome r = .applied ↔ (change? r).isSome := by
  cases r with
  | error f => simp [outcome, change?]
  | ok payload =>
      simp only [outcome, change?]
      split
      · simp
      · cases Change.decode payload <;> simp [Except.toOption]

theorem handle_of_change {r : Read} {c : Change} (found : change? r = some c) (now : UInt64)
    (u : Updates) : (u.handle now r).1 = (u.applyChange now c).begin := by
  cases r with
  | error f => cases found
  | ok payload =>
      simp only [change?] at found
      split at found
      · cases found
      · rename_i full
        rw [Change.decode] at found
        simp only [handle, handlePayload, if_neg full]
        cases judged : Change.judge (Change.read payload) with
        | error rejection =>
            rw [judged] at found
            cases found
        | ok e =>
            rw [judged] at found
            cases found
            rfl

theorem handle_of_none {r : Read} (found : change? r = none) (now : UInt64) (u : Updates) :
    (u.handle now r).1 = (u.count (outcome r)).begin := by
  cases r with
  | error f => rfl
  | ok payload =>
      simp only [change?] at found
      simp only [handle, handlePayload, outcome]
      split
      · rfl
      · rename_i full
        rw [if_neg full, Change.decode] at found
        rw [Change.decode]
        cases judged : Change.judge (Change.read payload) with
        | error rejection => rfl
        | ok c =>
            rw [judged] at found
            cases found

theorem handle_running (now : UInt64) (u : Updates) (r : Read) :
    (u.handle now r).1.running = u.running := by
  cases found : change? r with
  | none =>
      rw [handle_of_none found]
      rfl
  | some c =>
      rw [handle_of_change found]
      rfl

theorem handle_directory (now : UInt64) (u : Updates) (r : Read) :
    (u.handle now r).1.directory = (change? r).toList.foldl Directory.apply u.directory := by
  cases found : change? r with
  | none =>
      rw [handle_of_none found]
      rfl
  | some c =>
      rw [handle_of_change found]
      rfl

theorem handle_messages (now : UInt64) (u : Updates) (r : Read) (o : Outcome) :
    (u.handle now r).1.metrics.messages o =
      u.metrics.messages o + if outcome r = o then 1 else 0 := by
  cases found : change? r with
  | none =>
      rw [handle_of_none found]
      exact Metrics.messages_recordMessage u.metrics (outcome r) o
  | some c =>
      have applied : outcome r = .applied := (outcome_eq_applied r).2 (by simp [found])
      rw [handle_of_change found, applied]
      exact Metrics.messages_recordChange u.metrics c.operation now o

structure Handled (u : Updates) (rs : List Read) : Prop where
  running : u.running = true
  directory : u.directory = Directory.after (rs.filterMap change?)
  messages : ∀ o, u.metrics.messages o = UInt64.ofNat (rs.countP (outcome · = o))

theorem Handled.start : Handled (start false).1 [] where
  running := rfl
  directory := rfl
  messages o := by cases o <;> rfl

theorem Handled.handle {u : Updates} {rs : List Read} (h : Handled u rs) (now : UInt64)
    (r : Read) : Handled (u.handle now r).1 (rs ++ [r]) where
  running := (handle_running now u r).trans h.running
  directory := by
    rw [handle_directory, h.directory, List.filterMap_append, Directory.after, Directory.after,
      List.foldl_append]
    cases found : change? r <;> simp [found]
  messages o := by
    rw [handle_messages, h.messages, List.countP_append]
    by_cases same : outcome r = o <;> simp [same]

end Updates

end ClusterDirectory
