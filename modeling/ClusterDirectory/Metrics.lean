import ClusterDirectory.Change

/-!
Metrics: how the messages of the stream were handled, which changes were made, and how large the
directory is.

There is a count for every outcome from the start, and a count for an operation once it was recorded
or asked for. Counts and gauges are 64 bits wide, the gauges with a sign.
-/

namespace ClusterDirectory

inductive Outcome
  | applied
  | empty
  | decodeError
  | transportError
  deriving DecidableEq, Repr

namespace Outcome

def all : List Outcome := [.applied, .empty, .decodeError, .transportError]

def name : Outcome → String
  | .applied => "applied"
  | .empty => "empty"
  | .decodeError => "decode_error"
  | .transportError => "transport_error"

end Outcome

structure Metrics where
  applied : UInt64 := 0
  empty : UInt64 := 0
  decodeError : UInt64 := 0
  transportError : UInt64 := 0
  added : Option UInt64 := none
  updated : Option UInt64 := none
  deleted : Option UInt64 := none
  addressEntries : Int64 := 0
  nodeEntries : Int64 := 0
  lastChange : Int64 := 0
  deriving DecidableEq, Repr, Inhabited

namespace Metrics

def messages (m : Metrics) : Outcome → UInt64
  | .applied => m.applied
  | .empty => m.empty
  | .decodeError => m.decodeError
  | .transportError => m.transportError

def changes? (m : Metrics) : Operation → Option UInt64
  | .add => m.added
  | .update => m.updated
  | .delete => m.deleted

def changes (m : Metrics) (op : Operation) : UInt64 := (m.changes? op).getD 0

def setChanges (m : Metrics) (op : Operation) (n : UInt64) : Metrics :=
  match op with
  | .add => { m with added := some n }
  | .update => { m with updated := some n }
  | .delete => { m with deleted := some n }

def recordMessage (m : Metrics) : Outcome → Metrics
  | .applied => { m with applied := m.applied + 1 }
  | .empty => { m with empty := m.empty + 1 }
  | .decodeError => { m with decodeError := m.decodeError + 1 }
  | .transportError => { m with transportError := m.transportError + 1 }

/-- Record a change that was made at the time `now`; its message counts as applied. -/
def recordChange (m : Metrics) (op : Operation) (now : UInt64) : Metrics :=
  let m := m.recordMessage .applied
  { m.setChanges op (m.changes op + 1) with lastChange := now.toInt64 }

def setEntries (m : Metrics) (addresses nodes : UInt64) : Metrics :=
  { m with addressEntries := addresses.toInt64, nodeEntries := nodes.toInt64 }

/-- The count of an operation; one that had none has one from now on. -/
def askChanges (m : Metrics) (op : Operation) : Metrics × UInt64 :=
  (m.setChanges op (m.changes op), m.changes op)

end Metrics

end ClusterDirectory
