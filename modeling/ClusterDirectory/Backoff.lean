/-!
Waiting before a connection is tried again.

The first two failures in a row cost no wait. From the third on, the wait is two to the power of the
number of failures in seconds, five minutes at most, counted from the last failure. Times are in
nanoseconds.
-/

namespace ClusterDirectory

structure Backoff where
  failures : Nat := 0
  lastFailure : Option Nat := none
  deriving DecidableEq, Repr, Inhabited

namespace Backoff

/-- The count stays at this number once it has reached it. -/
def failureLimit : Nat := 0xFFFFFFFF

def second : Nat := 1000000000

def threshold : Nat := 3

def seconds (n : Nat) : Nat := min (Nat.pow 2 (min n 9)) 300

def recordSuccess (b : Backoff) : Backoff := { b with failures := 0 }

def recordFailure (b : Backoff) (now : Nat) : Backoff where
  failures := min (b.failures + 1) failureLimit
  lastFailure := some now

/-- What is left of the wait, or `none` when a connection may be tried at once. -/
def delay? (b : Backoff) (now : Nat) : Option Nat :=
  match b.lastFailure with
  | none => none
  | some last =>
      let left := seconds b.failures * second - (now - last)
      if b.failures < threshold ∨ left = 0 then none else some left

end Backoff

end ClusterDirectory
