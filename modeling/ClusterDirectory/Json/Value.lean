import ClusterDirectory.KeyMap
import ClusterDirectory.Number.Binary64

namespace ClusterDirectory

/-- A whole number is kept when it fits 64 bits, with or without a sign; every other number is kept
in floating point. -/
inductive JsonNumber
  | whole (n : Int)
  | real (x : Binary64)
  deriving DecidableEq, Repr, Inhabited

inductive Json
  | null
  | bool (b : Bool)
  | number (n : JsonNumber)
  | text (s : String)
  | list (items : List Json)
  | object (members : List (String × Json))
  deriving Repr, Inhabited

/-- Equality of value: numbers of either kind are equal within their kind only, and the two
floating-point zeros are equal. -/
def JsonNumber.same : JsonNumber → JsonNumber → Bool
  | .whole a, .whole b => a == b
  | .real a, .real b => a.same b
  | _, _ => false

namespace Json

mutual

def same : Json → Json → Bool
  | .null, .null => true
  | .bool a, .bool b => a == b
  | .number a, .number b => a.same b
  | .text a, .text b => a == b
  | .list a, .list b => sameItems a b
  | .object a, .object b => sameMembers a b
  | _, _ => false

def sameItems : List Json → List Json → Bool
  | [], [] => true
  | a :: as, b :: bs => same a b && sameItems as bs
  | _, _ => false

def sameMembers : List (String × Json) → List (String × Json) → Bool
  | [], [] => true
  | a :: as, b :: bs => a.1 == b.1 && same a.2 b.2 && sameMembers as bs
  | _, _ => false

end

mutual

def Ordered : Json → Prop
  | .list items => OrderedItems items
  | .object members => Ascending members ∧ OrderedMembers members
  | _ => True

def OrderedItems : List Json → Prop
  | [] => True
  | v :: vs => Ordered v ∧ OrderedItems vs

def OrderedMembers : List (String × Json) → Prop
  | [] => True
  | m :: ms => Ordered m.2 ∧ OrderedMembers ms

end

mutual

def depth : Json → Nat
  | .list items => depthOfItems items + 1
  | .object members => depthOfMembers members + 1
  | _ => 0

def depthOfItems : List Json → Nat
  | [] => 0
  | v :: vs => max (depth v) (depthOfItems vs)

def depthOfMembers : List (String × Json) → Nat
  | [] => 0
  | m :: ms => max (depth m.2) (depthOfMembers ms)

end

end Json

end ClusterDirectory
