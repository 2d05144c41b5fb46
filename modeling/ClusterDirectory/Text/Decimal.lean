namespace ClusterDirectory.Text

def isDigit (c : Char) : Bool := '0' ≤ c && c ≤ '9'

def digitsValue (cs : List Char) : Nat :=
  cs.foldl (fun n c => n * 10 + (c.toNat - '0'.toNat)) 0

def readNumber? (limit : Nat) (s : String) : Option Nat :=
  let digits := match s.toList with
    | '+' :: r => r
    | r => r
  if digits ≠ [] ∧ digits.all isDigit ∧ digitsValue digits ≤ limit then some (digitsValue digits)
  else none

end ClusterDirectory.Text
