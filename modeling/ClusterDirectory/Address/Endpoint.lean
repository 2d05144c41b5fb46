import ClusterDirectory.Address

namespace ClusterDirectory

structure Endpoint where
  address : Address
  port : UInt16
  zone : UInt32 := 0
  deriving DecidableEq, Repr, Inhabited

namespace Endpoint

open Text Address

def render (e : Endpoint) : String :=
  match e.address with
  | .v4 .. => s!"{e.address.render}:{e.port.toNat}"
  | .v6 .. =>
      if e.zone = 0 then s!"[{e.address.render}]:{e.port.toNat}"
      else s!"[{e.address.render}%{e.zone.toNat}]:{e.port.toNat}"

def readDigits? (limit : Nat) (s : List Char) : Option (Nat × List Char) :=
  let ds := s.takeWhile isDigit
  if ds ≠ [] ∧ digitsValue ds ≤ limit then some (digitsValue ds, s.dropWhile isDigit) else none

def readPort? (s : List Char) : Option (UInt16 × List Char) := do
  let (n, r) ← readDigits? 65535 (← readSign? ':' s)
  return (UInt16.ofNat n, r)

def readV4? (s : List Char) : Option (Endpoint × List Char) := do
  let ((a, b, c, d), s) ← readDotted? s
  let (port, s) ← readPort? s
  return ({ address := .v4 a b c d, port }, s)

def readZone (s : List Char) : UInt32 × List Char :=
  match (readSign? '%' s).bind (readDigits? 4294967295) with
  | some (n, r) => (UInt32.ofNat n, r)
  | none => (0, s)

def readV6? (s : List Char) : Option (Endpoint × List Char) := do
  let (address, s) ← Address.readV6? (← readSign? '[' s)
  let (zone, s) := readZone s
  let (port, s) ← readPort? (← readSign? ']' s)
  return ({ address, port, zone }, s)

def parse? (s : String) : Option Endpoint :=
  match (readV4? s.toList).or (readV6? s.toList) with
  | some (e, []) => some e
  | _ => none

end Endpoint

end ClusterDirectory
