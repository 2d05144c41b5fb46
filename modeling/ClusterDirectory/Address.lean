import ClusterDirectory.Text.Hex

/-!
Internet addresses of either version, the text they are written as, and the texts they are read
from.

An address of version 6 is written in lower-case hexadecimal groups, with `::` for the first of the
longest runs of two or more zero groups; one that stands for an address of version 4 ends in that
address. It is read from any spelling: zeros in front, capitals, `::` for any run of zero groups,
and the last two groups as an address of version 4.
-/

namespace ClusterDirectory

inductive Address
  | v4 (a b c d : UInt8)
  | v6 (a b c d e f g h : UInt16)
  deriving DecidableEq, Hashable, Repr, Inhabited

namespace Address

open Text

def decimal (b : UInt8) : List Char := Nat.toDigits 10 b.toNat

def dotted (a b c d : UInt8) : List Char :=
  decimal a ++ '.' :: decimal b ++ '.' :: decimal c ++ '.' :: decimal d

def group (g : UInt16) : List Char := hexDigits g.toNat

def joined (gs : List UInt16) : List Char := ((gs.map group).intersperse [':']).flatten

/-- The start and the length of the first of the longest runs of zero groups. -/
def zeroRun (gs : List UInt16) : Nat × Nat :=
  (List.range gs.length).foldl (fun best i =>
    let n := ((gs.drop i).takeWhile (· == 0)).length
    if best.2 < n then (i, n) else best) (0, 0)

def shortened (gs : List UInt16) : List Char :=
  let (start, count) := zeroRun gs
  if 1 < count then joined (gs.take start) ++ ':' :: ':' :: joined (gs.drop (start + count))
  else joined gs

def highByte (g : UInt16) : UInt8 := UInt8.ofNat (g.toNat / 256)

def lowByte (g : UInt16) : UInt8 := UInt8.ofNat (g.toNat % 256)

def chars : Address → List Char
  | v4 a b c d => dotted a b c d
  | v6 a b c d e f g h =>
      if a = 0 ∧ b = 0 ∧ c = 0 ∧ d = 0 ∧ e = 0 ∧ f = 0xFFFF then
        "::ffff:".toList ++ dotted (highByte g) (lowByte g) (highByte h) (lowByte h)
      else shortened [a, b, c, d, e, f, g, h]

def render (a : Address) : String := String.ofList a.chars

def readByte? (s : List Char) : Option (UInt8 × List Char) :=
  let ds := s.takeWhile isDigit
  if ds ≠ [] ∧ ds.length ≤ 3 ∧ (ds.head? = some '0' → ds.length = 1) ∧ digitsValue ds < 256 then
    some (UInt8.ofNat (digitsValue ds), s.dropWhile isDigit)
  else none

def readSign? (c : Char) : List Char → Option (List Char)
  | d :: r => if d = c then some r else none
  | [] => none

def readDotted? (s : List Char) : Option ((UInt8 × UInt8 × UInt8 × UInt8) × List Char) := do
  let (a, s) ← readByte? s
  let (b, s) ← readByte? (← readSign? '.' s)
  let (c, s) ← readByte? (← readSign? '.' s)
  let (d, s) ← readByte? (← readSign? '.' s)
  return ((a, b, c, d), s)

def readGroup? (s : List Char) : Option (UInt16 × List Char) :=
  let ds := s.takeWhile isHexDigit
  if ds ≠ [] ∧ ds.length ≤ 4 then
    some (UInt16.ofNat (hexDigitsValue ds), s.dropWhile isHexDigit)
  else none

structure Groups where
  groups : List UInt16
  dottedTail : Bool
  rest : List Char

def pair (high low : UInt8) : UInt16 := UInt16.ofNat (high.toNat * 256 + low.toNat)

/-- At most `n` groups with colons between them. The colon before a group is read with the group, so
that one that no group follows is left. -/
def readGroups (first : Bool) (s : List Char) : Nat → Groups
  | 0 => ⟨[], false, s⟩
  | n + 1 =>
      match if first then some s else readSign? ':' s with
      | none => ⟨[], false, s⟩
      | some t =>
          match if n = 0 then none else readDotted? t with
          | some ((a, b, c, d), r) => ⟨[pair a b, pair c d], true, r⟩
          | none =>
              match readGroup? t with
              | none => ⟨[], false, s⟩
              | some (g, r) =>
                  let more := readGroups false r n
                  ⟨g :: more.groups, more.dottedTail, more.rest⟩

def ofGroups? : List UInt16 → Option Address
  | [a, b, c, d, e, f, g, h] => some (v6 a b c d e f g h)
  | _ => none

def readV6? (s : List Char) : Option (Address × List Char) :=
  let head := readGroups true s 8
  if head.groups.length = 8 then do return (← ofGroups? head.groups, head.rest)
  else if head.dottedTail then none
  else do
    let tail := readGroups true (← readSign? ':' (← readSign? ':' head.rest))
      (7 - head.groups.length)
    let zeros := List.replicate (8 - head.groups.length - tail.groups.length) 0
    return (← ofGroups? (head.groups ++ zeros ++ tail.groups), tail.rest)

def read? (s : List Char) : Option (Address × List Char) :=
  match readDotted? s with
  | some ((a, b, c, d), r) => some (v4 a b c d, r)
  | none => readV6? s

def parse? (s : String) : Option Address :=
  match read? s.toList with
  | some (a, []) => some a
  | _ => none

end Address

end ClusterDirectory
