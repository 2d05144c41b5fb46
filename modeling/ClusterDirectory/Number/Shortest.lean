import ClusterDirectory.Number.Binary64

/-!
The decimal text of a floating-point number: the fewest digits that read back as the number.

The numbers that round to `x` form an interval around it, whose ends belong to it exactly when the
significand of `x` is even. For one digit, two digits and so on, the two neighbours of `x` among
the numbers of that many digits are tried; the first one in the interval is taken, and of two the
one nearer to `x`.
-/

namespace ClusterDirectory.Binary64

structure Decimal where
  digits : Nat
  exponent : Int
  deriving DecidableEq, Repr

def digitCount (n : Nat) : Nat := (Nat.toDigits 10 n).length

def leadingPower (num den : Nat) : Int :=
  if den ≤ num then (digitCount (num / den) : Int) - 1
  else -(digitCount ((den + num - 1) / num - 1) : Int)

structure Interval where
  low : Nat
  middle : Nat
  high : Nat
  closed : Bool

def interval (x : Binary64) : Interval where
  low := 4 * x.significand - if x.significand = leastNormal ∧ -1074 < x.exponent then 1 else 2
  middle := 4 * x.significand
  high := 4 * x.significand + 2
  closed := x.significand % 2 == 0

def Interval.holds (i : Interval) (n unitNum unitDen : Nat) : Bool :=
  if i.closed then i.low * unitDen ≤ n * unitNum && n * unitNum ≤ i.high * unitDen
  else i.low * unitDen < n * unitNum && n * unitNum < i.high * unitDen

def atPower? (x : Binary64) (p : Int) : Option Decimal :=
  let i := x.interval
  let unitNum := Nat.pow 10 p.toNat <<< (2 - x.exponent).toNat
  let unitDen := Nat.pow 10 (-p).toNat <<< (x.exponent - 2).toNat
  let below := i.middle * unitDen / unitNum
  let down := i.middle * unitDen - below * unitNum
  let up := (below + 1) * unitNum - i.middle * unitDen
  match i.holds below unitNum unitDen, i.holds (below + 1) unitNum unitDen with
  | true, true =>
      if down < up ∨ (down = up ∧ below % 2 = 0) then some ⟨below, p⟩ else some ⟨below + 1, p⟩
  | true, false => some ⟨below, p⟩
  | false, true => some ⟨below + 1, p⟩
  | false, false => none

/-- The fewest digits, looked for from the leading one down; seventeen are always enough. -/
def shortest (x : Binary64) : Decimal :=
  let (num, den) := x.ratio
  let top := leadingPower num den
  (go x top 17).getD ⟨0, 0⟩
where
  go (x : Binary64) (p : Int) : Nat → Option Decimal
    | 0 => none
    | n + 1 => (atPower? x p).or (go x (p - 1) n)

/-- How a number is laid out: with all its places when its leading digit stands at a power of ten
from `least` to `most`, and otherwise with an exponent that has a sign. -/
structure Layout where
  least : Int
  most : Int

def trim (d : Decimal) : List Char × Int :=
  let ds := Nat.toDigits 10 d.digits
  ((ds.reverse.dropWhile (· == '0')).reverse, d.exponent + ds.length - 1)

def positional (ds : List Char) (power : Int) : List Char :=
  if power < 0 then '0' :: '.' :: List.replicate (-power - 1).toNat '0' ++ ds
  else
    let whole := (power + 1).toNat
    let padded := ds ++ List.replicate (whole - ds.length) '0'
    let places := padded.drop whole
    padded.take whole ++ '.' :: if places.isEmpty then ['0'] else places

def exponential (ds : List Char) (power : Int) : List Char :=
  let mantissa := match ds with
    | d :: [] => [d]
    | d :: r => d :: '.' :: r
    | [] => []
  mantissa ++ 'e' :: (if power < 0 then '-' else '+') :: Nat.toDigits 10 power.natAbs

def text (layout : Layout) (x : Binary64) : List Char :=
  let sign := if x.negative then ['-'] else []
  if x.isZero then sign ++ ['0', '.', '0']
  else
    let (ds, power) := trim x.shortest
    sign ++
      if layout.least ≤ power ∧ power ≤ layout.most then positional ds power
      else exponential ds power

end ClusterDirectory.Binary64
