/-!
Floating-point numbers of 64 bits, without infinities: a sign, a whole significand and a power of
two, and the rounding of a quotient of whole numbers to the nearest of them.

Rounding is done on whole numbers, exactly. A quotient half way between two neighbours goes to the
one with the even significand.
-/

namespace ClusterDirectory

/-- The number `± significand · 2 ^ exponent`. The significand of a normal number has 53 bits; that
of a smaller one has fewer, and then the exponent is -1074. -/
structure Binary64 where
  negative : Bool
  significand : Nat
  exponent : Int
  deriving DecidableEq, Repr, Inhabited

namespace Binary64

def leastNormal : Nat := 0x10000000000000

def zero (negative : Bool) : Binary64 := ⟨negative, 0, -1074⟩

def isZero (x : Binary64) : Bool := x.significand == 0

def same (x y : Binary64) : Bool := x == y || (x.isZero && y.isZero)

/-- `num / den` to the nearest whole number, a half to the even one. -/
def divideToEven (num den : Nat) : Nat :=
  let q := num / den
  let r := num % den
  if 2 * r < den then q else if den < 2 * r then q + 1 else q + q % 2

def inUnits (num den : Nat) (e : Int) : Nat :=
  divideToEven (num <<< (-e).toNat) (den <<< e.toNat)

def unitExponent (num den : Nat) : Int :=
  let guess : Int := (Nat.log2 num : Int) - Nat.log2 den - 52
  let e := if num <<< (-guess).toNat < leastNormal * den <<< guess.toNat then guess - 1 else guess
  max e (-1074)

def round (negative : Bool) (num den : Nat) : Option Binary64 :=
  if num = 0 then some (zero negative)
  else
    let e := unitExponent num den
    let m := inUnits num den e
    let x : Binary64 :=
      if m = 2 * leastNormal then ⟨negative, leastNormal, e + 1⟩ else ⟨negative, m, e⟩
    if 971 < x.exponent then none else some x

def ofNat (n : Nat) : Option Binary64 := round false n 1

def ratio (x : Binary64) : Nat × Nat :=
  (x.significand <<< x.exponent.toNat, 1 <<< (-x.exponent).toNat)

def mul (x y : Binary64) : Option Binary64 :=
  let (a, b) := x.ratio
  let (c, d) := y.ratio
  round (x.negative != y.negative) (a * c) (b * d)

def div (x y : Binary64) : Option Binary64 :=
  let (a, b) := x.ratio
  let (c, d) := y.ratio
  round (x.negative != y.negative) (a * d) (b * c)

def neg (x : Binary64) : Binary64 := { x with negative := !x.negative }

def tenPower (n : Nat) : Option Binary64 := round false (Nat.pow 10 n) 1

/-- `n · 10 ^ e`, computed in floating point: `n` is rounded, and the result is multiplied or
divided by the number nearest to a power of ten, with a rounding at each step. Powers below
`10 ^ -308` are taken in several divisions. `none` when the result is past the largest number. -/
def scale (n : Nat) (e : Int) : Option Binary64 := do
  go (← ofNat n) e
where
  go (x : Binary64) (e : Int) : Option Binary64 :=
    if 0 ≤ e then
      if e ≤ 308 then do mul x (← tenPower e.toNat)
      else if x.isZero then some x else none
    else if -308 ≤ e then do div x (← tenPower (-e).toNat)
    else if x.isZero then some x
    else do
      let y ← div x (← tenPower 308)
      go y (e + 308)
  termination_by (-e).toNat
  decreasing_by omega

end Binary64

end ClusterDirectory
