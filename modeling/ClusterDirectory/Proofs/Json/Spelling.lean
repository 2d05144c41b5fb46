import ClusterDirectory.Proofs.Json.Quoted
import ClusterDirectory.Proofs.Json.Whole

/-!
# How JSON is spelled

A spelling says which bytes may stand for which value. The values here are as they are written: an
object lists its members in the order in which they come, and a key may come again. Between any two
tokens there may be white space.

What is passed over has a spelling of its own (`SkippedSpelling`), which asks for less: the text
between quotes may be any bytes above the control characters, and escapes may name any unit.
-/

namespace ClusterDirectory.Json

variable {α β κ : Type}

abbrev Spelling (α : Type) := List UInt8 → α → Prop

def White (s : List UInt8) : Prop := ∀ b ∈ s, isSpace b = true

instance : DecidablePred White := fun _ => decidable_of_iff _ List.all_eq_true

inductive UnitSpelling : Spelling Nat
  | mk {a b c d : UInt8} {i j k l : Nat} (first : hexValue? a = some i)
      (second : hexValue? b = some j) (third : hexValue? c = some k)
      (fourth : hexValue? d = some l) :
      UnitSpelling [a, b, c, d] (((i * 16 + j) * 16 + k) * 16 + l)

/-- An escape after its backslash: one letter, a unit that is no surrogate, or two that make a
character together. -/
inductive EscapeSpelling : Spelling Char
  | short {b : UInt8} {c : Char} (letter : shortEscape? b = some c) : EscapeSpelling [b] c
  | unit {s : List UInt8} {n : Nat} (unit : UnitSpelling s n) (notLow : isLowSurrogate n = false)
      (notHigh : isHighSurrogate n = false) : EscapeSpelling (0x75 :: s) (Char.ofNat n)
  | pair {s t : List UInt8} {m n : Nat} (first : UnitSpelling s m)
      (high : isHighSurrogate m = true) (second : UnitSpelling t n)
      (low : isLowSurrogate n = true) :
      EscapeSpelling (0x75 :: (s ++ 0x5C :: 0x75 :: t))
        (Char.ofNat ((m - 0xD800) * 0x400 + (n - 0xDC00) + 0x10000))

inductive BodySpelling : Spelling (List UInt8)
  | nil : BodySpelling [] []
  | plain {b : UInt8} {s t : List UInt8} (plain : Plain b) (more : BodySpelling s t) :
      BodySpelling (b :: s) (b :: t)
  | escape {e s t : List UInt8} {c : Char} (escape : EscapeSpelling e c)
      (more : BodySpelling s t) :
      BodySpelling (0x5C :: (e ++ s)) (String.utf8EncodeChar c ++ t)

inductive TextSpelling : Spelling String
  | mk {s : List UInt8} {word : String} (body : BodySpelling s (Text.bytes word)) :
      TextSpelling (0x22 :: (s ++ [0x22])) word

/-- A whole number of 64 bits is spelled by its digits. One in floating point is worth what is read
of its bytes alone. -/
inductive NumberSpelling : Spelling JsonNumber
  | whole {n : Int} (fits : Fits n) :
      NumberSpelling (Text.Utf8.encode (numberText (.whole n))) (.whole n)
  | real {b : UInt8} {s : List UInt8} {x : Binary64} (starts : startsNumber b = true)
      (read : readNumberFrom b s = .ok (.real x, [])) : NumberSpelling (b :: s) (.real x)

def Separator (first : Bool) (s : List UInt8) : Prop :=
  if first then s = [] else ∃ w, White w ∧ s = w ++ [0x2C]

inductive Entries (closing : UInt8) (entry : Spelling α) : Bool → Spelling (List α)
  | close {first : Bool} {w : List UInt8} (white : White w) :
      Entries closing entry first (w ++ [closing]) []
  | more {first : Bool} {c w s t : List UInt8} {a : α} {as : List α}
      (separator : Separator first c) (white : White w) (head : entry s a)
      (tail : Entries closing entry false t as) :
      Entries closing entry first (c ++ (w ++ (s ++ t))) (a :: as)

inductive MemberSpelling (key : Spelling κ) (value : κ → Spelling β) : Spelling (κ × β)
  | mk {s v w t : List UInt8} {k : κ} {b : β} (named : key s k) (before : White v)
      (after : White w) (held : value k t b) :
      MemberSpelling key value (s ++ (v ++ 0x3A :: (w ++ t))) (k, b)

inductive ValueSpelling : Spelling Json
  | null : ValueSpelling [0x6E, 0x75, 0x6C, 0x6C] .null
  | true : ValueSpelling [0x74, 0x72, 0x75, 0x65] (.bool .true)
  | false : ValueSpelling [0x66, 0x61, 0x6C, 0x73, 0x65] (.bool .false)
  | number {s : List UInt8} {n : JsonNumber} (number : NumberSpelling s n) :
      ValueSpelling s (.number n)
  | text {s : List UInt8} {word : String} (text : TextSpelling s word) :
      ValueSpelling s (.text word)
  | list {s : List UInt8} {vs : List Json} (items : Entries 0x5D ValueSpelling .true s vs) :
      ValueSpelling (0x5B :: s) (.list vs)
  | object {s : List UInt8} {ms : List (String × Json)}
      (members : Entries 0x7D (MemberSpelling TextSpelling fun _ => ValueSpelling) .true s ms) :
      ValueSpelling (0x7B :: s) (.object ms)

inductive LooseBody : List UInt8 → Prop
  | nil : LooseBody []
  | plain {b : UInt8} {s : List UInt8} (plain : Plain b) (more : LooseBody s) : LooseBody (b :: s)
  | short {b : UInt8} {c : Char} {s : List UInt8} (letter : shortEscape? b = some c)
      (more : LooseBody s) : LooseBody (0x5C :: b :: s)
  | unit {u s : List UInt8} {n : Nat} (unit : UnitSpelling u n) (more : LooseBody s) :
      LooseBody (0x5C :: 0x75 :: (u ++ s))

inductive LooseText : Spelling Unit
  | mk {s : List UInt8} (body : LooseBody s) : LooseText (0x22 :: (s ++ [0x22])) ()

def Digits (s : List UInt8) : Prop := s ≠ [] ∧ ∀ b ∈ s, isDigit b = true

inductive WholePart : List UInt8 → Prop
  | zero : WholePart [0x30]
  | digits {b : UInt8} {s : List UInt8} (nonzero : b ≠ 0x30) (digits : Digits (b :: s)) :
      WholePart (b :: s)

inductive FractionPart : List UInt8 → Prop
  | none : FractionPart []
  | digits {s : List UInt8} (digits : Digits s) : FractionPart (0x2E :: s)

inductive ExponentPart : List UInt8 → Prop
  | none : ExponentPart []
  | digits {e : UInt8} {p s : List UInt8} (letter : isExponentLetter e = true)
      (sign : p = [] ∨ p = [0x2B] ∨ p = [0x2D]) (digits : Digits s) :
      ExponentPart (e :: (p ++ s))

inductive NumberForm : List UInt8 → Prop
  | mk {w f e : List UInt8} (whole : WholePart w) (fraction : FractionPart f)
      (exponent : ExponentPart e) : NumberForm (w ++ (f ++ e))

inductive SkippedSpelling : Spelling Unit
  | null : SkippedSpelling [0x6E, 0x75, 0x6C, 0x6C] ()
  | true : SkippedSpelling [0x74, 0x72, 0x75, 0x65] ()
  | false : SkippedSpelling [0x66, 0x61, 0x6C, 0x73, 0x65] ()
  | number {s : List UInt8} (form : NumberForm s) : SkippedSpelling s ()
  | negative {s : List UInt8} (form : NumberForm s) : SkippedSpelling (0x2D :: s) ()
  | text {s : List UInt8} (text : LooseText s ()) : SkippedSpelling s ()
  | list {s : List UInt8} {vs : List Unit} (items : Entries 0x5D SkippedSpelling .true s vs) :
      SkippedSpelling (0x5B :: s) ()
  | object {s : List UInt8} {ms : List (Unit × Unit)}
      (members : Entries 0x7D (MemberSpelling LooseText fun _ => SkippedSpelling) .true s ms) :
      SkippedSpelling (0x7B :: s) ()

end ClusterDirectory.Json
