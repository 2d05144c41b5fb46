import ClusterDirectory.Json.Reader.Collection
import ClusterDirectory.Json.Reader.Number

/-!
Passing over a value of which nothing is kept.

Brackets, commas, colons, literals, the form of numbers and the escapes of strings are checked. The
bytes of strings, the range of numbers and the depth of nesting are not. The brackets that stand
open are kept in a list, the innermost first.
-/

namespace ClusterDirectory.Json

inductive Bracket
  | square
  | brace
  deriving DecidableEq, Repr

def Bracket.closing : Bracket → UInt8
  | .square => 0x5D
  | .brace => 0x7D

inductive Place
  | value
  /-- the first entry of the innermost collection, or its end -/
  | entry
  /-- a comma and a further entry, or the end of the innermost collection -/
  | rest
  deriving DecidableEq, Repr

def passKey (bracket : Bracket) (s : List UInt8) : Except Fault (List UInt8) :=
  match bracket with
  | .square => .ok s
  | .brace =>
      match skipSpace s with
      | [] => fail .endInObject []
      | b :: r =>
          if b = 0x22 then
            match passText r with
            | .error e => .error e
            | .ok t => readColon t
          else fail .keyNotText r

theorem length_passKey {bracket : Bracket} {s r : List UInt8} (h : passKey bracket s = .ok r) :
    r.length ≤ s.length := by
  unfold passKey at h
  split at h
  · cases h; exact Nat.le_refl _
  · have bound := length_skipSpace s
    split at h
    · simp [fail] at h
    · rename_i eq
      rw [eq, List.length_cons] at bound
      split at h
      · split at h
        · simp at h
        · rename_i passed
          have := length_passText passed
          have := length_readColon h
          omega
      · simp [fail] at h

def Bracket.endCause : Bracket → Cause
  | .square => .endInList
  | .brace => .endInObject

def Bracket.separatorCause : Bracket → Cause
  | .square => .expectedCommaOrBracket
  | .brace => .expectedCommaOrBrace

abbrev Passed := Place × List Bracket × List UInt8

def passScalar (stack : List Bracket) (read : Except Fault (List UInt8)) : Except Fault Passed :=
  match read with
  | .error e => .error e
  | .ok r => .ok (.rest, stack, r)

def passValue (stack : List Bracket) (s : List UInt8) : Except Fault Passed :=
  match skipSpace s with
  | [] => fail .endInValue []
  | b :: r =>
      if b = 0x6E then passScalar stack (readNull r)
      else if b = 0x74 then passScalar stack (readTrue r)
      else if b = 0x66 then passScalar stack (readFalse r)
      else if b = 0x2D then passScalar stack (passNumber r)
      else if isDigit b then passScalar stack (passNumber (b :: r))
      else if b = 0x22 then passScalar stack (passText r)
      else if b = 0x5B then .ok (.entry, .square :: stack, r)
      else if b = 0x7B then .ok (.entry, .brace :: stack, r)
      else fail .expectedValue r

def passEntry (top : Bracket) (stack : List Bracket) (s : List UInt8) : Except Fault Passed :=
  match skipSpace s with
  | [] => fail top.endCause []
  | b :: r =>
      if b = top.closing then .ok (.rest, stack, r)
      else
        match passKey top (b :: r) with
        | .error e => .error e
        | .ok t => .ok (.value, top :: stack, t)

def passRest (top : Bracket) (stack : List Bracket) (s : List UInt8) : Except Fault Passed :=
  match skipSpace s with
  | [] => fail top.endCause []
  | b :: r =>
      if b = 0x2C then
        match passKey top r with
        | .error e => .error e
        | .ok t => .ok (.value, top :: stack, t)
      else if b = top.closing then .ok (.rest, stack, r)
      else fail top.separatorCause r

theorem length_passScalar {stack : List Bracket} {read : Except Fault (List UInt8)} {p : Passed}
    {n : Nat} (h : passScalar stack read = .ok p) (bound : ∀ {r}, read = .ok r → r.length ≤ n) :
    p.2.2.length ≤ n := by
  unfold passScalar at h
  split at h
  · simp at h
  · cases h; exact bound rfl

theorem length_passValue {stack : List Bracket} {s : List UInt8} {p : Passed}
    (h : passValue stack s = .ok p) : p.2.2.length < s.length := by
  have bound := length_skipSpace s
  unfold passValue at h
  split at h
  · simp [fail] at h
  · rename_i b r eq
    rw [eq, List.length_cons] at bound
    refine Nat.lt_of_le_of_lt ?_ bound
    split at h
    · exact length_passScalar h length_readLetters
    split at h
    · exact length_passScalar h length_readLetters
    split at h
    · exact length_passScalar h length_readLetters
    split at h
    · exact length_passScalar h fun read => Nat.le_of_lt (length_passNumber read)
    split at h
    · exact length_passScalar h fun read => Nat.le_of_lt_succ (length_passNumber read)
    split at h
    · exact length_passScalar h fun read => Nat.le_of_lt (length_passText read)
    split at h
    · cases h; exact Nat.le_refl _
    split at h
    · cases h; exact Nat.le_refl _
    · simp [fail] at h

def Place.rank : Place → Nat
  | .value => 0
  | .entry => 1
  | .rest => 1

theorem passEntry_shorter {top : Bracket} {stack : List Bracket} {s : List UInt8} {p : Passed}
    (h : passEntry top stack s = .ok p) :
    2 * p.2.2.length + p.1.rank < 2 * s.length + 1 := by
  have bound := length_skipSpace s
  unfold passEntry at h
  split at h
  · simp [fail] at h
  · rename_i b r eq
    rw [eq, List.length_cons] at bound
    split at h
    · cases h; simp only [Place.rank]; omega
    · split at h
      · simp at h
      · rename_i key
        have := length_passKey key
        rw [List.length_cons] at this
        cases h
        simp only [Place.rank]
        omega

theorem passRest_shorter {top : Bracket} {stack : List Bracket} {s : List UInt8} {p : Passed}
    (h : passRest top stack s = .ok p) :
    2 * p.2.2.length + p.1.rank < 2 * s.length + 1 := by
  have bound := length_skipSpace s
  unfold passRest at h
  split at h
  · simp [fail] at h
  · rename_i b r eq
    rw [eq, List.length_cons] at bound
    split at h
    · split at h
      · simp at h
      · rename_i key
        have := length_passKey key
        cases h
        simp only [Place.rank]
        omega
    · split at h
      · cases h; simp only [Place.rank]; omega
      · simp [fail] at h

/-- Pass over what is left of a value, of which the brackets in `stack` stand open. -/
def pass (place : Place) (stack : List Bracket) (s : List UInt8) : Except Fault (List UInt8) :=
  match place, stack with
  | .value, stack =>
      match _found : passValue stack s with
      | .error e => .error e
      | .ok (place, stack, r) => pass place stack r
  | .entry, [] => .ok s
  | .rest, [] => .ok s
  | .entry, top :: stack =>
      match _found : passEntry top stack s with
      | .error e => .error e
      | .ok (place, stack, r) => pass place stack r
  | .rest, top :: stack =>
      match _found : passRest top stack s with
      | .error e => .error e
      | .ok (place, stack, r) => pass place stack r
termination_by 2 * s.length + place.rank
decreasing_by
  · have := length_passValue _found
    simp only [Place.rank] at *
    cases place <;> simp only <;> omega
  · have := passEntry_shorter _found
    simpa only [Place.rank] using this
  · have := passRest_shorter _found
    simpa only [Place.rank] using this

theorem length_pass {place : Place} {stack : List Bracket} {s r : List UInt8}
    (h : pass place stack s = .ok r) : r.length ≤ s.length := by
  fun_induction pass place stack s with
  | case1 => simp at h
  | case2 =>
      rename_i found ih
      have := length_passValue found
      have := ih h
      simp only at *
      omega
  | case3 => cases h; exact Nat.le_refl _
  | case4 => cases h; exact Nat.le_refl _
  | case5 => simp at h
  | case6 =>
      rename_i found ih
      have := passEntry_shorter found
      have := ih h
      simp only [Place.rank] at *
      omega
  | case7 => simp at h
  | case8 =>
      rename_i found ih
      have := passRest_shorter found
      have := ih h
      simp only [Place.rank] at *
      omega

def passAny (s : List UInt8) : Except Fault (List UInt8) := pass .value [] s

theorem length_passAny {s r : List UInt8} (h : passAny s = .ok r) : r.length < s.length := by
  unfold passAny pass at h
  split at h
  · simp at h
  · rename_i found
    have := length_passValue found
    have := length_pass h
    simp only at *
    omega

end ClusterDirectory.Json
