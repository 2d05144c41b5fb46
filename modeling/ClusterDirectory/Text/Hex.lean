import ClusterDirectory.Text.Decimal

namespace ClusterDirectory.Text

def hexValue? (c : Char) : Option Nat :=
  if isDigit c then some (c.toNat - '0'.toNat)
  else if 'a' ≤ c ∧ c ≤ 'f' then some (c.toNat - 'a'.toNat + 10)
  else if 'A' ≤ c ∧ c ≤ 'F' then some (c.toNat - 'A'.toNat + 10)
  else none

def isHexDigit (c : Char) : Bool := (hexValue? c).isSome

def hexDigitsValue (cs : List Char) : Nat := cs.foldl (fun n c => n * 16 + (hexValue? c).getD 0) 0

def hexDigits (n : Nat) : List Char := Nat.toDigits 16 n

theorem hexValue?_lt {c : Char} {n : Nat} (h : hexValue? c = some n) : n < 16 := by
  unfold hexValue? isDigit at h
  have digit {lo hi : Char} (above : lo ≤ c) (below : c ≤ hi) :
      lo.toNat ≤ c.toNat ∧ c.toNat ≤ hi.toNat := ⟨above, below⟩
  split at h
  · rename_i inside
    simp only [Bool.and_eq_true, decide_eq_true_eq] at inside
    have := digit inside.1 inside.2
    have : '0'.toNat = 48 ∧ '9'.toNat = 57 := ⟨rfl, rfl⟩
    cases h
    omega
  split at h
  · rename_i inside
    have := digit inside.1 inside.2
    have : 'a'.toNat = 97 ∧ 'f'.toNat = 102 := ⟨rfl, rfl⟩
    cases h
    omega
  split at h
  · rename_i inside
    have := digit inside.1 inside.2
    have : 'A'.toNat = 65 ∧ 'F'.toNat = 70 := ⟨rfl, rfl⟩
    cases h
    omega
  · simp at h

end ClusterDirectory.Text
