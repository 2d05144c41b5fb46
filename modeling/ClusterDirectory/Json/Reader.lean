import ClusterDirectory.Json.Fault

/-!
Readers of JSON bytes.

A reader takes bytes from the front of its input and gives a value with the bytes that follow, or
the fault that it met first. One that succeeds has taken at least one byte, so that what repeats a
reader comes to an end.
-/

namespace ClusterDirectory.Json

theorem bind_eq_ok {ε α β : Type} {x : Except ε α} {f : α → Except ε β} {b : β} :
    (x >>= f) = .ok b ↔ ∃ a, x = .ok a ∧ f a = .ok b := by
  cases x <;> simp [bind, Except.bind]

structure Reader (α : Type) where
  run : List UInt8 → Except Fault (α × List UInt8)
  shrinks : ∀ {s a r}, run s = .ok (a, r) → r.length < s.length

def isSpace (b : UInt8) : Bool := b == 0x20 || b == 0x0A || b == 0x09 || b == 0x0D

def skipSpace (s : List UInt8) : List UInt8 := s.dropWhile isSpace

theorem length_skipSpace (s : List UInt8) : (skipSpace s).length ≤ s.length :=
  (List.dropWhile_suffix _).length_le

def isDigit (b : UInt8) : Bool := 0x30 ≤ b && b ≤ 0x39

def fail {α : Type} (cause : Cause) (left : List UInt8) : Except Fault α :=
  .error { cause, left := left.length }

namespace Reader

variable {α β : Type}

def ofFirst (read : UInt8 → List UInt8 → Except Fault (α × List UInt8))
    (shorter : ∀ {b s a r}, read b s = .ok (a, r) → r.length ≤ s.length) : Reader α where
  run s := match skipSpace s with
    | [] => fail .endInValue []
    | b :: r => read b r
  shrinks {s a r} h := by
    have bound := length_skipSpace s
    split at h
    · simp [fail] at h
    · rename_i b t first
      rw [first] at bound
      exact Nat.lt_of_le_of_lt (shorter h) bound

def map (f : α → β) (reader : Reader α) : Reader β where
  run s := do
    let (a, r) ← reader.run s
    return (f a, r)
  shrinks {s b r} h := by
    obtain ⟨⟨a, t⟩, read, eq⟩ := bind_eq_ok.1 h
    simp only [pure, Except.pure, Except.ok.injEq, Prod.mk.injEq] at eq
    exact eq.2 ▸ reader.shrinks read

end Reader

def readLetters : List UInt8 → List UInt8 → Except Fault (List UInt8)
  | [], s => .ok s
  | _ :: _, [] => fail .endInValue []
  | w :: ws, b :: s => if b = w then readLetters ws s else fail .expectedLiteral s

theorem length_readLetters {ws s r : List UInt8} (h : readLetters ws s = .ok r) :
    r.length ≤ s.length := by
  fun_induction readLetters ws s with
  | case1 s => cases h; exact Nat.le_refl _
  | case2 => simp [fail] at h
  | case3 w ws s ih => exact Nat.le_succ_of_le (ih h)
  | case4 => simp [fail] at h

def readNull (s : List UInt8) : Except Fault (List UInt8) := readLetters [0x75, 0x6C, 0x6C] s

def readTrue (s : List UInt8) : Except Fault (List UInt8) := readLetters [0x72, 0x75, 0x65] s

def readFalse (s : List UInt8) : Except Fault (List UInt8) := readLetters [0x61, 0x6C, 0x73, 0x65] s

end ClusterDirectory.Json
