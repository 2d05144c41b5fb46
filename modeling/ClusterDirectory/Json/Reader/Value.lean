import ClusterDirectory.Json.Reader.Collection
import ClusterDirectory.Json.Reader.Number

namespace ClusterDirectory.Json

variable {α : Type}

theorem fail_ne_ok {cause : Cause} {left : List UInt8} {a : α} : fail cause left ≠ .ok a := by
  simp [fail]

def lastOfEach (value : Reader α) : Fields (List (String × α)) where
  field ms key := .ok (value.map fun v => insertMember key v ms)

def readNumberFrom (b : UInt8) (r : List UInt8) : Except Fault (JsonNumber × List UInt8) :=
  if b = 0x2D then readNumber true r else readNumber false (b :: r)

theorem length_readNumberFrom {b : UInt8} {r q : List UInt8} {n : JsonNumber}
    (h : readNumberFrom b r = .ok (n, q)) : q.length ≤ r.length := by
  unfold readNumberFrom at h
  split at h
  · exact Nat.le_of_lt (length_readNumber h)
  · exact Nat.le_of_lt_succ (length_readNumber h)

def startsNumber (b : UInt8) : Bool := b == 0x2D || isDigit b

def yields {α β : Type} (f : α → β) (read : Except Fault (α × List UInt8)) :
    Except Fault (β × List UInt8) :=
  match read with
  | .error e => .error e
  | .ok (a, r) => .ok (f a, r)

theorem yields_eq_ok {α β : Type} {f : α → β} {read : Except Fault (α × List UInt8)} {b : β}
    {r : List UInt8} : yields f read = .ok (b, r) ↔ ∃ a, read = .ok (a, r) ∧ f a = b := by
  unfold yields
  split
  · simp
  · rename_i a t
    constructor
    · rintro h
      simp only [Except.ok.injEq, Prod.mk.injEq] at h
      exact ⟨a, by rw [h.2], h.1⟩
    · rintro ⟨c, eq, rfl⟩
      simp only [Except.ok.injEq, Prod.mk.injEq] at eq
      rw [eq.1, eq.2]

def literal (a : α) (read : Except Fault (List UInt8)) : Except Fault (α × List UInt8) :=
  match read with
  | .error e => .error e
  | .ok r => .ok (a, r)

theorem literal_eq_ok {a b : α} {read : Except Fault (List UInt8)} {r : List UInt8} :
    literal a read = .ok (b, r) ↔ read = .ok r ∧ a = b := by
  unfold literal
  split <;> simp [and_comm]

def nest {β : Type} (nested : Option (Reader Json)) (r : List UInt8)
    (read : Reader Json → Except Fault (β × List UInt8)) : Except Fault (β × List UInt8) :=
  match nested with
  | none => fail .tooDeep r
  | some inner => read inner

def readValue (nested : Option (Reader Json)) (b : UInt8) (r : List UInt8) :
    Except Fault (Json × List UInt8) :=
  if b = 0x6E then literal .null (readNull r)
  else if b = 0x74 then literal (.bool true) (readTrue r)
  else if b = 0x66 then literal (.bool false) (readFalse r)
  else if startsNumber b then yields .number (readNumberFrom b r)
  else if b = 0x22 then yields .text (readText [] r)
  else if b = 0x5B then nest nested r fun inner => yields .list (items inner [] r)
  else if b = 0x7B then
    nest nested r fun inner => yields .object (members (lastOfEach inner) true [] r)
  else fail .expectedValue r

theorem length_readValue {nested : Option (Reader Json)} {b : UInt8} {r q : List UInt8} {v : Json}
    (h : readValue nested b r = .ok (v, q)) : q.length ≤ r.length := by
  unfold readValue at h
  split at h
  · exact length_readLetters (literal_eq_ok.1 h).1
  split at h
  · exact length_readLetters (literal_eq_ok.1 h).1
  split at h
  · exact length_readLetters (literal_eq_ok.1 h).1
  split at h
  · obtain ⟨_, read, _⟩ := yields_eq_ok.1 h
    exact length_readNumberFrom read
  split at h
  · obtain ⟨_, read, _⟩ := yields_eq_ok.1 h
    exact Nat.le_of_lt (length_readText read)
  split at h
  · cases nested with
    | none => exact absurd h fail_ne_ok
    | some inner =>
        obtain ⟨_, read, _⟩ := yields_eq_ok.1 h
        exact Nat.le_of_lt (length_items read)
  split at h
  · cases nested with
    | none => exact absurd h fail_ne_ok
    | some inner =>
        obtain ⟨_, read, _⟩ := yields_eq_ok.1 h
        exact Nat.le_of_lt (length_members read)
  · exact absurd h fail_ne_ok

/-- A value of any type, in which at most `room` brackets stand open at once. -/
def Reader.value : Nat → Reader Json
  | 0 => .ofFirst (readValue none) length_readValue
  | room + 1 => .ofFirst (readValue (some (value room))) length_readValue

end ClusterDirectory.Json
