import ClusterDirectory.Json.Reader.Text

/-!
Lists and objects, from the byte after the opening bracket to the closing bracket.

`items` repeats one reader. `members` reads a key at a time and asks for the reader of its value,
which may depend on the members read so far, or for a reason to refuse the key.
-/

namespace ClusterDirectory.Json

variable {α σ : Type}

inductive More
  | done (rest : List UInt8)
  | entry (start : List UInt8)

def nextItem (first : Bool) (s : List UInt8) : Except Fault More :=
  match skipSpace s with
  | [] => fail .endInList []
  | b :: r =>
      if b = 0x5D then .ok (.done r)
      else if first then .ok (.entry (b :: r))
      else if b = 0x2C then
        match skipSpace r with
        | [] => fail .endInValue []
        | c :: q => if c = 0x5D then fail .trailingComma q else .ok (.entry (c :: q))
      else fail .expectedCommaOrBracket r

def nextKey (first : Bool) (s : List UInt8) : Except Fault More :=
  match skipSpace s with
  | [] => fail .endInObject []
  | b :: r =>
      if b = 0x7D then .ok (.done r)
      else if first then
        if b = 0x22 then .ok (.entry r) else fail .keyNotText r
      else if b = 0x2C then
        match skipSpace r with
        | [] => fail .endInValue []
        | c :: q =>
            if c = 0x22 then .ok (.entry q)
            else if c = 0x7D then fail .trailingComma q
            else fail .keyNotText q
      else fail .expectedCommaOrBrace r

def readColon (s : List UInt8) : Except Fault (List UInt8) :=
  match skipSpace s with
  | [] => fail .endInObject []
  | b :: r => if b = 0x3A then .ok r else fail .expectedColon r

/-- The bytes after the closing brace, if it is what comes next. An object whose content is refused
is passed over that far. -/
def closeObject (s : List UInt8) : List UInt8 :=
  match skipSpace s with
  | [] => []
  | b :: r => if b = 0x7D then r else b :: r

theorem length_nextItem {first : Bool} {s : List UInt8} {m : More} (h : nextItem first s = .ok m) :
    match m with
    | .done r => r.length < s.length
    | .entry t => t.length ≤ s.length := by
  have bound := length_skipSpace s
  unfold nextItem at h
  split at h
  · simp [fail] at h
  · rename_i b r eq
    rw [eq, List.length_cons] at bound
    split at h
    · cases h; exact bound
    · split at h
      · cases h; exact bound
      · split at h
        · have inner := length_skipSpace r
          split at h
          · simp [fail] at h
          · rename_i c q eq
            rw [eq, List.length_cons] at inner
            split at h
            · simp [fail] at h
            · cases h
              simp only [List.length_cons]
              omega
        · simp [fail] at h

theorem length_nextKey {first : Bool} {s : List UInt8} {m : More} (h : nextKey first s = .ok m) :
    match m with
    | .done r => r.length < s.length
    | .entry t => t.length < s.length := by
  have bound := length_skipSpace s
  unfold nextKey at h
  split at h
  · simp [fail] at h
  · rename_i b r eq
    rw [eq, List.length_cons] at bound
    split at h
    · cases h; exact bound
    · split at h
      · split at h
        · cases h; exact bound
        · simp [fail] at h
      · split at h
        · have inner := length_skipSpace r
          split at h
          · simp [fail] at h
          · rename_i c q eq
            rw [eq, List.length_cons] at inner
            split at h
            · cases h
              simp only
              omega
            · split at h <;> simp [fail] at h
        · simp [fail] at h

theorem length_readColon {s r : List UInt8} (h : readColon s = .ok r) : r.length < s.length := by
  have bound := length_skipSpace s
  unfold readColon at h
  split at h
  · simp [fail] at h
  · rename_i eq
    rw [eq, List.length_cons] at bound
    split at h
    · cases h; exact bound
    · simp [fail] at h

def items (item : Reader α) (before : List α) (s : List UInt8) :
    Except Fault (List α × List UInt8) :=
  match _next : nextItem before.isEmpty s with
  | .error e => .error e
  | .ok (.done r) => .ok (before.reverse, r)
  | .ok (.entry t) =>
      match _read : item.run t with
      | .error e => .error e
      | .ok (a, r) => items item (a :: before) r
termination_by s.length
decreasing_by
  have := length_nextItem _next
  have := item.shrinks _read
  simp only at *
  omega

theorem length_items {item : Reader α} {before as : List α} {s r : List UInt8}
    (h : items item before s = .ok (as, r)) : r.length < s.length := by
  fun_induction items item before s with
  | case1 => simp at h
  | case2 _ _ _ next =>
      cases h
      exact length_nextItem next
  | case3 => simp at h
  | case4 =>
      rename_i next _ _ read ih
      have := length_nextItem next
      have := item.shrinks read
      have := ih h
      simp only at *
      omega

/-- What an object's reader does with its members: `field` gives, by what was read before and a
key, the reader of the value, and `note` is what is kept with a fault. -/
structure Fields (σ : Type) where
  field : σ → String → Except Cause (Reader σ)
  note : σ → Fault → Fault := fun _ f => f

def readKey (fields : Fields σ) (state : σ) (s : List UInt8) :
    Except Fault (Reader σ × List UInt8) :=
  match readText [] s with
  | .error e => .error e
  | .ok (key, r) =>
      match fields.field state key with
      | .error cause => fail cause (closeObject r)
      | .ok value =>
          match readColon r with
          | .error e => .error e
          | .ok q => .ok (value, q)

theorem length_readKey {fields : Fields σ} {state : σ} {s r : List UInt8} {value : Reader σ}
    (h : readKey fields state s = .ok (value, r)) : r.length < s.length := by
  unfold readKey at h
  split at h
  · simp at h
  · rename_i key t read
    have := length_readText read
    split at h
    · simp [fail] at h
    · split at h
      · simp at h
      · rename_i colon
        have := length_readColon colon
        cases h
        omega

def members (fields : Fields σ) (first : Bool) (state : σ) (s : List UInt8) :
    Except Fault (σ × List UInt8) :=
  match _next : nextKey first s with
  | .error e => .error (fields.note state e)
  | .ok (.done r) => .ok (state, r)
  | .ok (.entry t) =>
      match _key : readKey fields state t with
      | .error e => .error (fields.note state e)
      | .ok (value, q) =>
          match _read : value.run q with
          | .error e => .error (fields.note state e)
          | .ok (state, r) => members fields false state r
termination_by s.length
decreasing_by
  have := length_nextKey _next
  have := length_readKey _key
  have := value.shrinks _read
  simp only at *
  omega

theorem length_members {fields : Fields σ} {first : Bool} {state result : σ} {s r : List UInt8}
    (h : members fields first state s = .ok (result, r)) : r.length < s.length := by
  fun_induction members fields first state s with
  | case1 => simp at h
  | case2 _ _ _ _ next =>
      cases h
      exact length_nextKey next
  | case3 => simp at h
  | case4 => simp at h
  | case5 =>
      rename_i next value _ key _ _ read ih
      have := length_nextKey next
      have := length_readKey key
      have := value.shrinks read
      have := ih h
      simp only at *
      omega

end ClusterDirectory.Json
