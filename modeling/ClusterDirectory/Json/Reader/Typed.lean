import ClusterDirectory.Json.Reader.Value

namespace ClusterDirectory.Json

variable {α : Type}

/-- The fault of a value with the first byte `b` where `expected` should stand. A value that is not
a list or an object is read to its end. -/
def refuse (expected : String) (b : UInt8) (r : List UInt8) : Fault :=
  let shape : Except Fault (Shape × List UInt8) :=
    if b = 0x6E then literal .null (readNull r)
    else if b = 0x74 then literal (.bool true) (readTrue r)
    else if b = 0x66 then literal (.bool false) (readFalse r)
    else if startsNumber b then yields .number (readNumberFrom b r)
    else if b = 0x22 then yields .text (readText [] r)
    else if b = 0x5B then .ok (.list, b :: r)
    else if b = 0x7B then .ok (.object, b :: r)
    else fail .expectedValue r
  match shape with
  | .error e => e
  | .ok (found, s) => { cause := .wrongType found expected, left := s.length }

def Reader.typed (expected : String) (first : UInt8)
    (read : List UInt8 → Except Fault (α × List UInt8))
    (shorter : ∀ {s a r}, read s = .ok (a, r) → r.length ≤ s.length) : Reader α :=
  .ofFirst (fun b r => if b = first then read r else .error (refuse expected b r)) (by
    intro b s a r h
    split at h
    · exact shorter h
    · simp at h)

def Reader.text : Reader String :=
  .typed "a string" 0x22 (readText []) fun h => Nat.le_of_lt (length_readText h)

def Reader.listOf (item : Reader α) : Reader (List α) :=
  .typed "a sequence" 0x5B (items item []) fun h => Nat.le_of_lt (length_items h)

def readMap (item : Reader α) (s : List UInt8) : Except Fault (List (String × α) × List UInt8) :=
  members (lastOfEach item) true [] s

theorem ascending_members {item : Reader α} {first : Bool} {ms ns : List (String × α)}
    {s r : List UInt8} (h : members (lastOfEach item) first ms s = .ok (ns, r))
    (ordered : Ascending ms) : Ascending ns := by
  fun_induction members (lastOfEach item) first ms s with
  | case1 => simp at h
  | case2 => cases h; exact ordered
  | case3 => simp at h
  | case4 => simp at h
  | case5 =>
      rename_i key _ _ read ih
      refine ih h ?_
      unfold readKey lastOfEach at key
      split at key
      · simp at key
      · simp only at key
        split at key
        · simp at key
        · cases key
          obtain ⟨⟨v, t⟩, _, eq⟩ := bind_eq_ok.1 read
          cases eq
          exact ascending_insertMember _ _ ordered

def Reader.mapOf (item : Reader α) : Reader (KeyMap α) :=
  .typed "a map" 0x7B
    (fun s => match found : readMap item s with
      | .error e => .error e
      | .ok (ms, r) => .ok (⟨ms, ascending_members found .nil⟩, r))
    (by
      intro s a r h
      split at h
      · simp at h
      · rename_i found
        cases h
        exact Nat.le_of_lt (length_members found))

def Reader.orNull [Inhabited α] (reader : Reader α) : Reader α :=
  .ofFirst (fun b r => if b = 0x6E then literal default (readNull r) else reader.run (b :: r)) (by
    intro b s a r h
    split at h
    · exact length_readLetters (literal_eq_ok.1 h).1
    · exact Nat.le_of_lt_succ (reader.shrinks h))

def readChoice (choose : String → Except Cause α) (s : List UInt8) :
    Except Fault (α × List UInt8) :=
  match readText [] s with
  | .error e => .error e
  | .ok (word, r) =>
      match choose word with
      | .ok a => .ok (a, r)
      | .error cause => fail cause r

def readChoiceObject (choose : String → Except Cause α) (s : List UInt8) :
    Except Fault (α × List UInt8) :=
  match skipSpace s with
  | [] => fail .endInValue []
  | b :: r =>
      if b = 0x22 then
        match readChoice choose r with
        | .error e => .error e
        | .ok (a, t) =>
            match readColon t with
            | .error e => .error e
            | .ok q => literal a (readContent q)
      else if b = 0x7D then fail .expectedValue r
      else fail .keyNotText r
where
  readContent (s : List UInt8) : Except Fault (List UInt8) :=
    match skipSpace s with
    | [] => fail .endInValue []
    | b :: r =>
        if b = 0x6E then
          match readNull r with
          | .error e => .error e
          | .ok t => readBrace t
        else .error (refuse "unit" b r)
  readBrace (s : List UInt8) : Except Fault (List UInt8) :=
    match skipSpace s with
    | [] => fail .endInObject []
    | b :: r => if b = 0x7D then .ok r else fail .expectedValue (b :: r)

theorem length_readChoice {choose : String → Except Cause α} {s r : List UInt8} {a : α}
    (h : readChoice choose s = .ok (a, r)) : r.length < s.length := by
  unfold readChoice at h
  split at h
  · simp at h
  · rename_i read
    have := length_readText read
    split at h
    · cases h; exact this
    · exact absurd h fail_ne_ok

theorem length_readBrace {s r : List UInt8} (h : readChoiceObject.readBrace s = .ok r) :
    r.length ≤ s.length := by
  have bound := length_skipSpace s
  unfold readChoiceObject.readBrace at h
  split at h
  · exact absurd h fail_ne_ok
  · rename_i eq
    rw [eq, List.length_cons] at bound
    split at h
    · cases h; omega
    · exact absurd h fail_ne_ok

theorem length_readChoiceObject {choose : String → Except Cause α} {s r : List UInt8} {a : α}
    (h : readChoiceObject choose s = .ok (a, r)) : r.length ≤ s.length := by
  have bound := length_skipSpace s
  unfold readChoiceObject at h
  split at h
  · exact absurd h fail_ne_ok
  · rename_i b t eq
    rw [eq, List.length_cons] at bound
    split at h
    · split at h
      · simp at h
      · rename_i choice
        have := length_readChoice choice
        split at h
        · simp at h
        · rename_i q colon
          have := length_readColon colon
          have unit := (literal_eq_ok.1 h).1
          have inner := length_skipSpace q
          unfold readChoiceObject.readContent at unit
          split at unit
          · exact absurd unit fail_ne_ok
          · rename_i eq
            rw [eq, List.length_cons] at inner
            split at unit
            · split at unit
              · simp at unit
              · rename_i null
                have := length_readLetters null
                have := length_readBrace unit
                omega
            · simp at unit
    · split at h <;> exact absurd h fail_ne_ok

def Reader.choice (choose : String → Except Cause α) : Reader α :=
  .ofFirst (fun b r =>
    if b = 0x22 then readChoice choose r
    else if b = 0x7B then readChoiceObject choose r
    else fail .expectedValue r) (by
    intro b s a r h
    split at h
    · exact Nat.le_of_lt (length_readChoice h)
    split at h
    · exact length_readChoiceObject h
    · exact absurd h fail_ne_ok)

end ClusterDirectory.Json
