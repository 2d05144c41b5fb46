import ClusterDirectory.Change
import ClusterDirectory.Json.Reader.Skip
import ClusterDirectory.Resource.Reader

/-!
The reading of a change from the payload of a message.

A change is an object with the members `operation` and `resource`, each once and in any order, among
others that are passed over; or a list of the two. Nothing but white space may stand around it. A
change is refused when the name of its resource has nothing but white space.
-/

namespace ClusterDirectory.Change

open Json

inductive Rejection
  | malformed (fault : Fault)
  | missingName
  deriving Repr

def Rejection.message : Rejection → String
  | .malformed fault => s!"malformed change event: {fault.cause.message}"
  | .missingName => "change event resource has no name"

structure Draft where
  operation : Option Operation := none
  resource : Option Resource.Draft := none

namespace Draft

def addressTexts (d : Draft) : List String := (d.resource.map (·.addressTexts)).getD []

def operationReader : Reader Operation :=
  .choice fun name => match Operation.ofName? name with
    | some op => .ok op
    | none => .error (.unknownVariant name (Operation.all.map Operation.name))

/-- The brackets that may stand open in an extra value of a resource: all but its own and the
change's. -/
def resourceReader : Reader Resource.Draft := Resource.reader (Resource.nestingLimit - 2)

def skip (d : Draft) : Reader Draft where
  run s := literal d (passAny s)
  shrinks h := length_passAny (literal_eq_ok.1 h).1

def field (d : Draft) (key : String) : Except Cause (Reader Draft) :=
  if key = "operation" then
    if d.operation.isSome then .error (.duplicateField key)
    else .ok (operationReader.map fun op => { d with operation := some op })
  else if key = "resource" then
    if d.resource.isSome then .error (.duplicateField key)
    else .ok (resourceReader.map fun r => { d with resource := some r })
  else .ok d.skip

def fields : Fields Draft where
  field := field
  note d f := { f with noted := d.addressTexts ++ f.noted }

end Draft

structure Reading where
  change : Change
  addressTexts : List String

def Draft.finish (d : Draft) : Except Cause Reading :=
  match d.operation, d.resource with
  | none, _ => .error (.missingField "operation")
  | some _, none => .error (.missingField "resource")
  | some op, some r => .ok ⟨⟨op, r.resource⟩, r.addressTexts⟩

def readObject (s : List UInt8) : Except Fault (Reading × List UInt8) :=
  match members Draft.fields true {} s with
  | .error e => .error e
  | .ok (d, r) =>
      match d.finish with
      | .ok reading => .ok (reading, r)
      | .error cause => .error { cause, left := r.length, noted := d.addressTexts }

def pairText : String := "struct ChangeEvent with 2 elements"

def closePair (s : List UInt8) : Except Fault (List UInt8) :=
  match skipSpace s with
  | [] => fail .endInList []
  | b :: r =>
      if b = 0x5D then .ok r
      else if b = 0x2C then
        match skipSpace r with
        | [] => fail .trailingBytes []
        | c :: q => if c = 0x5D then fail .trailingComma q else fail .trailingBytes q
      else fail .trailingBytes r

def readPair (s : List UInt8) : Except Fault (Reading × List UInt8) :=
  match nextItem true s with
  | .error e => .error e
  | .ok (.done r) => fail (.wrongLength 0 pairText) r
  | .ok (.entry s) =>
      match Draft.operationReader.run s with
      | .error e => .error e
      | .ok (op, s) =>
          match nextItem false s with
          | .error e => .error e
          | .ok (.done r) => fail (.wrongLength 1 pairText) r
          | .ok (.entry s) =>
              match Draft.resourceReader.run s with
              | .error e => .error e
              | .ok (d, s) =>
                  match closePair s with
                  | .error e => .error { e with noted := d.addressTexts }
                  | .ok r => .ok (⟨⟨op, d.resource⟩, d.addressTexts⟩, r)

theorem length_readObject {s r : List UInt8} {reading : Reading}
    (h : readObject s = .ok (reading, r)) : r.length ≤ s.length := by
  unfold readObject at h
  split at h
  · simp at h
  · rename_i found
    split at h
    · cases h; exact Nat.le_of_lt (length_members found)
    · simp at h

theorem length_closePair {s r : List UInt8} (h : closePair s = .ok r) : r.length ≤ s.length := by
  have bound := length_skipSpace s
  unfold closePair at h
  split at h
  · exact absurd h fail_ne_ok
  · rename_i eq
    rw [eq, List.length_cons] at bound
    split at h
    · cases h; omega
    · split at h
      · split at h
        · exact absurd h fail_ne_ok
        · split at h <;> exact absurd h fail_ne_ok
      · exact absurd h fail_ne_ok

theorem length_readPair {s r : List UInt8} {reading : Reading}
    (h : readPair s = .ok (reading, r)) : r.length ≤ s.length := by
  unfold readPair at h
  split at h
  · simp at h
  · exact absurd h fail_ne_ok
  · rename_i first
    have := length_nextItem first
    split at h
    · simp at h
    · rename_i operation
      have := Draft.operationReader.shrinks operation
      split at h
      · simp at h
      · exact absurd h fail_ne_ok
      · rename_i second
        have := length_nextItem second
        split at h
        · simp at h
        · rename_i resource
          have := Draft.resourceReader.shrinks resource
          split at h
          · simp at h
          · rename_i close
            have := length_closePair close
            cases h
            simp only at *
            omega

def reader : Reader Reading :=
  .ofFirst (fun b r =>
    if b = 0x5B then readPair r
    else if b = 0x7B then readObject r
    else .error (refuse "struct ChangeEvent" b r)) (by
    intro b s a r h
    split at h
    · exact length_readPair h
    split at h
    · exact length_readObject h
    · simp at h)

def read (payload : List UInt8) : Except Fault Reading :=
  Resource.readAll reader Reading.addressTexts payload

def judge (reading : Except Fault Reading) : Except Rejection Change :=
  match reading with
  | .error fault => .error (.malformed fault)
  | .ok reading =>
      if Text.allBlank reading.change.resource.name then .error .missingName
      else .ok reading.change

def decode (payload : List UInt8) : Except Rejection Change := judge (read payload)

/-- The texts that were left out because they spell no address, whether or not the change was read
to its end. -/
def skippedTexts (reading : Except Fault Reading) : List String :=
  Resource.skippedTexts (match reading with
    | .error fault => fault.noted
    | .ok reading => reading.addressTexts)

end ClusterDirectory.Change
