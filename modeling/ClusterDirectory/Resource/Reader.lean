import ClusterDirectory.Json.Reader.Typed
import ClusterDirectory.Resource.Field
import ClusterDirectory.Text.Blank

/-!
The reading of a resource from JSON.

A resource is an object. `kind` and `name` have to be there; the other fields may be missing or
`null`, and are empty then. A field may not be repeated, but of a key that has no place of its own
the last value is kept. A text in the list of addresses that spells no address is left out.
-/

namespace ClusterDirectory.Resource

open Json

structure Draft where
  seen : List Field := []
  resource : Resource := { kind := .other, name := "" }
  addressTexts : List String := []

namespace Draft

def withAddresses (d : Draft) (texts : List String) : Draft :=
  { d with
    resource := { d.resource with addresses := texts.filterMap Address.parse? }
    addressTexts := texts }

def readField (d : Draft) (f : Field) : Reader Draft :=
  let set {α : Type} (reader : Reader α) (update : Resource → α → Resource) : Reader Draft :=
    reader.map fun a => { d with resource := update d.resource a }
  match f with
  | .kind => set (.choice fun name => .ok (Kind.ofName name)) fun r a => { r with kind := a }
  | .name => set .text fun r a => { r with name := a }
  | .namespaceName => set (.orNull .text) fun r a => { r with namespaceName := a }
  | .labels => set (.orNull (.mapOf .text)) fun r a => { r with labels := a }
  | .annotations => set (.orNull (.mapOf .text)) fun r a => { r with annotations := a }
  | .ownerName => set (.orNull .text) fun r a => { r with ownerName := a }
  | .ownerKind => set (.orNull .text) fun r a => { r with ownerKind := a }
  | .hostName => set (.orNull .text) fun r a => { r with hostName := a }
  | .hostAddress => set (.orNull .text) fun r a => { r with hostAddress := a }
  | .networkName => set (.orNull .text) fun r a => { r with networkName := a }
  | .addresses => (Reader.orNull (.listOf .text)).map d.withAddresses
  | .secondaryNetworks =>
      set (.orNull (.listOf .text)) fun r a => { r with secondaryNetworks := a }

def see (d : Draft) (f : Field) : Draft := { d with seen := f :: d.seen }

def addExtra (d : Draft) (key : String) (v : Json) : Draft :=
  { d with resource := { d.resource with extra := d.resource.extra.insert key v } }

def field (room : Nat) (d : Draft) (key : String) : Except Cause (Reader Draft) :=
  match Field.ofKey? key with
  | some f => if f ∈ d.seen then .error (.duplicateField f.key) else .ok ((d.see f).readField f)
  | none => .ok ((Reader.value room).map (d.addExtra key))

def fields (room : Nat) : Fields Draft where
  field := field room
  note d f := { f with noted := d.addressTexts }

def finish (d : Draft) : Except Cause Draft :=
  if .kind ∉ d.seen then .error (.missingField Field.kind.key)
  else if .name ∉ d.seen then .error (.missingField Field.name.key)
  else .ok d

end Draft

def readDraft (room : Nat) (s : List UInt8) : Except Fault (Draft × List UInt8) :=
  match members (Draft.fields room) true {} s with
  | .error e => .error e
  | .ok (d, r) =>
      match d.finish with
      | .ok d => .ok (d, r)
      | .error cause => .error { cause, left := r.length, noted := d.addressTexts }

theorem length_readDraft {room : Nat} {s r : List UInt8} {d : Draft}
    (h : readDraft room s = .ok (d, r)) : r.length ≤ s.length := by
  unfold readDraft at h
  split at h
  · simp at h
  · rename_i found
    split at h
    · cases h; exact Nat.le_of_lt (length_members found)
    · simp at h

def reader (room : Nat) : Reader Draft :=
  .typed "struct ResourceMetaData" 0x7B (readDraft room) length_readDraft

/-- How many brackets a value may open in bytes of their own. -/
def nestingLimit : Nat := 127

def readAll {α : Type} (reader : Reader α) (note : α → List String) (s : List UInt8) :
    Except Fault α :=
  match reader.run s with
  | .error e => .error e
  | .ok (a, r) =>
      match skipSpace r with
      | [] => .ok a
      | _ :: q => .error { cause := .trailingBytes, left := q.length, noted := note a }

def decode (s : List UInt8) : Except Fault Draft :=
  readAll (reader (nestingLimit - 1)) Draft.addressTexts s

def skippedTexts (texts : List String) : List String :=
  texts.filter fun t => (Address.parse? t).isNone

end ClusterDirectory.Resource
