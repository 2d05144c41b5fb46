import ClusterDirectory.Proofs.Address.Written
import ClusterDirectory.Proofs.Json.Kept
import ClusterDirectory.Proofs.Json.Written
import ClusterDirectory.Resource.Printer
import ClusterDirectory.Resource.Reader

namespace ClusterDirectory

open Json

theorem Kind.ofName_name (k : Kind) : Kind.ofName k.name = k := by
  cases k <;> decide

theorem Field.ofKey?_eq_none (key : String) : ofKey? key = none ↔ ∀ f : Field, key ≠ f.key := by
  simp only [ofKey?, List.find?_eq_none, mem_all, true_implies, beq_iff_eq, ne_comm]

namespace Resource

namespace Draft

def filled (d : Draft) (r : Resource) : Field → Draft
  | .kind => { d with resource := { d.resource with kind := r.kind } }
  | .name => { d with resource := { d.resource with name := r.name } }
  | .namespaceName => { d with resource := { d.resource with namespaceName := r.namespaceName } }
  | .labels => { d with resource := { d.resource with labels := r.labels } }
  | .annotations => { d with resource := { d.resource with annotations := r.annotations } }
  | .ownerName => { d with resource := { d.resource with ownerName := r.ownerName } }
  | .ownerKind => { d with resource := { d.resource with ownerKind := r.ownerKind } }
  | .hostName => { d with resource := { d.resource with hostName := r.hostName } }
  | .hostAddress => { d with resource := { d.resource with hostAddress := r.hostAddress } }
  | .networkName => { d with resource := { d.resource with networkName := r.networkName } }
  | .addresses =>
      { d with
        resource := { d.resource with addresses := r.addresses }
        addressTexts := r.addresses.map Address.render }
  | .secondaryNetworks =>
      { d with resource := { d.resource with secondaryNetworks := r.secondaryNetworks } }

theorem filled_seen (d : Draft) (r : Resource) (f : Field) : (d.filled r f).seen = d.seen := by
  cases f <;> rfl

theorem withAddresses_render (d : Draft) (r : Resource) :
    d.withAddresses (r.addresses.map Address.render) = d.filled r .addresses := by
  have parsed : (r.addresses.map Address.render).filterMap Address.parse? = r.addresses := by
    rw [List.filterMap_map, Function.comp_def]
    simp only [Address.parse?_render, List.filterMap_some]
  rw [withAddresses, parsed]
  rfl

theorem reads_field (d : Draft) (r : Resource) (f : Field) :
    Reads (d.readField f) (r.fieldJson f) (d.filled r f) := by
  have text (word : String) : Reads (.orNull .text) (.text word) word :=
    (Reads.text word).orNull (written_text word) (by decide)
  have texts (m : KeyMap String) : Reads (.orNull (.mapOf .text)) (fieldJson.texts m) m :=
    (Reads.mapOf fun n _ => Reads.text n.2).orNull (written_object _) (by decide)
  have list (words : List String) :
      Reads (.orNull (.listOf .text)) (.list (words.map .text)) words :=
    (Reads.listOf fun word _ => Reads.text word).orNull (written_list _) (by decide)
  unfold readField
  cases f with
  | kind =>
      have chosen : (.ok (Kind.ofName r.kind.name) : Except Cause Kind) = .ok r.kind := by
        rw [Kind.ofName_name]
      exact (Reads.choice chosen).map _
  | name => exact (Reads.text r.name).map _
  | namespaceName => exact (text r.namespaceName).map _
  | labels => exact (texts r.labels).map _
  | annotations => exact (texts r.annotations).map _
  | ownerName => exact (text r.ownerName).map _
  | ownerKind => exact (text r.ownerKind).map _
  | hostName => exact (text r.hostName).map _
  | hostAddress => exact (text r.hostAddress).map _
  | networkName => exact (text r.networkName).map _
  | addresses =>
      have reads := (list (r.addresses.map Address.render)).map d.withAddresses
      rw [List.map_map, withAddresses_render] at reads
      exact reads
  | secondaryNetworks => exact (list r.secondaryNetworks).map _

theorem field_known {room : Nat} {d : Draft} {f : Field} (fresh : f ∉ d.seen) :
    field room d f.key = .ok ((d.see f).readField f) := by
  rw [field, Field.ofKey?_key]
  simp only
  rw [if_neg fresh]

theorem field_extra {room : Nat} {d : Draft} {key : String} (extra : Field.ofKey? key = none) :
    field room d key = .ok ((Reader.value room).map (d.addExtra key)) := by
  rw [field, extra]

theorem readsMembers_fields (room : Nat) (r : Resource) (fs : List Field) (d : Draft)
    (distinct : fs.Nodup) (fresh : ∀ f ∈ fs, f ∉ d.seen) :
    ReadsMembers (fields room) d (fs.map fun f => (f.key, r.fieldJson f))
      (fs.foldl (fun d f => (d.see f).filled r f) d) := by
  induction fs generalizing d with
  | nil => exact .nil d
  | cons f fs ih =>
      rw [List.nodup_cons] at distinct
      rw [List.forall_mem_cons] at fresh
      refine .cons (field_known fresh.1) (reads_field (d.see f) r f) (ih _ distinct.2 ?_)
      intro g member
      rw [filled_seen, see, List.mem_cons, not_or]
      refine ⟨?_, fresh.2 g member⟩
      rintro rfl
      exact distinct.1 member

def withExtra (d : Draft) (extra : KeyMap Json) : Draft :=
  { d with resource := { d.resource with extra } }

theorem readsMembers_extra (room : Nat) (all : KeyMap Json) (ms : List (String × Json)) (d : Draft)
    (split : d.resource.extra.members ++ ms = all.members)
    (undeclared : ∀ m ∈ ms, Field.ofKey? m.1 = none)
    (reads : ∀ m ∈ ms, Reads (.value room) m.2 m.2) :
    ReadsMembers (fields room) d ms (d.withExtra all) := by
  induction ms generalizing d with
  | nil =>
      have same : d.resource.extra = all := KeyMap.ext (by rw [← split, List.append_nil])
      rw [← same]
      exact .nil d
  | cons m ms ih =>
      rw [List.forall_mem_cons] at undeclared reads
      have ordered := all.ascending
      rw [← split] at ordered
      have last : ∀ n ∈ d.resource.extra.members, n.1 < m.1 := fun n member =>
        (List.pairwise_append.1 ordered).2.2 n member m List.mem_cons_self
      refine .cons (field_extra undeclared.1) (reads.1.map (d.addExtra m.1)) ?_
      have members : (d.addExtra m.1 m.2).resource.extra.members =
          d.resource.extra.members ++ [m] := insertMember_last last
      refine ih (d.addExtra m.1 m.2) ?_ undeclared.2 reads.2
      rw [members, List.append_assoc, List.singleton_append, split]

end Draft

/-- The extra fields of a resource stand under keys of their own, and their values can be written
and read where there is room for so many brackets. -/
structure ExtraFits (r : Resource) (room : Nat) : Prop where
  undeclared : ∀ m ∈ r.extra.members, ∀ f : Field, m.1 ≠ f.key
  shallow : ∀ m ∈ r.extra.members, m.2.depth ≤ room
  ordered : ∀ m ∈ r.extra.members, m.2.Ordered
  numbers : ∀ m ∈ r.extra.members, m.2.AllNumbers FitsWord

def draft (r : Resource) : Draft where
  seen := Field.all.reverse
  resource := r
  addressTexts := r.addresses.map Address.render

theorem filled_all (r : Resource) :
    Field.all.foldl (fun d f => (d.see f).filled r f) ({} : Draft) =
      r.draft.withExtra KeyMap.empty := by
  simp only [Field.all, List.foldl_cons, List.foldl_nil, Draft.see, Draft.filled, Draft.withExtra,
    draft, List.reverse_cons, List.reverse_nil, List.nil_append, List.cons_append, KeyMap.empty]

theorem readsMembers_json {room : Nat} {r : Resource} (extra : r.ExtraFits room) :
    ReadsMembers (Draft.fields room) {}
      (Field.all.map (fun f => (f.key, r.fieldJson f)) ++ r.extra.members) r.draft := by
  have declared := Draft.readsMembers_fields room r Field.all {} (by decide) (by simp)
  rw [filled_all] at declared
  have rest := Draft.readsMembers_extra room r.extra r.extra.members
    (r.draft.withExtra KeyMap.empty) rfl
    (fun m member => (Field.ofKey?_eq_none _).2 (extra.undeclared m member))
    (fun m member => .value (extra.shallow m member) (extra.ordered m member)
      (extra.numbers m member))
  exact declared.append rest

theorem reads_json {room : Nat} {r : Resource} (extra : r.ExtraFits room) :
    Reads (reader room) r.json r.draft := by
  refine .ofFirst (written_object _) (by decide) ?_
  intro s _
  rw [reader, run_typed (by decide), readDraft, members_row (readsMembers_json extra) true s]
  rfl

end Resource

end ClusterDirectory
