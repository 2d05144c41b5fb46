import ClusterDirectory.Directory
import Mathlib.Data.Set.Card

namespace ClusterDirectory

def Change.standing? (c : Change) : Option Resource :=
  match c.operation with
  | .add | .update => some c.resource
  | .delete => none

theorem Change.standing?_some {c : Change} {r : Resource} (standing : c.standing? = some r) :
    r = c.resource := by
  unfold standing? at standing
  split at standing <;> simp_all

def Change.lists (c : Change) (a : Address) : Bool := a ∈ c.resource.addresses

def Change.names (c : Change) (name : String) : Bool :=
  c.resource.isNode && c.resource.name == name

namespace Directory

theorem getElem?_foldl_insert (m : Std.HashMap Address Resource) (r : Resource)
    (as : List Address) (a : Address) :
    (as.foldl (fun m b => m.insert b r) m)[a]? = if a ∈ as then some r else m[a]? := by
  induction as generalizing m with
  | nil => simp
  | cons b bs ih =>
      rw [List.foldl_cons, ih, Std.HashMap.getElem?_insert]
      by_cases later : a ∈ bs
      · simp [later]
      · by_cases here : b = a
        · simp [here]
        · simp [later, here, Ne.symm here]

theorem getElem?_eraseAddresses (m : Std.HashMap Address Resource) (as : List Address)
    (a : Address) : (eraseAddresses m as).1[a]? = if a ∈ as then none else m[a]? := by
  -- the count beside the map has no part in what is left
  have run (n : Nat) : (as.foldl (fun (p : Std.HashMap Address Resource × Nat) b =>
      (p.1.erase b, if p.1.contains b then p.2 + 1 else p.2)) (m, n)).1[a]? =
        if a ∈ as then none else m[a]? := by
    induction as generalizing m n with
    | nil => simp
    | cons b bs ih =>
        rw [List.foldl_cons, ih, Std.HashMap.getElem?_erase]
        by_cases later : a ∈ bs
        · simp [later]
        · by_cases here : b = a
          · simp [here]
          · simp [later, here, Ne.symm here]
  exact run 0

@[simp] theorem address?_empty (a : Address) : empty.address? a = none := by
  simp [empty, address?]

@[simp] theorem node?_empty (name : String) : empty.node? name = none := by
  simp [empty, node?]

theorem address?_upsert (d : Directory) (r : Resource) (a : Address) :
    (d.upsert r).address? a = if a ∈ r.addresses then some r else d.address? a :=
  getElem?_foldl_insert d.byAddress r r.addresses a

theorem address?_delete (d : Directory) (r : Resource) (a : Address) :
    (d.delete r).address? a = if a ∈ r.addresses then none else d.address? a :=
  getElem?_eraseAddresses d.byAddress r.addresses a

theorem node?_upsert (d : Directory) (r : Resource) (name : String) :
    (d.upsert r).node? name =
      if r.isNode && r.name == name then some r else d.node? name := by
  cases node : r.isNode <;> simp [upsert, node?, node, Std.HashMap.getElem?_insert]

theorem node?_delete (d : Directory) (r : Resource) (name : String) :
    (d.delete r).node? name = if r.isNode && r.name == name then none else d.node? name := by
  cases node : r.isNode <;> simp [delete, node?, node, Std.HashMap.getElem?_erase]

theorem address?_apply (d : Directory) (c : Change) (a : Address) :
    (d.apply c).address? a = if c.lists a then c.standing? else d.address? a := by
  cases op : c.operation <;>
    simp [apply, op, Change.lists, Change.standing?, address?_upsert, address?_delete]

theorem node?_apply (d : Directory) (c : Change) (name : String) :
    (d.apply c).node? name = if c.names name then c.standing? else d.node? name := by
  cases op : c.operation <;>
    simp only [apply, op, Change.names, Change.standing?, node?_upsert, node?_delete]

section

variable {α β : Type} [BEq α] [Hashable α] [LawfulBEq α]

def keySet [DecidableEq α] (m : Std.HashMap α β) : Finset α := m.keys.toFinset

@[simp] theorem mem_keySet [DecidableEq α] {m : Std.HashMap α β} {k : α} :
    k ∈ keySet m ↔ m[k]?.isSome := by
  simp [keySet]

theorem card_keySet [DecidableEq α] (m : Std.HashMap α β) : (keySet m).card = m.size := by
  rw [keySet, List.toFinset_card_of_nodup Std.HashMap.nodup_keys, Std.HashMap.length_keys]

theorem encard_keys (m : Std.HashMap α β) : Set.encard {k : α | m[k]?.isSome} = m.size := by
  classical
  have keys : {k : α | m[k]?.isSome} = (keySet m : Set α) := by
    ext k
    simp
  rw [keys, Set.encard_coe_eq_coe_finsetCard, card_keySet]

end

theorem encard_addresses (d : Directory) :
    Set.encard {a | (d.address? a).isSome} = d.counts.1 := encard_keys d.byAddress

theorem encard_nodes (d : Directory) :
    Set.encard {name | (d.node? name).isSome} = d.counts.2 := encard_keys d.byNode

end Directory

end ClusterDirectory
