import ClusterDirectory.Proofs.Directory.Lookup

/-!
# What one change does to the counts

A resource that is put in adds one entry for each of its addresses under which nothing stood, and
one that is taken out takes one away for each of its addresses under which something stood, however
often an address is listed. The number that the notice of a deletion gives is counted along the way,
and it is that second number (`deletedCount_eq`).
-/

namespace ClusterDirectory.Directory

def vacant (d : Directory) (r : Resource) : Finset Address :=
  r.addresses.toFinset.filter fun a => (d.address? a).isNone

def occupied (d : Directory) (r : Resource) : Finset Address :=
  r.addresses.toFinset.filter fun a => (d.address? a).isSome

section

variable {α β : Type} [BEq α] [Hashable α] [LawfulBEq α]

theorem size_insert_key (m : Std.HashMap α β) (k : α) (v : β) :
    (m.insert k v).size = m.size + if m[k]?.isNone then 1 else 0 := by
  have stands : k ∈ m ↔ m[k]?.isSome := Std.HashMap.mem_iff_isSome_getElem?
  cases found : m[k]? <;> simp [Std.HashMap.size_insert, stands, found]

theorem size_erase_key (m : Std.HashMap α β) (k : α) :
    (m.erase k).size + (if m[k]?.isSome then 1 else 0) = m.size := by
  classical
  have keys : keySet (m.erase k) = (keySet m).erase k := by
    ext j
    by_cases same : k = j
    · simp [same]
    · simp [Std.HashMap.getElem?_erase, same, Ne.symm same]
  rw [← card_keySet, keys, ← card_keySet]
  cases stands : m[k]? with
  | none => rw [Finset.erase_eq_of_notMem (by simp [stands])]; rfl
  | some w => exact Finset.card_erase_add_one (by simp [stands])

end

theorem keySet_upsert (d : Directory) (r : Resource) :
    keySet (d.upsert r).byAddress = r.addresses.toFinset ∪ keySet d.byAddress := by
  ext a
  have found := address?_upsert d r a
  simp only [address?] at found
  by_cases listed : a ∈ r.addresses <;> simp [found, listed]

theorem keySet_delete (d : Directory) (r : Resource) :
    keySet (d.delete r).byAddress = keySet d.byAddress \ r.addresses.toFinset := by
  ext a
  have found := address?_delete d r a
  simp only [address?] at found
  by_cases listed : a ∈ r.addresses <;> simp [found, listed]

theorem vacant_eq (d : Directory) (r : Resource) :
    d.vacant r = r.addresses.toFinset \ keySet d.byAddress := by
  ext a
  simp [vacant, address?]

theorem occupied_eq (d : Directory) (r : Resource) :
    d.occupied r = keySet d.byAddress ∩ r.addresses.toFinset := by
  ext a
  simp [occupied, address?, and_comm]

theorem addresses_upsert (d : Directory) (r : Resource) :
    (d.upsert r).counts.1 = d.counts.1 + (d.vacant r).card := by
  simp only [counts, ← card_keySet, keySet_upsert, vacant_eq, ← Finset.card_sdiff_add_card]
  exact Nat.add_comm ..

theorem addresses_delete (d : Directory) (r : Resource) :
    (d.delete r).counts.1 + (d.occupied r).card = d.counts.1 := by
  simp only [counts, ← card_keySet, keySet_delete, occupied_eq]
  exact Finset.card_sdiff_add_card_inter ..

/-- Each address that is taken out is counted when it had an entry, so that nothing is lost between
the map and the count beside it. -/
theorem size_eraseAddresses (m : Std.HashMap Address Resource) (as : List Address) :
    (eraseAddresses m as).1.size + (eraseAddresses m as).2 = m.size := by
  -- the fold keeps the sum of the size and the count, wherever the count begins
  have run (n : Nat) : let p := as.foldl (fun (p : Std.HashMap Address Resource × Nat) b =>
      (p.1.erase b, if p.1.contains b then p.2 + 1 else p.2)) (m, n)
      p.1.size + p.2 = m.size + n := by
    induction as generalizing m n with
    | nil => rfl
    | cons b bs ih =>
        rw [List.foldl_cons]
        have one := size_erase_key m b
        refine (ih (m.erase b) _).trans ?_
        rw [Std.HashMap.contains_eq_isSome_getElem?]
        cases stands : m[b]? with
        | none =>
            simp only [stands, Option.isSome_none, Bool.false_eq_true, if_false] at one ⊢
            omega
        | some r =>
            simp only [stands, Option.isSome_some, if_true] at one ⊢
            omega
  exact run 0

theorem deletedCount_eq (d : Directory) (r : Resource) :
    d.deletedCount r = (d.occupied r).card := by
  have left := size_eraseAddresses d.byAddress r.addresses
  have sizes := addresses_delete d r
  simp only [counts, delete] at sizes
  exact Nat.add_left_cancel (left.trans sizes.symm)

theorem nodes_upsert (d : Directory) (r : Resource) :
    (d.upsert r).counts.2 =
      d.counts.2 + if r.isNode && (d.node? r.name).isNone then 1 else 0 := by
  cases node : r.isNode with
  | false => simp [counts, upsert, node]
  | true => simp [counts, upsert, node, node?, size_insert_key]

theorem nodes_delete (d : Directory) (r : Resource) :
    (d.delete r).counts.2 + (if r.isNode && (d.node? r.name).isSome then 1 else 0) =
      d.counts.2 := by
  cases node : r.isNode with
  | false => simp [counts, delete, node]
  | true => simpa [counts, delete, node, node?] using size_erase_key d.byNode r.name

/-- The number of addresses grows by those under which nothing stood and shrinks by those under
which something stood, each counted once, and the notice of a deletion gives the latter. The number
of names changes by one, if the resource is a node and its name was new, or was there. Nothing
happens to any other key, and it does not matter what stood under those that are taken out. -/
theorem counts_of_one_change (d : Directory) (r : Resource) :
    let removed := (d.occupied r).card
    let listed := r.addresses.length
    (d.upsert r).counts.1 = d.counts.1 + (d.vacant r).card ∧
      (d.upsert r).counts.2 =
        d.counts.2 + (if r.isNode && (d.node? r.name).isNone then 1 else 0) ∧
      (d.delete r).counts.1 + removed = d.counts.1 ∧
      (d.delete r).counts.2 + (if r.isNode && (d.node? r.name).isSome then 1 else 0) =
        d.counts.2 ∧
      d.deletedCount r = removed ∧
      (d.notice { operation := .delete, resource := r }).message =
        s!"Deleted {r.kind.name} '{r.name}' ({removed} of {listed} IP(s) were indexed)" ∧
      (∀ a, (d.upsert r).address? a = if a ∈ r.addresses then some r else d.address? a) ∧
      (∀ a, (d.delete r).address? a = if a ∈ r.addresses then none else d.address? a) ∧
      (∀ name, (d.upsert r).node? name =
        if r.isNode && r.name == name then some r else d.node? name) ∧
      ∀ name, (d.delete r).node? name =
        if r.isNode && r.name == name then none else d.node? name := by
  intro removed listed
  have counted : d.deletedCount r = removed := deletedCount_eq d r
  refine ⟨addresses_upsert d r, nodes_upsert d r, addresses_delete d r, nodes_delete d r,
    counted, ?_, address?_upsert d r, address?_delete d r, node?_upsert d r, node?_delete d r⟩
  rw [← counted]
  rfl

end ClusterDirectory.Directory
