import ClusterDirectory.Proofs.Directory.Lookup

/-!
# Changes that come again

Changes decide the look-ups of the keys that they concern, and leave all others as they were
(`address?_applyAll`, `node?_applyAll`). What was there before has no part in the first, so a row of
changes that was applied last may be applied again, and every look-up stays the same
(`applyAll_again`).
-/

namespace ClusterDirectory

namespace Directory

structure Agrees (d e : Directory) : Prop where
  address? : ∀ a, d.address? a = e.address? a
  node? : ∀ name, d.node? name = e.node? name
  counts : d.counts = e.counts

theorem Agrees.of_lookups {d e : Directory} (address? : ∀ a, d.address? a = e.address? a)
    (node? : ∀ name, d.node? name = e.node? name) : Agrees d e := by
  -- the counts are numbers of keys that are found
  have addresses : (d.counts.1 : ℕ∞) = e.counts.1 := by
    rw [← encard_addresses, ← encard_addresses]
    simp only [address?]
  have nodes : (d.counts.2 : ℕ∞) = e.counts.2 := by
    rw [← encard_nodes, ← encard_nodes]
    simp only [node?]
  exact ⟨address?, node?, Prod.ext (ENat.natCast_inj.1 addresses) (ENat.natCast_inj.1 nodes)⟩

def applyAll (d : Directory) (changes : List Change) : Directory := changes.foldl apply d

theorem applyAll_append (d : Directory) (cs ds : List Change) :
    d.applyAll (cs ++ ds) = (d.applyAll cs).applyAll ds := List.foldl_append

theorem applyAll_concat (d : Directory) (cs : List Change) (c : Change) :
    d.applyAll (cs ++ [c]) = (d.applyAll cs).apply c := List.foldl_concat ..

def found (concerns : Change → Bool) (changes : List Change) (old : Option Resource) :
    Option Resource :=
  (changes.filter concerns).getLast?.elim old Change.standing?

theorem found_concat (concerns : Change → Bool) (changes : List Change) (c : Change)
    (old : Option Resource) :
    found concerns (changes ++ [c]) old =
      if concerns c then c.standing? else found concerns changes old := by
  by_cases h : concerns c <;> simp [found, h]

theorem found_again (concerns : Change → Bool) (changes : List Change) (old : Option Resource) :
    found concerns changes (found concerns changes old) = found concerns changes old := by
  unfold found
  cases (changes.filter concerns).getLast? with
  | none => rfl
  | some c => rfl

theorem address?_applyAll (d : Directory) (changes : List Change) (a : Address) :
    (d.applyAll changes).address? a = found (·.lists a) changes (d.address? a) := by
  induction changes using List.reverseRecOn with
  | nil => rfl
  | append_singleton changes c ih => rw [applyAll_concat, address?_apply, found_concat, ih]

theorem node?_applyAll (d : Directory) (changes : List Change) (name : String) :
    (d.applyAll changes).node? name = found (·.names name) changes (d.node? name) := by
  induction changes using List.reverseRecOn with
  | nil => rfl
  | append_singleton changes c ih => rw [applyAll_concat, node?_apply, found_concat, ih]

theorem applyAll_again (d : Directory) (changes again : List Change) :
    Agrees (d.applyAll (changes ++ again ++ again)) (d.applyAll (changes ++ again)) := by
  rw [applyAll_append _ (changes ++ again), applyAll_append _ changes]
  apply Agrees.of_lookups
  · intro a
    rw [address?_applyAll, address?_applyAll, found_again]
  · intro name
    rw [node?_applyAll, node?_applyAll, found_again]

end Directory

end ClusterDirectory
