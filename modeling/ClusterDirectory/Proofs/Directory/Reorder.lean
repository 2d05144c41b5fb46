import ClusterDirectory.Proofs.Directory.Replay
import Mathlib.Data.Fin.VecNotation
import Mathlib.Data.List.FinRange
import Mathlib.Data.List.Sort
import Mathlib.Tactic.FinCases

/-!
# Changes in another order

Two changes conflict when they list a common address, or are of nodes of one name. All changes that
concern one key conflict with each other, so an order that keeps those in conflict as they were
keeps the changes to each key as they were (`Reordered.filter`), and these alone decide what is
found there (`applyAll_reordered`).
-/

namespace ClusterDirectory

def Change.Conflicts (c e : Change) : Prop :=
  (∃ a ∈ c.resource.addresses, a ∈ e.resource.addresses) ∨
    (c.resource.kind = .node ∧ e.resource.kind = .node ∧ c.resource.name = e.resource.name)

namespace Change

instance : DecidableRel Conflicts := fun _ _ => inferInstanceAs (Decidable (_ ∨ _))

theorem conflicts_of_lists {c e : Change} {a : Address} (first : c.lists a) (second : e.lists a) :
    c.Conflicts e := by
  simp only [lists, decide_eq_true_eq] at first second
  exact .inl ⟨a, first, second⟩

theorem conflicts_of_names {c e : Change} {name : String} (first : c.names name)
    (second : e.names name) : c.Conflicts e := by
  simp only [names, Resource.isNode, Bool.and_eq_true, beq_iff_eq] at first second
  exact .inr ⟨first.1, second.1, first.2.trans second.2.symm⟩

end Change

/-- The changes `es` are `cs` in another order, in which those that conflict stay in their order. -/
def Reordered (cs es : List Change) : Prop :=
  ∃ place : Fin cs.length ≃ Fin es.length, (∀ i, es[place i] = cs[i]) ∧
    ∀ i j, i < j → cs[i].Conflicts cs[j] → place i < place j

theorem filter_eq_map_places {α : Type} (xs : List α) (p : α → Bool) :
    xs.filter p = ((List.finRange xs.length).filter fun i => p xs[i]).map (xs[·]) := by
  conv_lhs => rw [← List.map_getElem_finRange xs]
  rw [List.filter_map]
  rfl

theorem Reordered.filter {cs es : List Change} (reordered : Reordered cs es)
    {concerns : Change → Bool}
    (conflicts : ∀ c e, concerns c → concerns e → c.Conflicts e) :
    es.filter concerns = cs.filter concerns := by
  obtain ⟨place, same, ordered⟩ := reordered
  -- both lists of places are ascending, and they have the same members
  have places : ((List.finRange cs.length).filter fun i => concerns cs[i]).map place =
      (List.finRange es.length).filter fun i => concerns es[i] := by
    have ascending : (((List.finRange cs.length).filter fun i => concerns cs[i]).map place).Pairwise
        (· < ·) := by
      rw [List.pairwise_map]
      refine ((List.pairwise_lt_finRange _).filter _).imp_of_mem ?_
      intro i j first second lt
      exact ordered i j lt
        (conflicts _ _ (List.mem_filter.1 first).2 (List.mem_filter.1 second).2)
    have others := (List.pairwise_lt_finRange es.length).filter fun i => concerns es[i]
    apply List.Perm.eq_of_pairwise (fun _ _ _ _ lt gt => absurd gt (lt_asymm lt)) ascending others
    rw [List.perm_ext_iff_of_nodup ascending.nodup others.nodup]
    intro k
    simp only [List.mem_map, List.mem_filter, List.mem_finRange, true_and]
    constructor
    · rintro ⟨i, concerned, rfl⟩
      rwa [same]
    · intro concerned
      obtain ⟨i, rfl⟩ := place.surjective k
      rw [same] at concerned
      exact ⟨i, concerned, rfl⟩
  rw [filter_eq_map_places es, filter_eq_map_places cs, ← places, List.map_map]
  exact List.map_congr_left fun i _ => same i

namespace Directory

theorem applyAll_reordered (d : Directory) {cs es : List Change} (reordered : Reordered cs es) :
    Agrees (d.applyAll es) (d.applyAll cs) := by
  apply Agrees.of_lookups
  · intro a
    rw [address?_applyAll, address?_applyAll, found, found,
      reordered.filter fun _ _ => Change.conflicts_of_lists]
  · intro name
    rw [node?_applyAll, node?_applyAll, found, found,
      reordered.filter fun _ _ => Change.conflicts_of_names]

def handover : List Change := [
  ⟨.add, { kind := .node, name := "n", addresses := [.v4 10 0 0 1] }⟩,
  ⟨.delete, { kind := .node, name := "n", addresses := [.v4 10 0 0 1] }⟩,
  ⟨.add, { kind := .service, name := "n", addresses := [.v4 10 0 0 3] }⟩,
  ⟨.update, { kind := .pod, name := "p", addresses := [.v4 10 0 0 2, .v4 10 0 0 1] }⟩]

def serviceFirst : List Change := [
  ⟨.add, { kind := .service, name := "n", addresses := [.v4 10 0 0 3] }⟩,
  ⟨.add, { kind := .node, name := "n", addresses := [.v4 10 0 0 1] }⟩,
  ⟨.delete, { kind := .node, name := "n", addresses := [.v4 10 0 0 1] }⟩,
  ⟨.update, { kind := .pod, name := "p", addresses := [.v4 10 0 0 2, .v4 10 0 0 1] }⟩]

theorem applyAll_reordered_handover :
    Reordered handover serviceFirst ∧
      Agrees (empty.applyAll serviceFirst) (empty.applyAll handover) := by
  have reordered : Reordered handover serviceFirst := by
    let place : Fin 4 ≃ Fin 4 := ⟨![1, 2, 0, 3], ![2, 0, 1, 3], by decide, by decide⟩
    refine ⟨place, ?_, by decide⟩
    rintro (i : Fin 4)
    fin_cases i <;> rfl
  exact ⟨reordered, applyAll_reordered empty reordered⟩

end Directory

end ClusterDirectory
