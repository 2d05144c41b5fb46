import ClusterDirectory.Proofs.Directory.History
import Mathlib.Logic.Function.Basic

/-!
# The directory and a store of resources

A store keeps the latest resource of each kind and name, and forgets it when it is deleted. The
directory knows nothing of what a resource was before, so it follows the store only where every
change lists all addresses that its resource has had until then, and none that another resource has
(`Store.Admits`). Where all changes are such, a look-up finds what is in the store and nothing else
(`follows_store`).
-/

namespace ClusterDirectory

structure ResourceKey where
  kind : Kind
  name : String
  deriving DecidableEq

def Resource.key (r : Resource) : ResourceKey := ⟨r.kind, r.name⟩

abbrev Store := ResourceKey → Option Resource

namespace Store

def empty : Store := fun _ => none

def apply (s : Store) (c : Change) : Store := Function.update s c.resource.key c.standing?

def after (history : List Change) : Store := history.foldl apply empty

/-- A change whose resource gives up no address, and takes none from another resource. -/
structure Admits (s : Store) (c : Change) : Prop where
  keeps : ∀ r, s c.resource.key = some r → ∀ a ∈ r.addresses, a ∈ c.resource.addresses
  apart : ∀ k, k ≠ c.resource.key → ∀ r, s k = some r →
    ∀ a ∈ c.resource.addresses, a ∉ r.addresses

def Disciplined (history : List Change) : Prop :=
  ∀ past c, past ++ [c] <+: history → (after past).Admits c

theorem after_concat (history : List Change) (c : Change) :
    after (history ++ [c]) = (after history).apply c := List.foldl_concat ..

theorem Disciplined.of_prefix {history past : List Change} (disciplined : Disciplined history)
    (first : past <+: history) : Disciplined past :=
  fun before c earlier => disciplined before c (earlier.trans first)

theorem disciplined_nil : Disciplined [] := by
  intro past c first
  simp at first

theorem disciplined_concat {history : List Change} {c : Change} (disciplined : Disciplined history)
    (admits : (after history).Admits c) : Disciplined (history ++ [c]) := by
  intro past e first
  rcases List.prefix_concat_iff.1 first with all | earlier
  · obtain ⟨rfl, same⟩ := List.append_inj' all rfl
    cases same
    exact admits
  · exact disciplined past e earlier

end Store

namespace Directory

/-- What is found by address is what the store has with that address, and what is found by name is
the node that the store has under that name. -/
structure Follows (d : Directory) (s : Store) : Prop where
  filed : ∀ k r, s k = some r → r.key = k
  addresses : ∀ a r, d.address? a = some r ↔ ∃ k, s k = some r ∧ a ∈ r.addresses
  nodes : ∀ name, d.node? name = s ⟨.node, name⟩

theorem Follows.empty : Follows empty Store.empty where
  filed _ _ none := by cases none
  addresses a r := by simp [Store.empty]
  nodes name := by simp [Store.empty]

theorem names_iff (c : Change) (name : String) :
    c.names name = true ↔ (⟨.node, name⟩ : ResourceKey) = c.resource.key := by
  simp only [Change.names, Resource.isNode, Resource.key, Bool.and_eq_true, beq_iff_eq,
    ResourceKey.mk.injEq]
  exact and_congr eq_comm eq_comm

theorem Follows.apply {d : Directory} {s : Store} (follows : Follows d s) {c : Change}
    (admits : s.Admits c) : Follows (d.apply c) (s.apply c) where
  filed k r held := by
    by_cases same : k = c.resource.key
    · subst same
      rw [Store.apply, Function.update_self] at held
      rw [Change.standing?_some held]
    · rw [Store.apply, Function.update_of_ne same] at held
      exact follows.filed k r held
  addresses a r := by
    rw [address?_apply]
    by_cases listed : a ∈ c.resource.addresses
    · -- no other resource has the address, so only the one that changes can be found there
      rw [if_pos (by simpa [Change.lists] using listed)]
      constructor
      · intro standing
        refine ⟨c.resource.key, ?_, ?_⟩
        · rw [Store.apply, Function.update_self, standing]
        · rw [Change.standing?_some standing]
          exact listed
      · rintro ⟨k, held, has⟩
        by_cases same : k = c.resource.key
        · subst same
          rwa [Store.apply, Function.update_self] at held
        · rw [Store.apply, Function.update_of_ne same] at held
          exact absurd has (admits.apart k same r held a listed)
    · -- the resource had no such address before, so what is found there is another one
      rw [if_neg (by simpa [Change.lists] using listed), follows.addresses]
      constructor
      · rintro ⟨k, held, has⟩
        have other : k ≠ c.resource.key := by
          rintro rfl
          exact listed (admits.keeps r held a has)
        exact ⟨k, by rwa [Store.apply, Function.update_of_ne other], has⟩
      · rintro ⟨k, held, has⟩
        by_cases same : k = c.resource.key
        · subst same
          rw [Store.apply, Function.update_self] at held
          exact absurd (Change.standing?_some held ▸ has) listed
        · rw [Store.apply, Function.update_of_ne same] at held
          exact ⟨k, held, has⟩
  nodes name := by
    rw [node?_apply, Store.apply, Function.update_apply, follows.nodes]
    simp only [names_iff]

theorem Follows.after {history : List Change} (disciplined : Store.Disciplined history) :
    Follows (after history) (Store.after history) := by
  induction history using List.reverseRecOn with
  | nil => exact Follows.empty
  | append_singleton history c ih =>
      rw [after_concat, Store.after_concat]
      have admits := disciplined history c (List.prefix_refl _)
      exact (ih (disciplined.of_prefix (List.prefix_append _ _))).apply admits

theorem follows_store {history past : List Change} (disciplined : Store.Disciplined history)
    (first : past <+: history) :
    (∀ a r, (after past).address? a = some r ↔
        ∃ k, Store.after past k = some r ∧ a ∈ r.addresses) ∧
      (∀ name, (after past).node? name = Store.after past ⟨.node, name⟩) ∧
      (∀ a r, (after past).address? a = some r → Store.after past r.key = some r) ∧
      ∀ name r, (after past).node? name = some r →
        ∀ a ∈ r.addresses, (after past).address? a = some r := by
  have follows := Follows.after (disciplined.of_prefix first)
  refine ⟨follows.addresses, follows.nodes, ?_, ?_⟩
  · intro a r found
    obtain ⟨k, held, -⟩ := (follows.addresses a r).1 found
    rwa [follows.filed k r held]
  · intro name r found a has
    rw [follows.nodes] at found
    exact (follows.addresses a r).2 ⟨_, found, has⟩

def growing : List Change := [
  ⟨.add, { kind := .node, name := "n", addresses := [.v4 10 0 0 1] }⟩,
  ⟨.add, { kind := .service, name := "n", addresses := [.v4 10 0 0 2, .v4 10 0 0 2] }⟩,
  ⟨.update, { kind := .node, name := "n", addresses := [.v4 10 0 0 3, .v4 10 0 0 1] }⟩,
  ⟨.delete, { kind := .node, name := "n", addresses := [.v4 10 0 0 1, .v4 10 0 0 3] }⟩]

theorem disciplined_growing : Store.Disciplined growing := by
  have grow {past : List Change} {c : Change} (held : Store.Disciplined past)
      (admits : (Store.after past).Admits c) := Store.disciplined_concat held admits
  refine grow (grow (grow (grow Store.disciplined_nil ⟨?_, ?_⟩) ⟨?_, ?_⟩) ⟨?_, ?_⟩) ⟨?_, ?_⟩
  all_goals
    simp +contextual [Store.after, Store.apply, Store.empty, Resource.key, Function.update_apply,
      Change.standing?, ite_eq_iff]

theorem follows_store_growing :
    Store.Disciplined growing ∧ growing.take 3 <+: growing ∧
      (∀ a r, (after (growing.take 3)).address? a = some r ↔
        ∃ k, Store.after (growing.take 3) k = some r ∧ a ∈ r.addresses) ∧
      ∀ name, (after (growing.take 3)).node? name = Store.after (growing.take 3) ⟨.node, name⟩ :=
  have first := List.take_prefix 3 growing
  have follows := follows_store disciplined_growing first
  ⟨disciplined_growing, first, follows.1, follows.2.1⟩

end Directory

end ClusterDirectory
