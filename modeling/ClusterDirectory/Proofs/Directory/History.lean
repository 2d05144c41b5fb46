import ClusterDirectory.Proofs.Directory.Lookup

/-!
# The last change decides

After any history of changes a look-up by address finds what the last change that lists the address
left there, and a look-up by name what the last change of a node of that name left
(`lookups_after_history`). No other change has a part in it.
-/

namespace ClusterDirectory

/-- What the last of the changes that concern a key leaves under it. -/
def Change.lastStanding? (concerns : Change → Bool) (history : List Change) : Option Resource :=
  (history.filter concerns).getLast?.bind Change.standing?

namespace Change

theorem lastStanding?_concat (concerns : Change → Bool) (history : List Change) (c : Change) :
    lastStanding? concerns (history ++ [c]) =
      if concerns c then c.standing? else lastStanding? concerns history := by
  by_cases h : concerns c <;> simp [lastStanding?, h]

theorem lastStanding?_some {concerns : Change → Bool} {history : List Change} {r : Resource}
    (h : lastStanding? concerns history = some r) :
    ∃ c ∈ history, concerns c ∧ c.resource = r := by
  obtain ⟨c, last, standing⟩ := Option.bind_eq_some_iff.1 h
  obtain ⟨member, concerned⟩ := List.mem_filter.1 (List.mem_of_getLast? last)
  exact ⟨c, member, concerned, (standing?_some standing).symm⟩

end Change

namespace Directory

def after (history : List Change) : Directory := history.foldl apply empty

theorem after_concat (history : List Change) (c : Change) :
    after (history ++ [c]) = (after history).apply c := List.foldl_concat ..

theorem address?_after (history : List Change) (a : Address) :
    (after history).address? a = Change.lastStanding? (·.lists a) history := by
  induction history using List.reverseRecOn with
  | nil => exact address?_empty a
  | append_singleton history c ih =>
      rw [after_concat, address?_apply, Change.lastStanding?_concat, ih]

theorem node?_after (history : List Change) (name : String) :
    (after history).node? name = Change.lastStanding? (·.names name) history := by
  induction history using List.reverseRecOn with
  | nil => exact node?_empty name
  | append_singleton history c ih =>
      rw [after_concat, node?_apply, Change.lastStanding?_concat, ih]

theorem lists_of_address?_after {history : List Change} {a : Address} {r : Resource}
    (found : (after history).address? a = some r) : a ∈ r.addresses := by
  rw [address?_after] at found
  obtain ⟨c, -, listed, rfl⟩ := Change.lastStanding?_some found
  simpa [Change.lists] using listed

theorem names_of_node?_after {history : List Change} {name : String} {r : Resource}
    (found : (after history).node? name = some r) : r.kind = .node ∧ r.name = name := by
  rw [node?_after] at found
  obtain ⟨c, -, named, rfl⟩ := Change.lastStanding?_some found
  simpa [Change.names, Resource.isNode] using named

theorem lookups_after_history (history : List Change) :
    (∀ a, (after history).address? a = Change.lastStanding? (·.lists a) history) ∧
    (∀ name, (after history).node? name = Change.lastStanding? (·.names name) history) ∧
    Set.encard {a | ((after history).address? a).isSome} = (after history).counts.1 ∧
    Set.encard {name | ((after history).node? name).isSome} = (after history).counts.2 ∧
    (∀ a r, (after history).address? a = some r → a ∈ r.addresses) ∧
    (∀ name r, (after history).node? name = some r → r.kind = .node ∧ r.name = name) :=
  ⟨address?_after history, node?_after history, encard_addresses _, encard_nodes _,
    fun _ _ => lists_of_address?_after, fun _ _ => names_of_node?_after⟩

end Directory

end ClusterDirectory
