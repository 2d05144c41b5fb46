import ClusterDirectory.Proofs.Json.Values
import ClusterDirectory.Proofs.Json.Whole
import ClusterDirectory.Json.Reader.Typed

namespace ClusterDirectory.Json

variable {α σ : Type}

def FitsIfWhole : JsonNumber → Prop
  | .whole n => Fits n
  | .real _ => True

/-- A value nests at most `room` deep, with its objects in order and its whole numbers in range. -/
structure Kept (room : Nat) (v : Json) : Prop where
  shallow : v.depth ≤ room
  ordered : v.Ordered
  numbers : v.AllNumbers FitsIfWhole

theorem Kept.list {room : Nat} {vs : List Json} (kept : ∀ v ∈ vs, Kept room v) :
    Kept (room + 1) (.list vs) where
  shallow := by
    rw [depth, Nat.add_le_add_iff_right, depthOfItems_le]
    intro v member
    exact (kept v member).shallow
  ordered := by
    rw [Ordered, orderedItems_iff]
    intro v member
    exact (kept v member).ordered
  numbers := by
    rw [AllNumbers, allNumbersInItems_iff]
    intro v member
    exact (kept v member).numbers

theorem Kept.object {room : Nat} {ms : List (String × Json)} (ascending : Ascending ms)
    (kept : ∀ m ∈ ms, Kept room m.2) : Kept (room + 1) (.object ms) where
  shallow := by
    rw [depth, Nat.add_le_add_iff_right, depthOfMembers_le]
    intro m member
    exact (kept m member).shallow
  ordered := by
    rw [Ordered, orderedMembers_iff]
    exact ⟨ascending, fun m member => (kept m member).ordered⟩
  numbers := by
    rw [AllNumbers, allNumbersInMembers_iff]
    intro m member
    exact (kept m member).numbers

theorem Kept.flat {room : Nat} {v : Json} (flat : v.depth = 0) (ordered : v.Ordered)
    (numbers : v.AllNumbers FitsIfWhole) : Kept room v :=
  ⟨flat ▸ Nat.zero_le room, ordered, numbers⟩

end ClusterDirectory.Json
