import ClusterDirectory.Json.Value

namespace ClusterDirectory.Json

/-- To prove a property of every value, a list and an object may take it of their parts. -/
@[elab_as_elim]
theorem induct {motive : Json → Prop} (null : motive .null) (bool : ∀ b, motive (.bool b))
    (number : ∀ n, motive (.number n)) (text : ∀ s, motive (.text s))
    (list : ∀ items, (∀ v ∈ items, motive v) → motive (.list items))
    (object : ∀ members, (∀ m ∈ members, motive m.2) → motive (.object members))
    (v : Json) : motive v := by
  refine @Json.rec motive (fun items => ∀ v ∈ items, motive v)
    (fun members => ∀ m ∈ members, motive m.2) (fun m => motive m.2)
    null bool number text list object ?_ ?_ ?_ ?_ ?_ v
  · simp
  · exact fun v vs head tail => List.forall_mem_cons.2 ⟨head, tail⟩
  · simp
  · exact fun m ms head tail => List.forall_mem_cons.2 ⟨head, tail⟩
  · exact fun _ v held => held

theorem orderedItems_iff (items : List Json) : OrderedItems items ↔ ∀ v ∈ items, v.Ordered := by
  induction items with
  | nil => simp [OrderedItems]
  | cons v vs ih => rw [OrderedItems, ih, List.forall_mem_cons]

theorem orderedMembers_iff (members : List (String × Json)) :
    OrderedMembers members ↔ ∀ m ∈ members, m.2.Ordered := by
  induction members with
  | nil => simp [OrderedMembers]
  | cons m ms ih => rw [OrderedMembers, ih, List.forall_mem_cons]

theorem depthOfItems_le (items : List Json) (n : Nat) :
    depthOfItems items ≤ n ↔ ∀ v ∈ items, v.depth ≤ n := by
  induction items with
  | nil => simp [depthOfItems]
  | cons v vs ih => rw [depthOfItems, Nat.max_le, ih, List.forall_mem_cons]

theorem depthOfMembers_le (members : List (String × Json)) (n : Nat) :
    depthOfMembers members ≤ n ↔ ∀ m ∈ members, m.2.depth ≤ n := by
  induction members with
  | nil => simp [depthOfMembers]
  | cons m ms ih => rw [depthOfMembers, Nat.max_le, ih, List.forall_mem_cons]

mutual

def AllNumbers (p : JsonNumber → Prop) : Json → Prop
  | .number n => p n
  | .list items => AllNumbersInItems p items
  | .object members => AllNumbersInMembers p members
  | _ => True

def AllNumbersInItems (p : JsonNumber → Prop) : List Json → Prop
  | [] => True
  | v :: vs => AllNumbers p v ∧ AllNumbersInItems p vs

def AllNumbersInMembers (p : JsonNumber → Prop) : List (String × Json) → Prop
  | [] => True
  | m :: ms => AllNumbers p m.2 ∧ AllNumbersInMembers p ms

end

theorem allNumbersInItems_iff (p : JsonNumber → Prop) (items : List Json) :
    AllNumbersInItems p items ↔ ∀ v ∈ items, v.AllNumbers p := by
  induction items with
  | nil => simp [AllNumbersInItems]
  | cons v vs ih => rw [AllNumbersInItems, ih, List.forall_mem_cons]

theorem allNumbersInMembers_iff (p : JsonNumber → Prop) (members : List (String × Json)) :
    AllNumbersInMembers p members ↔ ∀ m ∈ members, m.2.AllNumbers p := by
  induction members with
  | nil => simp [AllNumbersInMembers]
  | cons m ms ih => rw [AllNumbersInMembers, ih, List.forall_mem_cons]

end ClusterDirectory.Json
