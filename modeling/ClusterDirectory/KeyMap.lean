/-!
Maps from texts, listed by key in ascending order, each key once.

`insert` replaces what its key had. The order of the listing is part of the type, so that two maps
with the same members are equal.
-/

namespace ClusterDirectory

variable {α : Type}

def insertMember (k : String) (v : α) : List (String × α) → List (String × α)
  | [] => [(k, v)]
  | m :: ms =>
      if k < m.1 then (k, v) :: m :: ms
      else if k = m.1 then (k, v) :: ms
      else m :: insertMember k v ms

def Ascending (ms : List (String × α)) : Prop := ms.Pairwise fun a b => a.1 < b.1

theorem mem_insertMember {k : String} {v : α} {ms : List (String × α)} {m : String × α}
    (member : m ∈ insertMember k v ms) : m = (k, v) ∨ m ∈ ms := by
  induction ms with
  | nil => simpa [insertMember] using member
  | cons n ns ih =>
      rw [insertMember] at member
      split at member
      · simpa using member
      · split at member
        · rcases List.mem_cons.1 member with h | h
          · exact .inl h
          · exact .inr (List.mem_cons_of_mem _ h)
        · rcases List.mem_cons.1 member with h | h
          · exact .inr (h ▸ List.mem_cons_self)
          · exact (ih h).imp_right (List.mem_cons_of_mem _)

theorem ascending_insertMember (k : String) (v : α) {ms : List (String × α)}
    (ordered : Ascending ms) : Ascending (insertMember k v ms) := by
  induction ms with
  | nil => simp [insertMember, Ascending]
  | cons n ns ih =>
      obtain ⟨head, tail⟩ := List.pairwise_cons.1 ordered
      rw [insertMember]
      split
      · rename_i lt
        refine List.pairwise_cons.2 ⟨fun m member => ?_, ordered⟩
        rcases List.mem_cons.1 member with rfl | h
        · exact lt
        · exact String.lt_trans lt (head m h)
      · rename_i notLt
        split
        · rename_i eq
          exact List.pairwise_cons.2 ⟨fun m h => eq ▸ head m h, tail⟩
        · rename_i ne
          refine List.pairwise_cons.2 ⟨fun m member => ?_, ih tail⟩
          rcases mem_insertMember member with rfl | h
          · refine Decidable.byContradiction fun notGt => ne ?_
            exact String.le_antisymm (String.not_lt.1 notGt) (String.not_lt.1 notLt)
          · exact head m h

structure KeyMap (α : Type) where
  members : List (String × α) := []
  ascending : Ascending members := by exact List.Pairwise.nil

namespace KeyMap

def empty : KeyMap α := {}

def insert (m : KeyMap α) (k : String) (v : α) : KeyMap α :=
  ⟨insertMember k v m.members, ascending_insertMember k v m.ascending⟩

def size (m : KeyMap α) : Nat := m.members.length

@[ext] theorem ext {m n : KeyMap α} (h : m.members = n.members) : m = n := by
  cases m; cases n; cases h; rfl

instance : Inhabited (KeyMap α) := ⟨empty⟩

instance [BEq α] : BEq (KeyMap α) := ⟨fun m n => m.members == n.members⟩

instance [DecidableEq α] : DecidableEq (KeyMap α) := fun m n =>
  decidable_of_iff (m.members = n.members) ⟨ext, fun h => h ▸ rfl⟩

end KeyMap

end ClusterDirectory
