import ClusterDirectory.Proofs.Frame.Segments

namespace ClusterDirectory.Frame

theorem length_encodeLength_le {n k : Nat} (some : 1 ≤ k) (small : n < limit k) :
    (encodeLength n).length ≤ k := by
  obtain ⟨one, two, three, four, -⟩ := limit_values
  obtain rfl | rfl | rfl | rfl | most : k = 1 ∨ k = 2 ∨ k = 3 ∨ k = 4 ∨ 5 ≤ k := by omega
  all_goals
    unfold encodeLength
    split_ifs <;> simp only [List.length_cons, List.length_nil] <;> omega

theorem lead_restored (a : UInt8) :
    leadTag (width a) ||| (a &&& leadMask (width a)) = a ↔ a < 0xF8 := by
  have all : ∀ x : Fin 256, leadTag (width (UInt8.ofFin x)) |||
      (UInt8.ofFin x &&& leadMask (width (UInt8.ofFin x))) = UInt8.ofFin x ↔
        UInt8.ofFin x < 0xF8 := by decide +kernel
  exact all a.toFin

theorem width_of_high {a : UInt8} (high : 0xF8 ≤ a) : width a = 5 := by
  have all : ∀ x : Fin 256, 0xF8 ≤ UInt8.ofFin x → width (UInt8.ofFin x) = 5 := by decide +kernel
  exact all a.toFin high

namespace Announces

variable {n : Nat}

theorem value {a : UInt8} {bs : List UInt8} (h : Announces (a :: bs) n) :
    bs.length + 1 = width a ∧ n = number ((a &&& leadMask (width a)) :: bs) := by
  obtain ⟨wide, nothing⟩ := width_le_of_readLength h
  have short := List.drop_eq_nil_iff.1 nothing.symm
  have bounds := width_bounds a
  have read := readLength_wide wide
  rw [List.take_of_length_le short, ← nothing] at read
  rw [Announces, read] at h
  cases h
  exact ⟨by omega, rfl⟩

theorem lt_limit {header : List UInt8} (h : Announces header n) : n < limit header.length := by
  cases header with
  | nil => cases h
  | cons a bs =>
      obtain ⟨full, rfl⟩ := h.value
      have low := number_lt bs
      have masked : (a &&& leadMask (width a)).toNat ≤ (leadMask (width a)).toNat := by
        rw [UInt8.toNat_and]
        exact Nat.and_le_right
      rw [limit, List.length_cons, Nat.add_sub_cancel, full, number_cons]
      simp only [Nat.shiftLeft_eq, Nat.one_mul] at low ⊢
      calc (a &&& leadMask (width a)).toNat * 2 ^ (8 * bs.length) + number bs
          < ((a &&& leadMask (width a)).toNat + 1) * 2 ^ (8 * bs.length) := by
            rw [Nat.add_mul, Nat.one_mul]
            exact Nat.add_lt_add_left low _
        _ ≤ ((leadMask (width a)).toNat + 1) * 2 ^ (8 * bs.length) :=
            Nat.mul_le_mul_right _ (Nat.succ_le_succ masked)

theorem lt {header : List UInt8} (h : Announces header n) : n < 0x800000000 := by
  obtain ⟨least, most⟩ := h.length
  obtain ⟨j, size⟩ : ∃ j, header.length = j + 1 := ⟨header.length - 1, by omega⟩
  have below := h.lt_limit
  rw [size] at below
  exact Nat.lt_of_lt_of_le below (limit_le (by omega))

theorem restored_iff {a : UInt8} {bs : List UInt8} (h : Announces (a :: bs) n) :
    encodeLength n = a :: bs ↔
      (encodeLength n).length = bs.length + 1 ∧ (bs.length + 1 < 5 ∨ a < 0xF8) := by
  obtain ⟨full, value⟩ := h.value
  obtain ⟨j, -, -, form⟩ := encodeLength_form n
  have of_same_width (same : (encodeLength n).length = bs.length + 1) :
      encodeLength n = a :: bs ↔ a < 0xF8 := by
    rw [form, List.length_cons, length_lowBytes] at same
    obtain rfl : j = bs.length := Nat.succ.inj same
    have bytes : lowBytes n (bs.length + 1) = (a &&& leadMask (width a)) :: bs := by
      rw [value]
      exact lowBytes_number ((a &&& leadMask (width a)) :: bs)
    obtain ⟨lead, low⟩ := List.cons.inj bytes
    rw [form, lead, low, full, List.cons.injEq, lead_restored]
    exact and_iff_left rfl
  constructor
  · intro restored
    have same := congrArg List.length restored
    exact ⟨same, .inr ((of_same_width same).1 restored)⟩
  · rintro ⟨same, short | below⟩
    · refine (of_same_width same).2 (UInt8.not_le.1 fun high => ?_)
      have five := width_of_high high
      omega
    · exact (of_same_width same).2 below

end Announces

/-- Of the forms in which a length can be read, the one that is written has the fewest bytes. No
other of its width is read as that length, but for the bit that the longest form leaves out. -/
theorem encodeLength_shortest {s t : List UInt8} {n : Nat} (read : readLength s = .ok (n, t)) :
    let k := s.length - t.length
    s = s.take k ++ t ∧ n < 0x800000000 ∧ (encodeLength n).length ≤ k ∧
      (encodeLength n = s.take k ↔
        (encodeLength n).length = k ∧ (k < 5 ∨ ∃ a ∈ s.head?, a < 0xF8)) ∧
      readLength (encodeLength n ++ t) = .ok (n, t) := by
  obtain ⟨header, announces, rfl⟩ := readLength_ok_iff.1 read
  intro k
  have consumed : k = header.length := by
    simp only [k, List.length_append, Nat.add_sub_cancel]
  have below := announces.lt
  rw [consumed, List.take_left]
  refine ⟨rfl, below, ?_, ?_, ?_⟩
  · exact length_encodeLength_le announces.length.1 announces.lt_limit
  · cases header with
    | nil => cases announces
    | cons a bs => simpa using announces.restored_iff
  · rw [readLength_encodeLength, Nat.mod_eq_of_lt below]

theorem encodeLength_shortest_unread_bit :
    readLength [0xFA, 0, 0, 0, 1, 9] = .ok (0x200000001, [9]) ∧
      (encodeLength 0x200000001).length = 5 ∧ encodeLength 0x200000001 ≠ [0xFA, 0, 0, 0, 1] := by
  have read : readLength [0xFA, 0, 0, 0, 1, 9] = .ok (0x200000001, [9]) := by decide
  obtain ⟨-, -, -, same, -⟩ := encodeLength_shortest read
  refine ⟨read, by decide, fun restored => ?_⟩
  obtain ⟨-, short | ⟨a, first, low⟩⟩ := same.1 restored
  · exact absurd short (by decide)
  · cases first
    exact absurd low (by decide)

end ClusterDirectory.Frame
