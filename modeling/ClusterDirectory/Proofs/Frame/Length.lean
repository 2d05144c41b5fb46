import ClusterDirectory.Frame
import Mathlib.Data.List.Induction
import Mathlib.Tactic.SplitIfs

/-!
# Lengths of frames

A length of `k` bytes is a number in `k` bytes, with a tag in the first of them that tells `k`. The
writer puts the tag on (`encodeLength_form`), the reader takes it off (`readLength_wide`), and
`readLength_encodeLength` shows that in front of any bytes the length comes back up to its low 35
bits, which are those that the longest form has room for.
-/

namespace ClusterDirectory.Frame

theorem byteAt_toNat (n k : Nat) : (byteAt n k).toNat = (n >>> (8 * k)) % 256 := by
  rw [byteAt, UInt8.toNat_ofNat']

def lowBytes (n : Nat) : (k : Nat) → List UInt8
  | 0 => []
  | k + 1 => byteAt n k :: lowBytes n k

theorem length_lowBytes (n k : Nat) : (lowBytes n k).length = k := by
  induction k with
  | zero => rfl
  | succ k ih => rw [lowBytes, List.length_cons, ih]

theorem number_concat (bs : List UInt8) (b : UInt8) :
    number (bs ++ [b]) = number bs * 256 + b.toNat := by
  rw [number, List.foldl_append]
  rfl

theorem number_cons (a : UInt8) (bs : List UInt8) :
    number (a :: bs) = a.toNat <<< (8 * bs.length) + number bs := by
  induction bs using List.reverseRecOn with
  | nil => simp [number]
  | append_singleton bs b ih =>
      rw [← List.cons_append, number_concat, number_concat, ih, List.length_append,
        List.length_singleton, Nat.mul_succ 8 bs.length, Nat.shiftLeft_add]
      omega

theorem number_lt (bs : List UInt8) : number bs < 1 <<< (8 * bs.length) := by
  induction bs using List.reverseRecOn with
  | nil => decide
  | append_singleton bs b ih =>
      have small := b.toNat_lt
      rw [number_concat, List.length_append, List.length_singleton, Nat.mul_succ 8 bs.length,
        Nat.shiftLeft_add]
      omega

theorem number_lowBytes (n k : Nat) : number (lowBytes n k) = n % 1 <<< (8 * k) := by
  induction k with
  | zero => exact (Nat.mod_one n).symm
  | succ k ih =>
      have more : 1 <<< (8 * (k + 1)) = 1 <<< (8 * k) * 256 := by
        rw [Nat.mul_succ 8 k, Nat.shiftLeft_add, Nat.shiftLeft_eq _ 8]
      rw [lowBytes, number_cons, length_lowBytes, ih, byteAt_toNat, more, Nat.mod_mul,
        Nat.shiftRight_eq_div_pow, Nat.shiftLeft_eq, Nat.shiftLeft_eq, Nat.one_mul, Nat.add_comm,
        Nat.mul_comm (_ % 256)]

theorem number_inj {as bs : List UInt8} (length : as.length = bs.length)
    (same : number as = number bs) : as = bs := by
  induction as using List.reverseRecOn generalizing bs with
  | nil => exact (List.length_eq_zero_iff.1 length.symm).symm
  | append_singleton as a ih =>
      cases bs using List.reverseRecOn with
      | nil => simp at length
      | append_singleton bs b =>
          rw [number_concat, number_concat] at same
          have small := a.toNat_lt
          have small' := b.toNat_lt
          have last : a = b := UInt8.toNat_inj.1 (by omega)
          rw [ih (by simpa using length) (by omega), last]

theorem lowBytes_number (bs : List UInt8) : lowBytes (number bs) bs.length = bs := by
  refine number_inj (length_lowBytes _ _) ?_
  rw [number_lowBytes, Nat.mod_eq_of_lt (number_lt bs)]

def width (a : UInt8) : Nat :=
  if a < 0x80 then 1 else if a < 0xC0 then 2 else if a < 0xE0 then 3 else if a < 0xF0 then 4 else 5

def leadTag : (k : Nat) → UInt8
  | 1 => 0
  | 2 => 0x80
  | 3 => 0xC0
  | 4 => 0xE0
  | _ => 0xF0

def leadMask : (k : Nat) → UInt8
  | 1 => 0x7F
  | 2 => 0x3F
  | 3 => 0x1F
  | 4 => 0x0F
  | _ => 0x07

/-- One more than the largest length of `k` bytes. -/
def limit (k : Nat) : Nat := ((leadMask k).toNat + 1) <<< (8 * (k - 1))

theorem limit_values : limit 1 = 0x80 ∧ limit 2 = 0x4000 ∧ limit 3 = 0x200000 ∧
    limit 4 = 0x10000000 ∧ limit 5 = 0x800000000 := by decide

/-- What the tag and the mask of a form do to a byte, of which the form keeps the masked bits. -/
structure Lead (k : Nat) (b : UInt8) : Prop where
  width : b ≤ leadMask k ∨ k = 5 → width (leadTag k ||| b) = k
  masked : (leadTag k ||| b) &&& leadMask k = b &&& leadMask k
  value : (b &&& leadMask k).toNat = b.toNat % ((leadMask k).toNat + 1)

theorem lead {j : Nat} (few : j ≤ 4) (b : UInt8) : Lead (j + 1) b := by
  have all : ∀ (i : Fin 5) (x : Fin 256),
      let k := i.val + 1
      let b := UInt8.ofFin x
      (b ≤ leadMask k ∨ k = 5 → width (leadTag k ||| b) = k) ∧
        (leadTag k ||| b) &&& leadMask k = b &&& leadMask k ∧
        (b &&& leadMask k).toNat = b.toNat % ((leadMask k).toNat + 1) := by decide +kernel
  obtain ⟨width, masked, value⟩ := all ⟨j, Nat.lt_succ_of_le few⟩ b.toFin
  exact ⟨width, masked, value⟩

theorem leadMask_dvd (k : Nat) : (leadMask k).toNat + 1 ∣ 256 := by
  unfold leadMask
  split <;> decide

theorem encodeLength_form (n : Nat) :
    ∃ j ≤ 4, (n < limit (j + 1) ∨ j = 4) ∧
      encodeLength n = (leadTag (j + 1) ||| byteAt n j) :: lowBytes n j := by
  obtain ⟨one, two, three, four, -⟩ := limit_values
  unfold encodeLength
  split_ifs with small small small small
  · exact ⟨0, by decide, .inl (one ▸ small), by simp [leadTag, lowBytes]⟩
  · exact ⟨1, by decide, .inl (two ▸ small), rfl⟩
  · exact ⟨2, by decide, .inl (three ▸ small), rfl⟩
  · exact ⟨3, by decide, .inl (four ▸ small), rfl⟩
  · exact ⟨4, by decide, .inr rfl, rfl⟩

theorem lead_one {a : UInt8} (small : a < 0x80) : a &&& 0x7F = a := by
  have all : ∀ x : Fin 256, UInt8.ofFin x < 0x80 → UInt8.ofFin x &&& 0x7F = UInt8.ofFin x := by
    decide +kernel
  exact all a.toFin small

theorem readLength_wide {a : UInt8} {s : List UInt8} (wide : width a ≤ s.length + 1) :
    readLength (a :: s) =
      .ok (number ((a &&& leadMask (width a)) :: s.take (width a - 1)), s.drop (width a - 1)) := by
  unfold width at wide ⊢
  split_ifs at wide ⊢ with one two three four
  · simp [readLength, one, leadMask, number, lead_one one]
  · rcases s with _ | ⟨b, s⟩
    · simp at wide
    · rw [readLength, if_neg one, if_pos two]
      rfl
  · rcases s with _ | ⟨b, _ | ⟨c, s⟩⟩
    iterate 2 simp at wide
    rw [readLength, if_neg one, if_neg two, if_pos three]
    rfl
  · rcases s with _ | ⟨b, _ | ⟨c, _ | ⟨d, s⟩⟩⟩
    iterate 3 simp at wide
    rw [readLength, if_neg one, if_neg two, if_neg three, if_pos four]
    rfl
  · rcases s with _ | ⟨b, _ | ⟨c, _ | ⟨d, _ | ⟨e, s⟩⟩⟩⟩
    iterate 4 simp at wide
    rw [readLength, if_neg one, if_neg two, if_neg three, if_neg four]
    rfl

theorem byteAt_le {n j : Nat} (small : n < limit (j + 1)) : byteAt n j ≤ leadMask (j + 1) := by
  rw [limit, Nat.add_sub_cancel, Nat.shiftLeft_eq] at small
  have high : n >>> (8 * j) < (leadMask (j + 1)).toNat + 1 := by
    rw [Nat.shiftRight_eq_div_pow]
    exact Nat.div_lt_of_lt_mul (Nat.mul_comm .. ▸ small)
  rw [UInt8.le_iff_toNat_le, byteAt_toNat]
  exact Nat.le_trans (Nat.mod_le _ _) (Nat.le_of_lt_succ high)

theorem number_masked {j : Nat} (few : j ≤ 4) (n : Nat) :
    number ((byteAt n j &&& leadMask (j + 1)) :: lowBytes n j) = n % limit (j + 1) := by
  have room : limit (j + 1) = 1 <<< (8 * j) * ((leadMask (j + 1)).toNat + 1) := by
    rw [limit, Nat.add_sub_cancel, Nat.shiftLeft_eq, Nat.shiftLeft_eq, Nat.one_mul, Nat.mul_comm]
  rw [number_cons, length_lowBytes, number_lowBytes, (lead few _).value, byteAt_toNat,
    Nat.mod_mod_of_dvd _ (leadMask_dvd _), room, Nat.mod_mul, Nat.shiftRight_eq_div_pow,
    Nat.shiftLeft_eq, Nat.shiftLeft_eq, Nat.one_mul, Nat.add_comm, Nat.mul_comm (_ % (_ + 1))]

theorem limit_le {j : Nat} (few : j ≤ 4) : limit (j + 1) ≤ 0x800000000 := by
  have all : ∀ i : Fin 5, limit (i.val + 1) ≤ 0x800000000 := by decide
  exact all ⟨j, Nat.lt_succ_of_le few⟩

theorem readLength_encodeLength (n : Nat) (t : List UInt8) :
    readLength (encodeLength n ++ t) = .ok (n % 0x800000000, t) := by
  obtain ⟨j, few, fits, form⟩ := encodeLength_form n
  obtain ⟨tagged, masked, -⟩ := lead few (byteAt n j)
  have width := tagged (fits.imp byteAt_le (congrArg Nat.succ))
  have bits : n % limit (j + 1) = n % 0x800000000 := by
    rcases fits with small | rfl
    · rw [Nat.mod_eq_of_lt small, Nat.mod_eq_of_lt (Nat.lt_of_lt_of_le small (limit_le few))]
    · rfl
  have wide : Frame.width (leadTag (j + 1) ||| byteAt n j) ≤ (lowBytes n j ++ t).length + 1 := by
    rw [width, List.length_append, length_lowBytes]
    omega
  rw [form, List.cons_append, readLength_wide wide, width, masked, Nat.add_sub_cancel,
    List.take_left' (length_lowBytes n j), List.drop_left' (length_lowBytes n j),
    number_masked few, bits]

end ClusterDirectory.Frame
