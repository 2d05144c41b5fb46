import ClusterDirectory.Proofs.Text.Digits
import ClusterDirectory.Proofs.Text.Utf8
import ClusterDirectory.Text.Percent

namespace ClusterDirectory.Text.Percent

/-- The characters stand for the bytes; a percent sign only ever begins an encoded byte. -/
inductive Spelling : List Char → List UInt8 → Prop
  | nil : Spelling [] []
  | encoded {a b : Char} {high low : Nat} {cs : List Char} {bs : List UInt8}
      (first : hexValue? a = some high) (second : hexValue? b = some low) (rest : Spelling cs bs) :
      Spelling ('%' :: a :: b :: cs) (UInt8.ofNat (high * 16 + low) :: bs)
  | itself {c : Char} {cs : List Char} {bs : List UInt8} (plain : c ≠ '%')
      (rest : Spelling cs bs) : Spelling (c :: cs) (String.utf8EncodeChar c ++ bs)

theorem decode_itself {c : Char} (plain : c ≠ '%') (cs : List Char) :
    decode (c :: cs) = String.utf8EncodeChar c ++ decode cs := by
  rw [decode]
  rintro a b r rfl
  exact absurd rfl plain

theorem decode_encoded {a b : Char} {high low : Nat} (first : hexValue? a = some high)
    (second : hexValue? b = some low) (cs : List Char) :
    decode ('%' :: a :: b :: cs) = UInt8.ofNat (high * 16 + low) :: decode cs := by
  rw [decode, first, second]

theorem decode_spelling {cs : List Char} {bs : List UInt8} (spelling : Spelling cs bs) :
    decode cs = bs := by
  induction spelling with
  | nil => rfl
  | encoded first second _ ih => rw [decode_encoded first second, ih]
  | itself plain _ ih => rw [decode_itself plain, ih]

theorem spelling_self {cs : List Char} (plain : ∀ c ∈ cs, c ≠ '%') :
    Spelling cs (Utf8.encode cs) := by
  induction cs with
  | nil => exact .nil
  | cons c cs ih =>
      rw [List.forall_mem_cons] at plain
      rw [Utf8.encode_cons]
      exact .itself plain.1 (ih plain.2)

theorem toNat_of_isUnreserved {b : UInt8} (unreserved : isUnreserved b = true) :
    (0x2D ≤ b.toNat ∧ b.toNat ≤ 0x7E) ∧
      b.toNat ≠ 0x2F ∧ b.toNat ≠ 0x3C ∧ b.toNat ≠ 0x3E ∧ b.toNat ≠ 0x3F ∧ b.toNat ≠ 0x60 := by
  simp only [isUnreserved, Bool.or_eq_true, Bool.and_eq_true, decide_eq_true_eq, beq_iff_eq,
    UInt8.le_iff_toNat_le, ← UInt8.toNat_inj] at unreserved
  simp at unreserved
  omega

theorem spelling_encode (bs : List UInt8) : Spelling (encode bs) bs := by
  induction bs with
  | nil => exact .nil
  | cons b bs ih =>
      have bound : b.toNat < 256 := b.toNat_lt
      rw [encode, List.flatMap_cons, ← encode, encodeByte]
      cases unreserved : isUnreserved b with
      | true =>
          obtain ⟨⟨above, below⟩, -⟩ := toNat_of_isUnreserved unreserved
          have valid : b.toNat.isValidChar := .inl (by omega)
          have alone : String.utf8EncodeChar (Char.ofNat b.toNat) = [b] := by
            rw [Utf8.encodeChar_ofNat valid, if_pos (by omega), UInt8.ofNat_toNat]
          have plain : Char.ofNat b.toNat ≠ '%' := by
            intro same
            have percent : String.utf8EncodeChar '%' = [0x25] := by decide
            rw [same, percent, List.singleton_inj] at alone
            rw [← alone] at above
            exact absurd above (by decide)
          rw [if_pos rfl, List.singleton_append, ← List.singleton_append (x := b), ← alone]
          exact .itself plain ih
      | false =>
          have value : UInt8.ofNat (b.toNat / 16 * 16 + b.toNat % 16) = b := by
            rw [Nat.div_add_mod', UInt8.ofNat_toNat]
          have encoded := Spelling.encoded (hexValue?_digitChar (show b.toNat / 16 < 16 by omega))
            (hexValue?_digitChar (show b.toNat % 16 < 16 by omega)) ih
          rw [value] at encoded
          exact encoded

end ClusterDirectory.Text.Percent
