import ClusterDirectory.Proofs.Frame.Sequence

/-!
# Lengths that are too long for their form

The longest form of a length has room for 35 bits, and the writer drops the higher ones without a
word. So the reader is told of the low bits alone (`next_encodeLength`): of the lengths past the
limit it refuses those whose low bits are past it too, and takes the others for shorter frames
(`lengths_wrap`).
-/

namespace ClusterDirectory.Frame

theorem next_encodeLength (n : Nat) (t : List UInt8) :
    next (encodeLength n ++ t) =
      if maxPayload < n % 0x800000000 then .error ⟨.tooLong (n % 0x800000000), t⟩
      else if t.length < n % 0x800000000 then .error ⟨.endsInBlock, []⟩
      else .ok (t.take (n % 0x800000000), t.drop (n % 0x800000000)) := by
  simp only [next, readLength_encodeLength, List.splitAt_eq, List.length_take]
  generalize n % 0x800000000 = m
  have short : min m t.length < m ↔ t.length < m := by omega
  simp only [short]

def Refused (s : List UInt8) : Prop := ∃ n t, next s = .error ⟨.tooLong n, t⟩

theorem refused_encodeLength {n : Nat} {t : List UInt8} :
    Refused (encodeLength n ++ t) ↔ maxPayload < n % 0x800000000 := by
  rw [Refused, next_encodeLength]
  constructor
  · rintro ⟨m, r, stop⟩
    split at stop
    · assumption
    · split at stop <;> cases stop
  · intro long
    exact ⟨_, _, if_pos long⟩

theorem next_encodeLength_ok {n : Nat} {payload t : List UInt8} :
    next (encodeLength n ++ (payload ++ t)) = .ok (payload, t) ↔
      payload.length = n % 0x800000000 ∧ n % 0x800000000 ≤ maxPayload := by
  rw [next_ok_iff, readLength_encodeLength]
  simp only [Except.ok.injEq, Prod.mk.injEq, and_true]
  constructor
  · rintro ⟨bound, length⟩
    exact ⟨length.symm, length ▸ bound⟩
  · rintro ⟨length, bound⟩
    exact ⟨length ▸ bound, length.symm⟩

/-- Any length is announced by its low 35 bits, in front of any bytes. It comes back if it has no
others, and is refused if they are past the limit. A length past the limit is taken for that of a
shorter frame when it has higher bits and the low ones are within the limit, and only then. -/
theorem lengths_wrap (n : Nat) (t : List UInt8) :
    readLength (encodeLength n ++ t) = .ok (n % 0x800000000, t) ∧
      (readLength (encodeLength n ++ t) = .ok (n, t) ↔ n < 0x800000000) ∧
      (¬ Refused (encodeLength n ++ t) ↔ n % 0x800000000 ≤ maxPayload) ∧
      (∀ payload, next (encodeLength n ++ (payload ++ t)) = .ok (payload, t) ↔
        payload.length = n % 0x800000000 ∧ n % 0x800000000 ≤ maxPayload) ∧
      ((maxPayload < n ∧ ¬ Refused (encodeLength n ++ t)) ↔
        0x800000000 ≤ n ∧ n % 0x800000000 ≤ maxPayload) ∧
      ((∃ payload, payload.length < n ∧
          next (encodeLength n ++ (payload ++ t)) = .ok (payload, t)) ↔
        0x800000000 ≤ n ∧ n % 0x800000000 ≤ maxPayload) := by
  have limit : maxPayload < 0x800000000 := by decide
  have read := readLength_encodeLength n t
  have admitted : ¬ Refused (encodeLength n ++ t) ↔ n % 0x800000000 ≤ maxPayload := by
    rw [refused_encodeLength, Nat.not_lt]
  refine ⟨read, ?_, admitted, fun payload => next_encodeLength_ok, ?_, ?_⟩
  · simp only [read, Except.ok.injEq, Prod.mk.injEq, and_true]
    omega
  · rw [admitted]
    omega
  · constructor
    · rintro ⟨payload, shorter, found⟩
      obtain ⟨length, bound⟩ := next_encodeLength_ok.1 found
      exact ⟨by omega, bound⟩
    · rintro ⟨long, bound⟩
      have length := List.length_replicate (n := n % 0x800000000) (a := (0 : UInt8))
      refine ⟨List.replicate (n % 0x800000000) 0, ?_, next_encodeLength_ok.2 ⟨length, bound⟩⟩
      rw [length]
      omega

/-- Two more than the lengths there are forms for, taken for two. -/
example : next (encodeLength 0x800000002 ++ [1, 2, 3]) = .ok ([1, 2], [3]) := by cbv

end ClusterDirectory.Frame
