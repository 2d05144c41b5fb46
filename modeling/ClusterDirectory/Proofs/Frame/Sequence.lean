import ClusterDirectory.Proofs.Frame.Length

/-!
# Frames in a row

What a reader finds in a stream does not change when more bytes follow: a frame stays the same frame
(`next_append`), and so does a length that is too long (`next_append_tooLong`). So the frames that a
writer puts one after the other come back in order, in front of any bytes (`nextMany_encodeAll`),
and of a stream of frames that is cut somewhere those come back that lie wholly before the cut
(`readAll_cut`).
-/

namespace ClusterDirectory.Frame

theorem readLength_append {s t : List UInt8} {n : Nat} (h : readLength s = .ok (n, t))
    (more : List UInt8) : readLength (s ++ more) = .ok (n, t ++ more) := by
  unfold readLength at h
  repeat' split at h
  all_goals simp only [reduceCtorEq, Except.ok.injEq, Prod.mk.injEq] at h
  all_goals obtain ⟨rfl, rfl⟩ := h
  all_goals simp only [List.cons_append, readLength, if_true, if_false, *]

theorem readLength_stop {s : List UInt8} {stop : Stop} (h : readLength s = .error stop) :
    stop = ⟨.endsAtByte, []⟩ ∨ stop = ⟨.endsInBlock, []⟩ := by
  unfold readLength at h
  repeat' split at h
  all_goals simp only [reduceCtorEq, Except.error.injEq] at h
  all_goals simp [← h]

theorem next_ok_iff {s payload t : List UInt8} :
    next s = .ok (payload, t) ↔
      payload.length ≤ maxPayload ∧ readLength s = .ok (payload.length, payload ++ t) := by
  unfold next
  constructor
  · intro h
    split at h
    · simp at h
    · rename_i n r read
      split at h
      · simp at h
      · simp only [List.splitAt_eq] at h
        split at h
        · simp at h
        · cases h
          rw [List.length_take] at *
          have full : min n r.length = n := by omega
          rw [full, List.take_append_drop]
          exact ⟨by omega, read⟩
  · rintro ⟨bound, read⟩
    simp [read, Nat.not_lt.2 bound]

theorem next_append {s payload t : List UInt8} (h : next s = .ok (payload, t))
    (more : List UInt8) : next (s ++ more) = .ok (payload, t ++ more) := by
  obtain ⟨bound, read⟩ := next_ok_iff.1 h
  refine next_ok_iff.2 ⟨bound, ?_⟩
  rw [readLength_append read, List.append_assoc]

theorem next_stop {s : List UInt8} {stop : Stop} (h : next s = .error stop) :
    (∃ n t, stop = ⟨.tooLong n, t⟩ ∧ readLength s = .ok (n, t) ∧ maxPayload < n) ∨
      stop = ⟨.endsAtByte, []⟩ ∨ stop = ⟨.endsInBlock, []⟩ := by
  unfold next at h
  split at h
  · cases h
    exact .inr (readLength_stop ‹_›)
  · rename_i n t read
    split at h
    · rename_i long
      cases h
      exact .inl ⟨n, t, rfl, read, long⟩
    · simp only at h
      split at h
      · cases h
        exact .inr (.inr rfl)
      · simp at h

theorem next_append_tooLong {s t : List UInt8} {n : Nat} (h : next s = .error ⟨.tooLong n, t⟩)
    (more : List UInt8) : next (s ++ more) = .error ⟨.tooLong n, t ++ more⟩ := by
  rcases next_stop h with ⟨m, r, eq, read, long⟩ | eq | eq
  · cases eq
    simp [next, readLength_append read, long]
  all_goals cases eq

theorem next_encode {payload : List UInt8} (bound : payload.length ≤ maxPayload)
    (t : List UInt8) : next (encode payload ++ t) = .ok (payload, t) := by
  have small : payload.length % 0x800000000 = payload.length := by
    unfold maxPayload at bound
    omega
  refine next_ok_iff.2 ⟨bound, ?_⟩
  rw [encode, List.append_assoc, readLength_encodeLength, small]

def encodeAll (payloads : List (List UInt8)) : List UInt8 := (payloads.map encode).flatten

@[simp] theorem encodeAll_nil : encodeAll [] = [] := rfl

@[simp] theorem encodeAll_cons (p : List UInt8) (ps : List (List UInt8)) :
    encodeAll (p :: ps) = encode p ++ encodeAll ps := rfl

def nextMany : Nat → List UInt8 → Except Stop (List (List UInt8) × List UInt8)
  | 0, s => .ok ([], s)
  | n + 1, s =>
      match next s with
      | .error stop => .error stop
      | .ok (payload, t) =>
          match nextMany n t with
          | .error stop => .error stop
          | .ok (payloads, rest) => .ok (payload :: payloads, rest)

theorem nextMany_encodeAll {payloads : List (List UInt8)}
    (bounds : ∀ p ∈ payloads, p.length ≤ maxPayload) (tail : List UInt8) :
    nextMany payloads.length (encodeAll payloads ++ tail) = .ok (payloads, tail) := by
  induction payloads with
  | nil => rfl
  | cons p ps ih =>
      have rest := ih fun q member => bounds q (List.mem_cons_of_mem _ member)
      rw [List.length_cons, encodeAll_cons, List.append_assoc]
      simp only [nextMany, next_encode (bounds p List.mem_cons_self), rest]

theorem nextMany_long_empty :
    (∀ p ∈ [List.replicate 200 (0x61 : UInt8), []], p.length ≤ maxPayload) ∧
      nextMany 2 (encodeAll [List.replicate 200 0x61, []] ++ [0x80]) =
        .ok ([List.replicate 200 0x61, []], [0x80]) := by
  have bounds : ∀ p ∈ [List.replicate 200 (0x61 : UInt8), []], p.length ≤ maxPayload := by
    refine List.forall_mem_cons.2 ⟨?_, by decide⟩
    rw [List.length_replicate]
    decide
  exact ⟨bounds, nextMany_encodeAll bounds [0x80]⟩

theorem readAll_ok {s payload t : List UInt8} (h : next s = .ok (payload, t)) :
    readAll s = (payload :: (readAll t).1, (readAll t).2) := by
  rw [readAll]
  split
  · simp_all
  · rename_i found
    rw [h] at found
    cases found
    rfl

theorem readAll_error {s : List UInt8} {stop : Stop} (h : next s = .error stop) :
    readAll s = ([], stop) := by
  rw [readAll]
  split <;> simp_all

/-- The payloads of those frames that lie wholly in the first `cut` bytes. -/
def whole : List (List UInt8) → (cut : Nat) → List (List UInt8)
  | [], _ => []
  | p :: ps, cut =>
      if (encode p).length ≤ cut then p :: whole ps (cut - (encode p).length) else []

theorem next_cut {payload : List UInt8} (bound : payload.length ≤ maxPayload) {cut : Nat}
    (short : cut < (encode payload).length) :
    ∃ defect, next ((encode payload).take cut) = .error ⟨defect, []⟩ ∧
      ∀ n, defect ≠ .tooLong n := by
  have complete := next_encode bound []
  rw [List.append_nil] at complete
  have split := List.take_append_drop cut (encode payload)
  cases found : next ((encode payload).take cut) with
  | ok result =>
      obtain ⟨p, t⟩ := result
      have longer := next_append found ((encode payload).drop cut)
      rw [split, complete] at longer
      simp only [Except.ok.injEq, Prod.mk.injEq] at longer
      have empty := (List.append_eq_nil_iff.1 longer.2.symm).2
      rw [List.drop_eq_nil_iff] at empty
      omega
  | error stop =>
      rcases next_stop found with ⟨n, t, rfl, -, -⟩ | rfl | rfl
      · have longer := next_append_tooLong found ((encode payload).drop cut)
        rw [split, complete] at longer
        cases longer
      · exact ⟨_, rfl, fun _ => Defect.noConfusion⟩
      · exact ⟨_, rfl, fun _ => Defect.noConfusion⟩

theorem readAll_cut {payloads : List (List UInt8)}
    (bounds : ∀ p ∈ payloads, p.length ≤ maxPayload) (cut : Nat) :
    ∃ defect, readAll ((encodeAll payloads).take cut) = (whole payloads cut, ⟨defect, []⟩) ∧
      ∀ n, defect ≠ .tooLong n := by
  induction payloads generalizing cut with
  | nil =>
      refine ⟨.endsAtByte, ?_, fun _ => Defect.noConfusion⟩
      rw [encodeAll_nil, List.take_nil]
      exact readAll_error rfl
  | cons p ps ih =>
      have bound := bounds p List.mem_cons_self
      rw [encodeAll_cons, List.take_append]
      by_cases fits : (encode p).length ≤ cut
      · obtain ⟨defect, rest, early⟩ :=
          ih (fun q member => bounds q (List.mem_cons_of_mem _ member)) (cut - (encode p).length)
        refine ⟨defect, ?_, early⟩
        rw [List.take_of_length_le fits, readAll_ok (next_encode bound _), rest, whole, if_pos fits]
      · obtain ⟨defect, found, early⟩ := next_cut bound (Nat.lt_of_not_le fits)
        refine ⟨defect, ?_, early⟩
        rw [Nat.sub_eq_zero_of_le (Nat.le_of_not_le fits), List.take_zero, List.append_nil,
          readAll_error found, whole, if_neg fits]

end ClusterDirectory.Frame
