import ClusterDirectory.Proofs.Frame.Sequence
import Mathlib.Tactic.SplitIfs

/-!
# The parts of a stream

The first byte of a length tells how wide it is (`width`), and a length is read exactly when that
many bytes are there. So any bytes are frames, each a length and its payload, and a rest of which no
frame can be read (`readAll_segments`): no byte is lost, and none belongs to two parts.
-/

namespace ClusterDirectory.Frame

theorem width_bounds (a : UInt8) : 1 ≤ width a ∧ width a ≤ 5 := by
  unfold width
  split_ifs <;> decide

theorem readLength_short {a : UInt8} {s : List UInt8} (short : s.length + 1 < width a) :
    ∃ stop, readLength (a :: s) = .error stop := by
  rcases s with _ | ⟨b, _ | ⟨c, _ | ⟨d, _ | ⟨e, s⟩⟩⟩⟩ <;> grind [width, readLength]

theorem width_le_of_readLength {a : UInt8} {s t : List UInt8} {n : Nat}
    (h : readLength (a :: s) = .ok (n, t)) : width a ≤ s.length + 1 ∧ t = s.drop (width a - 1) := by
  have wide : width a ≤ s.length + 1 := by
    refine Nat.not_lt.1 fun short => ?_
    obtain ⟨stop, failed⟩ := readLength_short short
    rw [h] at failed
    cases failed
  rw [readLength_wide wide] at h
  cases h
  exact ⟨wide, rfl⟩

def Announces (header : List UInt8) (n : Nat) : Prop := readLength header = .ok (n, [])

theorem Announces.length {header : List UInt8} {n : Nat} (h : Announces header n) :
    1 ≤ header.length ∧ header.length ≤ 5 := by
  cases header with
  | nil => cases h
  | cons a block =>
      obtain ⟨-, nothing⟩ := width_le_of_readLength h
      have short := List.drop_eq_nil_iff.1 nothing.symm
      have bounds := width_bounds a
      rw [List.length_cons]
      omega

theorem Announces.read {header : List UInt8} {n : Nat} (h : Announces header n) (t : List UInt8) :
    readLength (header ++ t) = .ok (n, t) := readLength_append h t

theorem readLength_ok_iff {s t : List UInt8} {n : Nat} :
    readLength s = .ok (n, t) ↔ ∃ header, Announces header n ∧ s = header ++ t := by
  constructor
  · intro h
    cases s with
    | nil => cases h
    | cons a s =>
        obtain ⟨wide, rfl⟩ := width_le_of_readLength h
        have whole : width a ≤ (s.take (width a - 1)).length + 1 := by
          rw [List.length_take]
          omega
        have first := readLength_wide whole
        rw [List.drop_eq_nil_of_le (List.length_take_le ..)] at first
        have longer := readLength_append first (s.drop (width a - 1))
        rw [List.cons_append, List.take_append_drop, h] at longer
        cases longer
        exact ⟨_, first, by rw [List.cons_append, List.take_append_drop]⟩
  · rintro ⟨header, announces, rfl⟩
    exact announces.read t

theorem announces_of_readLength_error {s : List UInt8} {stop : Stop}
    (h : readLength s = .error stop) : ∃ more n, more ≠ [] ∧ Announces (s ++ more) n := by
  cases s with
  | nil => exact ⟨[0], 0, by simp, rfl⟩
  | cons a s =>
      have short : s.length + 1 < width a := by
        refine Nat.not_le.1 fun wide => ?_
        rw [readLength_wide wide] at h
        cases h
      let more : List UInt8 := List.replicate (width a - (s.length + 1)) 0
      have full : (s ++ more).length = width a - 1 := by
        rw [List.length_append, List.length_replicate]
        omega
      have read := readLength_wide (a := a) (s := s ++ more) (by omega)
      rw [List.drop_eq_nil_of_le (Nat.le_of_eq full)] at read
      refine ⟨more, _, ?_, read⟩
      intro none
      rw [none, List.append_nil] at full
      omega

structure Segment where
  header : List UInt8
  payload : List UInt8
  announces : Announces header payload.length
  bound : payload.length ≤ maxPayload

def Segment.bytes (f : Segment) : List UInt8 := f.header ++ f.payload

theorem next_segment {s payload t : List UInt8} (h : next s = .ok (payload, t)) :
    ∃ f : Segment, f.payload = payload ∧ s = f.bytes ++ t := by
  obtain ⟨bound, read⟩ := next_ok_iff.1 h
  obtain ⟨header, announces, rfl⟩ := readLength_ok_iff.1 read
  exact ⟨⟨header, payload, announces, bound⟩, rfl, (List.append_assoc ..).symm⟩

theorem next_tooLong_iff {s t : List UInt8} {n : Nat} :
    next s = .error ⟨.tooLong n, t⟩ ↔
      maxPayload < n ∧ ∃ header, Announces header n ∧ s = header ++ t := by
  constructor
  · intro h
    rcases next_stop h with ⟨m, r, eq, read, long⟩ | eq | eq
    · cases eq
      exact ⟨long, readLength_ok_iff.1 read⟩
    all_goals cases eq
  · rintro ⟨long, header, announces, rfl⟩
    simp [next, announces.read, long]

/-- The bytes are less than a length, or a length and less than its payload. -/
def Unfinished (s : List UInt8) : Prop :=
  (∃ more n, more ≠ [] ∧ Announces (s ++ more) n) ∨
    ∃ header n t, Announces header n ∧ n ≤ maxPayload ∧ s = header ++ t ∧ t.length < n

theorem unfinished_of_next {s : List UInt8} {stop : Stop} (h : next s = .error stop)
    (early : ∀ n, stop.defect ≠ .tooLong n) : Unfinished s := by
  cases read : readLength s with
  | error first => exact .inl (announces_of_readLength_error read)
  | ok r =>
      obtain ⟨n, t⟩ := r
      obtain ⟨header, announces, split⟩ := readLength_ok_iff.1 read
      have bound : n ≤ maxPayload := by
        refine Nat.not_lt.1 fun long => ?_
        rw [next_tooLong_iff.2 ⟨long, header, announces, split⟩] at h
        cases h
        exact early n rfl
      refine .inr ⟨header, n, t, announces, bound, split, ?_⟩
      refine Nat.not_le.1 fun whole => ?_
      have payload : (t.take n).length = n := List.length_take_of_le whole
      have found : next s = .ok (t.take n, t.drop n) := by
        refine next_ok_iff.2 ⟨payload.symm ▸ bound, ?_⟩
        rw [payload, List.take_append_drop, read]
      rw [h] at found
      cases found

theorem readAll_parts (s : List UInt8) :
    ∃ (frames : List Segment) (rest : List UInt8),
      s = (frames.map Segment.bytes).flatten ++ rest ∧
        (readAll s).1 = frames.map Segment.payload ∧ next rest = .error (readAll s).2 := by
  cases found : next s with
  | error stop =>
      rw [readAll_error found]
      exact ⟨[], s, rfl, rfl, found⟩
  | ok r =>
      obtain ⟨payload, t⟩ := r
      obtain ⟨frames, rest, parts, payloads, failed⟩ := readAll_parts t
      obtain ⟨f, rfl, split⟩ := next_segment found
      rw [readAll_ok found]
      refine ⟨f :: frames, rest, ?_, ?_, failed⟩
      · rw [split, parts]
        simp
      · rw [payloads]
        rfl
termination_by s.length
decreasing_by exact length_next found

theorem length_le_flatten_bytes (frames : List Segment) :
    frames.length ≤ (frames.map Segment.bytes).flatten.length := by
  induction frames with
  | nil => exact Nat.zero_le _
  | cons f frames ih =>
      have header := f.announces.length
      simp only [List.map_cons, List.flatten_cons, List.length_append, List.length_cons,
        Segment.bytes] at ih ⊢
      omega

theorem readAll_segments (s : List UInt8) :
    ∃ (frames : List Segment) (rest : List UInt8),
      s = (frames.map Segment.bytes).flatten ++ rest ∧
        (readAll s).1 = frames.map Segment.payload ∧ (readAll s).1.length ≤ s.length ∧
        (∀ f ∈ frames, 1 ≤ f.header.length ∧ f.header.length ≤ 5 ∧
          readLength f.header = .ok (f.payload.length, []) ∧ f.payload.length ≤ maxPayload) ∧
        next rest = .error (readAll s).2 ∧
        (∀ n t, (readAll s).2 = ⟨.tooLong n, t⟩ ↔
          maxPayload < n ∧ ∃ header, Announces header n ∧ rest = header ++ t) ∧
        (∀ n, (readAll s).2.defect = .tooLong n →
          (readAll s).2.defect.message =
            s!"frame of {n} bytes exceeds limit of {maxPayload} bytes") ∧
        ((∀ n, (readAll s).2.defect ≠ .tooLong n) → Unfinished rest ∧
          ((readAll s).2 = ⟨.endsAtByte, []⟩ ∨ (readAll s).2 = ⟨.endsInBlock, []⟩)) := by
  obtain ⟨frames, rest, parts, payloads, failed⟩ := readAll_parts s
  refine ⟨frames, rest, parts, payloads, ?_, ?_, failed, ?_, ?_, ?_⟩
  · rw [payloads, List.length_map, congrArg List.length parts, List.length_append]
    exact Nat.le_add_right_of_le (length_le_flatten_bytes frames)
  · intro f _
    exact ⟨f.announces.length.1, f.announces.length.2, f.announces, f.bound⟩
  · intro n t
    rw [← next_tooLong_iff, failed, Except.error.injEq]
  · intro n long
    rw [long]
    rfl
  · intro early
    refine ⟨unfinished_of_next failed early, ?_⟩
    rcases next_stop failed with ⟨n, t, eq, -, -⟩ | eof
    · exact absurd (congrArg Stop.defect eq) (early n)
    · exact eof

end ClusterDirectory.Frame
