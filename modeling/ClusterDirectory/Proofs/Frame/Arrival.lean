import ClusterDirectory.Proofs.Frame.Segments

namespace ClusterDirectory.Frame

theorem Segment.next (f : Segment) (t : List UInt8) :
    Frame.next (f.bytes ++ t) = .ok (f.payload, t) := by
  refine next_ok_iff.2 ⟨f.bound, ?_⟩
  rw [bytes, List.append_assoc]
  exact f.announces.read (f.payload ++ t)

theorem readAll_frames (frames : List Segment) (t : List UInt8) :
    readAll ((frames.map Segment.bytes).flatten ++ t) =
      (frames.map Segment.payload ++ (readAll t).1, (readAll t).2) := by
  induction frames with
  | nil => rfl
  | cons f frames ih =>
      rw [List.map_cons, List.flatten_cons, List.append_assoc, readAll_ok (f.next _), ih]
      rfl

theorem nextMany_frames (frames : List Segment) (t : List UInt8) :
    nextMany frames.length ((frames.map Segment.bytes).flatten ++ t) =
      .ok (frames.map Segment.payload, t) := by
  induction frames with
  | nil => rfl
  | cons f frames ih =>
      rw [List.map_cons, List.flatten_cons, List.append_assoc, List.length_cons]
      simp only [nextMany, f.next, ih, List.map_cons]

/-- More bytes change nothing about the frames that are there, nor about a length that is too long.
Otherwise reading goes on with the bytes behind the last whole frame. -/
theorem readAll_append (s t : List UInt8) :
    (readAll s).1 <+: (readAll (s ++ t)).1 ∧
      (∀ n unread, (readAll s).2 = ⟨.tooLong n, unread⟩ →
        readAll (s ++ t) = ((readAll s).1, ⟨.tooLong n, unread ++ t⟩)) ∧
      ∃ rest, nextMany (readAll s).1.length s = .ok ((readAll s).1, rest) ∧ rest <:+ s ∧
        readAll (s ++ t) = ((readAll s).1 ++ (readAll (rest ++ t)).1, (readAll (rest ++ t)).2) := by
  obtain ⟨frames, rest, parts, payloads, failed⟩ := readAll_parts s
  have resumed : readAll (s ++ t) =
      ((readAll s).1 ++ (readAll (rest ++ t)).1, (readAll (rest ++ t)).2) := by
    rw [payloads, ← readAll_frames, ← List.append_assoc, ← parts]
  refine ⟨?_, ?_, rest, ?_, ?_, resumed⟩
  · rw [resumed]
    exact List.prefix_append _ _
  · intro n unread long
    rw [long] at failed
    rw [resumed, readAll_error (next_append_tooLong failed t), List.append_nil]
  · rw [payloads, List.length_map, parts]
    exact nextMany_frames frames rest
  · exact ⟨_, parts.symm⟩

end ClusterDirectory.Frame
