import ClusterDirectory.Proofs.Frame.Sequence

/-!
# Writing into a sink of limited room

A write that stops half way has put the first of its bytes into the sink, so that writing in parts,
each after the one before was taken whole, is writing at once (`writeBytes_append`). The two writes
of a frame are the write of the frame, and the frames of a session are one row of bytes, cut where
the room ends. The reader of the sink therefore finds the frames that were written whole, and the
end of the bytes after them (`readAll_writeAll`).
-/

namespace ClusterDirectory.Frame

variable {room : Nat} {held bytes : List UInt8}

theorem writeBytes_of_fits (fits : bytes.length ≤ room - held.length) :
    writeBytes room held bytes = ⟨held ++ bytes, true⟩ := by
  simp [writeBytes, fits, List.take_of_length_le]

theorem writeBytes_of_short (short : room - held.length < bytes.length) :
    writeBytes room held bytes = ⟨held ++ bytes.take (room - held.length), false⟩ := by
  simp [writeBytes, Nat.not_le.2 short]

theorem writeBytes_append (room : Nat) (held a b : List UInt8) :
    writeBytes room held (a ++ b) =
      let w := writeBytes room held a
      if w.complete then writeBytes room w.held b else w := by
  rcases Nat.lt_or_ge (room - held.length) a.length with short | fits
  · have shorter : room - held.length < (a ++ b).length := by
      rw [List.length_append]
      omega
    rw [writeBytes_of_short short, writeBytes_of_short shorter,
      List.take_append_of_le_length (Nat.le_of_lt short)]
    rfl
  · have both : a.length + b.length ≤ room - held.length ↔
        b.length ≤ room - held.length - a.length := by omega
    rw [writeBytes_of_fits fits]
    dsimp only
    rw [if_pos rfl]
    simp only [writeBytes, List.length_append, both, Nat.sub_add_eq, List.append_assoc,
      List.take_append, List.take_of_length_le fits]

theorem write_eq (room : Nat) (held payload : List UInt8) :
    write room held payload = writeBytes room held (encode payload) :=
  (writeBytes_append room held (encodeLength payload.length) payload).symm

inductive SinkFault
  | writeZero
  deriving DecidableEq

def Written.fault? (w : Written) : Option SinkFault :=
  if w.complete then none else some .writeZero

/-- Write frame after frame, up to the first that is not taken whole. The first part has the
payloads of those that are. -/
def writeAll (room : Nat) (held : List UInt8) :
    (payloads : List (List UInt8)) → List (List UInt8) × Written
  | [] => ([], ⟨held, true⟩)
  | p :: ps =>
      let w := write room held p
      if w.complete then
        let (written, last) := writeAll room w.held ps
        (p :: written, last)
      else ([], w)

theorem writeAll_sink (room : Nat) (held : List UInt8) (payloads : List (List UInt8)) :
    (writeAll room held payloads).2 = writeBytes room held (encodeAll payloads) := by
  induction payloads generalizing held with
  | nil => simp [writeAll, writeBytes]
  | cons p ps ih =>
      rw [encodeAll_cons, writeBytes_append, ← write_eq, writeAll]
      dsimp only
      split
      · exact ih _
      · rfl

theorem writeAll_written (room : Nat) (held : List UInt8) (payloads : List (List UInt8)) :
    (writeAll room held payloads).1 = whole payloads (room - held.length) := by
  induction payloads generalizing held with
  | nil => rfl
  | cons p ps ih =>
      rw [writeAll, whole, write_eq]
      rcases Nat.lt_or_ge (room - held.length) (encode p).length with short | fits
      · rw [writeBytes_of_short short, if_neg (Nat.not_le.2 short)]
        rfl
      · rw [writeBytes_of_fits fits, if_pos fits]
        dsimp only
        rw [if_pos rfl, ih, List.length_append, Nat.sub_add_eq]

theorem whole_isPrefix (payloads : List (List UInt8)) (cut : Nat) :
    whole payloads cut <+: payloads := by
  induction payloads generalizing cut with
  | nil => exact List.prefix_rfl
  | cons p ps ih =>
      rw [whole]
      split
      · exact List.cons_prefix_cons.2 ⟨rfl, ih _⟩
      · exact List.nil_prefix

theorem whole_of_fits {payloads : List (List UInt8)} {cut : Nat}
    (fits : (encodeAll payloads).length ≤ cut) : whole payloads cut = payloads := by
  induction payloads generalizing cut with
  | nil => rfl
  | cons p ps ih =>
      rw [encodeAll_cons, List.length_append] at fits
      rw [whole, if_pos (by omega), ih (by omega)]

/-- Whatever the room, the sink ends up with the first bytes of the frames, as many as it has room
for. A write fails when it has not room for all of them, and only then. What is read from the sink
are the payloads of the frames that were written, and then the end of the bytes. -/
theorem readAll_writeAll {payloads : List (List UInt8)}
    (bounds : ∀ p ∈ payloads, p.length ≤ maxPayload) (room : Nat) :
    let session := writeAll room [] payloads
    let total := (encodeAll payloads).length
    session.2.held = (encodeAll payloads).take (min room total) ∧
      session.2.fault? = (if room < total then some .writeZero else none) ∧
      session.1 <+: payloads ∧ (session.2.fault? = none → session.1 = payloads) ∧
      ∃ defect, readAll session.2.held = (session.1, ⟨defect, []⟩) ∧
        (defect = .endsAtByte ∨ defect = .endsInBlock) := by
  intro session total
  have sink : session.2 = writeBytes room [] (encodeAll payloads) := writeAll_sink room [] payloads
  have written : session.1 = whole payloads room := writeAll_written room [] payloads
  have held : session.2.held = (encodeAll payloads).take room := by
    rw [sink]
    rfl
  have complete : session.2.complete = true ↔ ¬ room < total := by
    rw [sink, Nat.not_lt]
    exact decide_eq_true_iff
  have fault : session.2.fault? = if room < total then some .writeZero else none := by
    simp only [Written.fault?, complete, ite_not]
  refine ⟨?_, fault, ?_, ?_, ?_⟩
  · rw [held, ← List.take_take, List.take_length]
  · rw [written]
    exact whole_isPrefix payloads room
  · intro succeeded
    rw [fault, ite_eq_right_iff] at succeeded
    have enough : ¬ room < total := fun short => Option.some_ne_none _ (succeeded short)
    rw [written]
    exact whole_of_fits (Nat.not_lt.1 enough)
  · obtain ⟨defect, read, early⟩ := readAll_cut bounds room
    rw [held, written]
    refine ⟨defect, read, ?_⟩
    cases defect with
    | endsAtByte => exact .inl rfl
    | endsInBlock => exact .inr rfl
    | tooLong n => exact absurd rfl (early n)

theorem readAll_writeAll_cut :
    (∀ p ∈ [[0x61], [], [(0x62 : UInt8), 0x63]], p.length ≤ maxPayload) ∧
      writeAll 4 [] [[0x61], [], [0x62, 0x63]] =
        ([[0x61], []], ⟨[1, 0x61, 0, 2], false⟩) ∧
      ∃ defect, readAll [1, 0x61, 0, 2] = ([[0x61], []], ⟨defect, []⟩) ∧
        (defect = .endsAtByte ∨ defect = .endsInBlock) := by
  have bounds : ∀ p ∈ [[0x61], [], [(0x62 : UInt8), 0x63]], p.length ≤ maxPayload := by decide
  obtain ⟨-, -, -, -, defect, read⟩ := readAll_writeAll bounds 4
  exact ⟨bounds, by decide, defect, read⟩

end ClusterDirectory.Frame
