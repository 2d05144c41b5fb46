import ClusterDirectory.Proofs.Change.Format

/-!
# Payloads that are cut short

An envelope ends with its bracket and is read in front of any bytes. So where a beginning of a
payload is read as a whole, only white space follows it (`white_of_read`), and what is left out of a
payload without a bracket is such white space (`read_of_no_closing`). A change that is cut before
its last bracket is therefore malformed, and so is one with more than white space after it
(`decode_cut`).
-/

namespace ClusterDirectory

open Json

theorem Json.Entries.getLast? {α : Type} {closing : UInt8} {entry : Spelling α} {first : Bool}
    {s : List UInt8} {as : List α} (entries : Entries closing entry first s as) :
    s.getLast? = some closing := by
  induction entries with
  | close => rw [List.getLast?_concat]
  | more _ _ _ _ ih => simp only [List.getLast?_append, ih, Option.some_or]

namespace Change

def IsClosing (b : UInt8) : Prop := b = 0x5D ∨ b = 0x7D

theorem not_white_of_closing {s : List UInt8} {b : UInt8} (member : b ∈ s)
    (closing : IsClosing b) : ¬ White s := by
  intro white
  have space := white b member
  rcases closing with rfl | rfl <;> cases space

theorem EnvelopeSpelling.getLast? {s : List UInt8} {e : Envelope} (spelled : EnvelopeSpelling s e) :
    ∃ b, IsClosing b ∧ s.getLast? = some b := by
  cases spelled with
  | object entries =>
      exact ⟨_, .inr rfl, by rw [List.getLast?_cons, entries.getLast?, Option.getD_some]⟩
  | pair entries =>
      exact ⟨_, .inl rfl, by rw [List.getLast?_cons, entries.getLast?, Option.getD_some]⟩

section

variable {p more : List UInt8} {reading : Reading}

theorem read_white (found : read p = .ok reading) (white : White more) :
    read (p ++ more) = .ok reading := by
  obtain ⟨e, ⟨w, s, v, before, spelled, after, rfl⟩, known⟩ := read_ok.1 found
  exact read_ok.2 ⟨e, ⟨w, s, v ++ more, before, spelled, after.append white, by simp⟩, known⟩

theorem white_of_read {other : Reading} (found : read p = .ok reading)
    (longer : read (p ++ more) = .ok other) : White more := by
  obtain ⟨e, ⟨w, s, v, before, spelled, after, rfl⟩, known⟩ := read_ok.1 found
  have run := reader_append before spelled known (v ++ more)
  simp only [read, Resource.readAll, List.append_assoc, run] at longer
  split at longer
  · rename_i rest
    exact (List.forall_mem_append.1 (skipSpace_eq_nil.1 rest)).2
  · cases longer

theorem read_of_no_closing (found : read (p ++ more) = .ok reading)
    (none : ∀ b ∈ more, ¬ IsClosing b) : read p = .ok reading := by
  obtain ⟨e, ⟨w, s, v, before, spelled, after, split⟩, known⟩ := read_ok.1 found
  obtain ⟨b, closing, last⟩ := spelled.getLast?
  rw [← List.append_assoc] at split
  rcases List.append_eq_append_iff.1 split with ⟨u, whole, rfl⟩ | ⟨u, rfl, rfl⟩
  · -- the bracket at the end of `s` is in `u`, unless `u` is empty
    have ends : (p ++ u).getLast? = some b := by
      rw [← whole, List.getLast?_append, last, Option.some_or]
    cases tail : u.getLast? with
    | none =>
        rw [List.getLast?_eq_none_iff.1 tail, List.append_nil] at whole
        exact read_ok.2 ⟨e, ⟨w, s, [], before, spelled, .nil, by simp [← whole]⟩, known⟩
    | some c =>
        rw [List.getLast?_append, tail, Option.some_or] at ends
        cases ends
        exact absurd closing (none b (List.mem_append_left _ (List.mem_of_getLast? tail)))
  · have white := (List.forall_mem_append.1 after).1
    exact read_ok.2 ⟨e, ⟨w, s, u, before, spelled, white, by simp⟩, known⟩

end

/-- A beginning of a change that leaves a closing bracket behind is malformed, and one that leaves
none is the same change. So is the change with white space after it, while with anything else after
it, it is malformed. -/
theorem decode_cut {p : List UInt8} {c : Change} (decoded : decode p = .ok c) :
    (∀ q rest, p = q ++ rest →
      ((∃ b ∈ rest, IsClosing b) → IsMalformed q) ∧
        ((∀ b ∈ rest, ¬ IsClosing b) → decode q = .ok c)) ∧
      ∀ more, (White more → decode (p ++ more) = .ok c) ∧
        (¬ White more → IsMalformed (p ++ more)) := by
  obtain ⟨reading, found, eq, named⟩ := decode_ok_iff.1 decoded
  refine ⟨?_, fun more => ⟨fun white => ?_, fun notWhite => ?_⟩⟩
  · rintro q rest rfl
    refine ⟨fun ⟨b, member, closing⟩ => isMalformed_iff.2 fun short early => ?_, fun none => ?_⟩
    · exact not_white_of_closing member closing (white_of_read early found)
    · exact decode_ok_iff.2 ⟨reading, read_of_no_closing found none, eq, named⟩
  · exact decode_ok_iff.2 ⟨reading, read_white found white, eq, named⟩
  · exact isMalformed_iff.2 fun other longer => notWhite (white_of_read found longer)

def bracketed : List UInt8 :=
  Text.bytes "[\"add\",\x7b\"kind\":\"Pod\",\"name\":\"]\\\"\x7d\",\"ports\":[[],\x7b\x7d]\x7d]"

/-- It is cut within an escape in the name, after a bracket that is part of the name. -/
theorem decode_cut_bracketed :
    ∃ c, decode bracketed = .ok c ∧ c.resource.name = "]\"\x7d" ∧
      IsMalformed (bracketed.take 31) ∧ decode (bracketed ++ [0x0A]) = .ok c ∧
      IsMalformed (bracketed ++ [0x5D]) := by
  have name : (decode bracketed).toOption.map (·.resource.name) = some "]\"\x7d" := by
    decide +kernel
  obtain ⟨c, found, named⟩ := Option.map_eq_some_iff.1 name
  have decoded := toOption_eq_some.1 found
  obtain ⟨beginnings, after⟩ := decode_cut decoded
  have rest : 0x5D ∈ bracketed.drop 31 := by decide +kernel
  refine ⟨c, decoded, named, ?_, (after [0x0A]).1 (by decide), ?_⟩
  · exact (beginnings _ _ (List.take_append_drop 31 bracketed).symm).1 ⟨_, rest, .inl rfl⟩
  · exact (after [0x5D]).2 (not_white_of_closing List.mem_cons_self (.inl rfl))

end Change

end ClusterDirectory
