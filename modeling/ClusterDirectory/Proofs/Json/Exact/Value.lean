import ClusterDirectory.Proofs.Json.Exact.Typed

namespace ClusterDirectory.Json

mutual

def settled : Json → Json
  | .list items => .list (settledItems items)
  | .object members => .object (KeyMap.ofMembers (settledMembers members)).members
  | v => v

def settledItems : List Json → List Json
  | [] => []
  | v :: vs => settled v :: settledItems vs

def settledMembers : List (String × Json) → List (String × Json)
  | [] => []
  | m :: ms => (m.1, settled m.2) :: settledMembers ms

end

def within (room : Nat) (v : Json) : Option Json := if v.depth ≤ room then some v.settled else none

theorem settledItems_eq (vs : List Json) : settledItems vs = vs.map settled := by
  induction vs with
  | nil => rfl
  | cons v vs ih => rw [settledItems, ih, List.map_cons]

theorem settledMembers_eq (ms : List (String × Json)) :
    settledMembers ms = ms.map fun m => (m.1, m.2.settled) := by
  induction ms with
  | nil => rfl
  | cons m ms ih => rw [settledMembers, ih, List.map_cons]

theorem mapM_guard {β γ : Type} (p : β → Prop) [DecidablePred p] (f : β → γ) (bs : List β) :
    bs.mapM (fun b => if p b then some (f b) else none) =
      if ∀ b ∈ bs, p b then some (bs.map f) else none := by
  induction bs with
  | nil => simp
  | cons b bs ih =>
      rw [List.mapM_cons, ih]
      simp only [List.forall_mem_cons]
      by_cases first : p b
      · by_cases rest : ∀ b ∈ bs, p b
        · rw [if_pos first, if_pos rest, if_pos ⟨first, rest⟩]
          rfl
        · rw [if_pos first, if_neg rest, if_neg fun both => rest both.2]
          rfl
      · have notBoth : ¬ (p b ∧ ∀ c ∈ bs, p c) := fun both => first both.1
        rw [if_neg first, if_neg notBoth]
        rfl

theorem within_zero_list (vs : List Json) : within 0 (.list vs) = none := by
  rw [within, depth, if_neg (Nat.not_succ_le_zero _)]

theorem within_zero_object (ms : List (String × Json)) : within 0 (.object ms) = none := by
  rw [within, depth, if_neg (Nat.not_succ_le_zero _)]

theorem within_list (room : Nat) (vs : List Json) :
    within (room + 1) (.list vs) = (vs.mapM (within room)).map .list := by
  have each : within room = fun v => if v.depth ≤ room then some v.settled else none := rfl
  rw [each, mapM_guard, within, depth, settled, settledItems_eq]
  simp only [Nat.add_le_add_iff_right, depthOfItems_le]
  split <;> rfl

theorem within_object (room : Nat) (ms : List (String × Json)) :
    within (room + 1) (.object ms) =
      (mapOf? (within room) (.object ms)).map fun m => .object m.members := by
  have each (m : String × Json) : (within room m.2).map (m.1, ·) =
      if m.2.depth ≤ room then some (m.1, m.2.settled) else none := by
    rw [within]
    split <;> rfl
  simp only [mapOf?, each]
  rw [mapM_guard (fun m : String × Json => m.2.depth ≤ room), within, depth, settled,
    settledMembers_eq]
  simp only [Nat.add_le_add_iff_right, depthOfMembers_le]
  split <;> rfl

section

variable {room : Nat} {nested : Option (Reader Json)}

def Nests (room : Nat) : Option (Reader Json) → Prop
  | none => room = 0
  | some inner => ∃ k, room = k + 1 ∧ Understands ValueSpelling inner (within k)

theorem within_flat {v : Json} (flat : v.depth = 0) : within room v = some v.settled := by
  rw [within, flat, if_pos (Nat.zero_le room)]

theorem readValue_ok (nests : Nests room nested) {b : UInt8} {s r : List UInt8} {a : Json}
    (read : readValue nested b s = .ok (a, r)) :
    ∃ t v, ValueSpelling t v ∧ within room v = some a ∧ b :: s = t ++ r := by
  unfold readValue at read
  split at read
  · rename_i letter
    obtain ⟨rest, rfl⟩ := literal_eq_ok.1 read
    exact ⟨_, _, .null, within_flat rfl, by rw [letter, readNull_ok.1 rest]⟩
  split at read
  · rename_i letter
    obtain ⟨rest, rfl⟩ := literal_eq_ok.1 read
    exact ⟨_, _, .true, within_flat rfl, by rw [letter, readLetters_ok.1 rest]; rfl⟩
  split at read
  · rename_i letter
    obtain ⟨rest, rfl⟩ := literal_eq_ok.1 read
    exact ⟨_, _, .false, within_flat rfl, by rw [letter, readLetters_ok.1 rest]; rfl⟩
  split at read
  · rename_i starts
    obtain ⟨n, number, rfl⟩ := yields_eq_ok.1 read
    obtain ⟨t, spelled, rfl⟩ := readNumberFrom_ok starts number
    exact ⟨_, _, .number spelled, within_flat rfl, rfl⟩
  split at read
  · rename_i quote
    obtain ⟨word, text, rfl⟩ := yields_eq_ok.1 read
    obtain ⟨t, spelled, split⟩ := readText_spelled.1 text
    exact ⟨_, _, .text spelled, within_flat rfl, by rw [quote, split]⟩
  split at read
  · rename_i bracket
    cases nested with
    | none => cases read
    | some inner =>
        obtain ⟨k, rfl, understands⟩ := nests
        obtain ⟨bs, list, rfl⟩ := yields_eq_ok.1 read
        obtain ⟨t, vs, cs, entries, meanings, rfl, rfl⟩ := items_ok understands list
        exact ⟨_, _, .list entries, by rw [within_list, meanings]; rfl, by rw [bracket]; rfl⟩
  split at read
  · rename_i brace
    cases nested with
    | none => cases read
    | some inner =>
        obtain ⟨k, rfl, understands⟩ := nests
        obtain ⟨ns, object, rfl⟩ := yields_eq_ok.1 read
        obtain ⟨t, ms, entries, taken, rfl⟩ :=
          members_ok (understands_lastOfEach understands) object
        rw [foldlM_eq_mapOf?] at taken
        obtain ⟨m, meaning, rfl⟩ := Option.map_eq_some_iff.1 taken
        exact ⟨_, _, .object entries, by rw [within_object, meaning]; rfl, by rw [brace]; rfl⟩
  · cases read

theorem readValue_append (nests : Nests room nested) {t q : List UInt8} {v a : Json}
    (spelled : ValueSpelling t v) (meaning : within room v = some a) (apart : Apart q) :
    ∃ b s, t = b :: s ∧ isSpace b = false ∧ readValue nested b (s ++ q) = .ok (a, q) := by
  cases spelled with
  | null =>
      cases (within_flat rfl).symm.trans meaning
      exact ⟨_, _, rfl, by decide, rfl⟩
  | true =>
      cases (within_flat rfl).symm.trans meaning
      exact ⟨_, _, rfl, by decide, rfl⟩
  | false =>
      cases (within_flat rfl).symm.trans meaning
      exact ⟨_, _, rfl, by decide, rfl⟩
  | number number =>
      cases (within_flat rfl).symm.trans meaning
      obtain ⟨b, s, rfl, starts, read⟩ := readNumberFrom_append number
      obtain ⟨solid, notNull, notTrue, notFalse⟩ := startsNumber_solid starts
      refine ⟨b, s, rfl, solid.1, ?_⟩
      rw [readValue, if_neg notNull, if_neg notTrue, if_neg notFalse, if_pos starts, read q apart]
      rfl
  | text text =>
      cases (within_flat rfl).symm.trans meaning
      obtain ⟨s, rfl, read⟩ := text.quote
      refine ⟨_, s, rfl, by decide, ?_⟩
      rw [readValue_text, read]
      rfl
  | list entries =>
      refine ⟨_, _, rfl, by decide, ?_⟩
      cases nested with
      | none =>
          cases nests
          rw [within_zero_list] at meaning
          cases meaning
      | some inner =>
          obtain ⟨k, rfl, understands⟩ := nests
          rw [within_list] at meaning
          obtain ⟨bs, meanings, rfl⟩ := Option.map_eq_some_iff.1 meaning
          rw [readValue_list,
            items_append understands solid_of_spelled [] entries meanings]
          rfl
  | object entries =>
      refine ⟨_, _, rfl, by decide, ?_⟩
      cases nested with
      | none =>
          cases nests
          rw [within_zero_object] at meaning
          cases meaning
      | some inner =>
          obtain ⟨k, rfl, understands⟩ := nests
          rw [within_object] at meaning
          obtain ⟨m, meanings, rfl⟩ := Option.map_eq_some_iff.1 meaning
          have taken := congrArg (Option.map KeyMap.members) meanings
          rw [← foldlM_eq_mapOf?] at taken
          rw [readValue_object, members_append (understands_lastOfEach understands) entries taken]
          rfl

end

theorem understands_value (room : Nat) :
    Understands ValueSpelling (Reader.value room) (within room) := by
  have understands (nested : Option (Reader Json)) {room : Nat} (nests : Nests room nested) :
      Understands ValueSpelling (.ofFirst (readValue nested) length_readValue) (within room) :=
    .ofFirst (fun _ => readValue_ok nests) (readValue_append nests)
  induction room with
  | zero => exact understands none rfl
  | succ room ih => exact understands (some (.value room)) ⟨room, rfl, ih⟩

end ClusterDirectory.Json
