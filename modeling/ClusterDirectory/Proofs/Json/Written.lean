import ClusterDirectory.Json.Reader.Typed
import ClusterDirectory.Proofs.Json.Quoted
import ClusterDirectory.Proofs.Json.Values
import ClusterDirectory.Proofs.Json.Whole

/-!
# Written values and their readers

`Reads reader v a` says that `reader` takes the bytes of `v` off the front of its input and gives
`a`, when what follows is a comma, a closing bracket or nothing. It is shown for the readers of one
type, for objects member by member (`ReadsMembers`), and for the reader of any value, up to the
depth that it has room for (`Reads.value`).
-/

namespace ClusterDirectory.Json

open Text

variable {α β σ : Type}

def written (v : Json) : List UInt8 := Utf8.encode v.render

structure Reads (reader : Reader α) (v : Json) (a : α) : Prop where
  start : ∃ b t, written v = b :: t ∧ isSpace b = false ∧ b ≠ 0x5D
  run : ∀ s, Ends s → reader.run (written v ++ s) = .ok (a, s)

theorem skipSpace_solid {b : UInt8} (solid : isSpace b = false) (s : List UInt8) :
    skipSpace (b :: s) = b :: s := by
  rw [skipSpace, List.dropWhile_cons, if_neg (by simp [solid])]

theorem run_ofFirst {read : UInt8 → List UInt8 → Except Fault (α × List UInt8)}
    {shorter : ∀ {b s a r}, read b s = .ok (a, r) → r.length ≤ s.length} {b : UInt8}
    (solid : isSpace b = false) (s : List UInt8) :
    (Reader.ofFirst read @shorter).run (b :: s) = read b s := by
  simp only [Reader.ofFirst, skipSpace_solid solid]

theorem Reads.ofFirst {reader : Reader α} {v : Json} {a : α} {b : UInt8} {t : List UInt8}
    (bytes : written v = b :: t) (solid : isSpace b = false ∧ b ≠ 0x5D)
    (reads : ∀ s, Ends s → reader.run (b :: (t ++ s)) = .ok (a, s)) : Reads reader v a where
  start := ⟨b, t, bytes, solid⟩
  run s ends := by
    rw [bytes]
    exact reads s ends

theorem Reads.map {reader : Reader α} {v : Json} {a : α} (reads : Reads reader v a) (f : α → β) :
    Reads (reader.map f) v (f a) where
  start := reads.start
  run s ends := by
    simp only [Reader.map, reads.run s ends]
    rfl

def row (closing : UInt8) : Bool → List (List UInt8) → List UInt8
  | _, [] => [closing]
  | first, p :: ps => (if first then [] else [0x2C]) ++ (p ++ row closing false ps)

theorem encode_bracketed (opening : Char) {closing : Char} {b : UInt8}
    (closes : String.utf8EncodeChar closing = [b]) (parts : List (List Char)) :
    Utf8.encode (bracketed opening closing parts) =
      String.utf8EncodeChar opening ++ row b true (parts.map Utf8.encode) := by
  have last : Utf8.encode [closing] = [b] := by rw [Utf8.encode_cons, closes]; rfl
  have comma : Utf8.encode [','] = [0x2C] := rfl
  have later (ps : List (List Char)) (p : List Char) :
      Utf8.encode ((p :: ps).intersperse [',']).flatten ++ [b] =
        Utf8.encode p ++ row b false (ps.map Utf8.encode) := by
    induction ps generalizing p with
    | nil => simp [row]
    | cons q ps ih =>
        rw [List.intersperse_cons_cons, List.flatten_cons, List.flatten_cons, Utf8.encode_append,
          Utf8.encode_append, List.append_assoc, List.append_assoc, ih, comma]
        rfl
  rw [bracketed, List.cons_append, Utf8.encode_cons, Utf8.encode_append, last]
  cases parts with
  | nil => rfl
  | cons p ps => rw [later]; rfl

theorem row_ends {closing : UInt8} (closes : closing = 0x5D ∨ closing = 0x7D)
    (ps : List (List UInt8)) (s : List UInt8) : Ends (row closing false ps ++ s) := by
  intro b first
  cases ps with
  | nil =>
      cases first
      exact .inr closes
  | cons p ps =>
      cases first
      exact .inl rfl

theorem renderItems_eq (vs : List Json) : renderItems vs = vs.map render := by
  induction vs with
  | nil => rfl
  | cons v vs ih => rw [renderItems, ih, List.map_cons]

theorem renderMembers_eq (ms : List (String × Json)) :
    renderMembers ms = ms.map fun m => member m.1 m.2.render := by
  induction ms with
  | nil => rfl
  | cons m ms ih => rw [renderMembers, ih, List.map_cons]

def writtenMember (m : String × Json) : List UInt8 :=
  0x22 :: closedBytes m.1 ++ 0x3A :: written m.2

theorem written_text (word : String) : written (.text word) = 0x22 :: closedBytes word := by
  rw [written, render, encode_quote]

theorem written_list (vs : List Json) :
    written (.list vs) = 0x5B :: row 0x5D true (vs.map written) := by
  rw [written, render, encode_bracketed _ (b := 0x5D) (by decide), renderItems_eq, List.map_map]
  rfl

theorem written_object (ms : List (String × Json)) :
    written (.object ms) = 0x7B :: row 0x7D true (ms.map writtenMember) := by
  have entry : Utf8.encode ∘ (fun m : String × Json => member m.1 m.2.render) = writtenMember := by
    funext m
    rw [Function.comp, member, Utf8.encode_append, Utf8.encode_cons, encode_quote]
    rfl
  rw [written, render, encode_bracketed _ (b := 0x7D) (by decide), renderMembers_eq, List.map_map,
    entry]
  rfl

theorem items_done {item : Reader α} {before : List α} {s r : List UInt8}
    (next : nextItem before.isEmpty s = .ok (.done r)) :
    items item before s = .ok (before.reverse, r) := by
  rw [items]
  split
  · rename_i failed
    cases next.symm.trans failed
  · rename_i found
    cases next.symm.trans found
    rfl
  · rename_i found
    cases next.symm.trans found

theorem items_entry {item : Reader α} {before : List α} {s t r : List UInt8} {a : α}
    (next : nextItem before.isEmpty s = .ok (.entry t)) (read : item.run t = .ok (a, r)) :
    items item before s = items item (a :: before) r := by
  rw [items]
  split
  · rename_i failed
    cases next.symm.trans failed
  · rename_i found
    cases next.symm.trans found
  · rename_i found
    cases next.symm.trans found
    split
    · rename_i failed
      cases read.symm.trans failed
    · rename_i found
      cases read.symm.trans found
      rfl

theorem nextItem_row {b : UInt8} (solid : isSpace b = false ∧ b ≠ 0x5D) (first : Bool)
    (s : List UInt8) :
    nextItem first ((if first then [] else [0x2C]) ++ b :: s) = .ok (.entry (b :: s)) := by
  cases first with
  | true => simp [nextItem, skipSpace_solid solid.1, solid.2]
  | false =>
      simp [nextItem, skipSpace_solid (show isSpace 0x2C = false by decide),
        skipSpace_solid solid.1, solid.2]

theorem items_row {item : Reader α} {write : α → Json} {as : List α}
    (reads : ∀ a ∈ as, Reads item (write a) a) (before : List α) (s : List UInt8) :
    items item before (row 0x5D before.isEmpty (as.map fun a => written (write a)) ++ s) =
      .ok (before.reverse ++ as, s) := by
  induction as generalizing before with
  | nil =>
      rw [List.append_nil]
      refine items_done ?_
      rw [List.map_nil, row, List.singleton_append, nextItem, skipSpace_solid (by decide)]
      rfl
  | cons a as ih =>
      rw [List.forall_mem_cons] at reads
      -- an item starts with no white space and no bracket, so it is not taken for the end
      obtain ⟨b, t, bytes, solid⟩ := reads.1.start
      have read := reads.1.run _ (row_ends (.inl rfl) (as.map fun a => written (write a)) s)
      rw [bytes, List.cons_append] at read
      rw [List.map_cons, row, bytes, List.append_assoc, List.cons_append, List.cons_append,
        List.append_assoc, items_entry (nextItem_row solid _ _) read]
      have rest := ih reads.2 (a :: before)
      rw [List.reverse_cons, List.append_assoc, List.singleton_append] at rest
      exact rest

theorem members_done {fields : Fields σ} {first : Bool} {state : σ} {s r : List UInt8}
    (next : nextKey first s = .ok (.done r)) : members fields first state s = .ok (state, r) := by
  rw [members]
  split
  · rename_i failed
    cases next.symm.trans failed
  · rename_i found
    cases next.symm.trans found
    rfl
  · rename_i found
    cases next.symm.trans found

theorem members_entry {fields : Fields σ} {first : Bool} {state next : σ} {value : Reader σ}
    {s t q r : List UInt8} (entry : nextKey first s = .ok (.entry t))
    (key : readKey fields state t = .ok (value, q)) (read : value.run q = .ok (next, r)) :
    members fields first state s = members fields false next r := by
  rw [members]
  split
  · rename_i failed
    cases entry.symm.trans failed
  · rename_i found
    cases entry.symm.trans found
  · rename_i found
    cases entry.symm.trans found
    split
    · rename_i failed
      cases key.symm.trans failed
    · rename_i found
      cases key.symm.trans found
      split
      · rename_i failed
        cases read.symm.trans failed
      · rename_i found
        cases read.symm.trans found
        rfl

theorem nextKey_row (first : Bool) (s : List UInt8) :
    nextKey first ((if first then [] else [0x2C]) ++ 0x22 :: s) = .ok (.entry s) := by
  have comma : isSpace 0x2C = false := by decide
  have quote : isSpace 0x22 = false := by decide
  cases first <;> simp [nextKey, skipSpace_solid comma, skipSpace_solid quote]

theorem readKey_written {fields : Fields σ} {state : σ} {key : String} {value : Reader σ}
    (known : fields.field state key = .ok value) (s : List UInt8) :
    readKey fields state (closedBytes key ++ 0x3A :: s) = .ok (value, s) := by
  have colon : readColon (0x3A :: s) = .ok s := by
    rw [readColon, skipSpace_solid (by decide)]
    rfl
  simp only [readKey, readText_closedBytes, known, colon]

inductive ReadsMembers (fields : Fields σ) : σ → List (String × Json) → σ → Prop
  | nil (state : σ) : ReadsMembers fields state [] state
  | cons {state next last : σ} {key : String} {v : Json} {ms : List (String × Json)}
      {value : Reader σ} (known : fields.field state key = .ok value) (read : Reads value v next)
      (more : ReadsMembers fields next ms last) : ReadsMembers fields state ((key, v) :: ms) last

theorem ReadsMembers.append {fields : Fields σ} {state next last : σ}
    {ms ns : List (String × Json)} (front : ReadsMembers fields state ms next)
    (back : ReadsMembers fields next ns last) : ReadsMembers fields state (ms ++ ns) last := by
  induction front with
  | nil => exact back
  | cons known read _ ih => exact .cons known read (ih back)

theorem members_row {fields : Fields σ} {state last : σ} {ms : List (String × Json)}
    (reads : ReadsMembers fields state ms last) (first : Bool) (s : List UInt8) :
    members fields first state (row 0x7D first (ms.map writtenMember) ++ s) = .ok (last, s) := by
  induction reads generalizing first with
  | nil state =>
      refine members_done ?_
      rw [List.map_nil, row, List.singleton_append, nextKey, skipSpace_solid (by decide)]
      rfl
  | @cons state next last key v ms value known read more ih =>
      have value := read.run _ (row_ends (.inr rfl) (ms.map writtenMember) s)
      rw [List.map_cons, row, writtenMember]
      simp only [List.append_assoc, List.cons_append]
      rw [members_entry (nextKey_row _ _) (readKey_written known _) value]
      exact ih false

theorem run_typed {expected : String} {b : UInt8}
    {read : List UInt8 → Except Fault (α × List UInt8)}
    {shorter : ∀ {s a r}, read s = .ok (a, r) → r.length ≤ s.length}
    (solid : isSpace b = false) (s : List UInt8) :
    (Reader.typed expected b read @shorter).run (b :: s) = read s := by
  rw [Reader.typed, run_ofFirst solid, if_pos rfl]

theorem Reads.text (word : String) : Reads .text (.text word) word := by
  refine .ofFirst (written_text word) (by decide) ?_
  intro s _
  rw [Reader.text, run_typed (by decide), readText_closedBytes]

theorem Reads.listOf {item : Reader α} {write : α → Json} {as : List α}
    (reads : ∀ a ∈ as, Reads item (write a) a) :
    Reads (.listOf item) (.list (as.map write)) as := by
  refine .ofFirst (written_list _) (by decide) ?_
  intro s _
  rw [Reader.listOf, run_typed (by decide), List.map_map]
  exact items_row reads [] s

theorem insertMember_last {k : String} {a : α} {ms : List (String × α)}
    (last : ∀ m ∈ ms, m.1 < k) : insertMember k a ms = ms ++ [(k, a)] := by
  induction ms with
  | nil => rfl
  | cons m ms ih =>
      rw [List.forall_mem_cons] at last
      have notLess : ¬ k < m.1 := fun less => String.lt_irrefl k (String.lt_trans less last.1)
      have notSame : k ≠ m.1 := fun same => String.lt_irrefl k (same ▸ last.1)
      rw [insertMember, if_neg notLess, if_neg notSame, ih last.2, List.cons_append]

theorem readsMembers_lastOfEach {item : Reader α} {write : α → Json} {ms : List (String × α)}
    (reads : ∀ m ∈ ms, Reads item (write m.2) m.2) (before : List (String × α))
    (ordered : Ascending (before ++ ms)) :
    ReadsMembers (lastOfEach item) before (ms.map fun m => (m.1, write m.2)) (before ++ ms) := by
  induction ms generalizing before with
  | nil =>
      rw [List.append_nil]
      exact .nil before
  | cons m ms ih =>
      rw [List.forall_mem_cons] at reads
      -- every key before is less, so the new member is put last
      have last : ∀ n ∈ before, n.1 < m.1 := fun n member =>
        (List.pairwise_append.1 ordered).2.2 n member m List.mem_cons_self
      rw [← List.singleton_append, ← List.append_assoc] at ordered ⊢
      refine .cons rfl (reads.1.map fun a => insertMember m.1 a before) ?_
      rw [insertMember_last last]
      exact ih reads.2 (before ++ [m]) ordered

theorem Reads.mapOf {item : Reader α} {write : α → Json} {m : KeyMap α}
    (reads : ∀ n ∈ m.members, Reads item (write n.2) n.2) :
    Reads (.mapOf item) (.object (m.members.map fun n => (n.1, write n.2))) m := by
  refine .ofFirst (written_object _) (by decide) ?_
  intro s _
  have read := members_row (readsMembers_lastOfEach reads [] m.ascending) true s
  rw [Reader.mapOf, run_typed (by decide)]
  split
  · rename_i failed
    cases read.symm.trans failed
  · rename_i found
    cases read.symm.trans found
    rfl

theorem Reads.orNull [Inhabited α] {reader : Reader α} {v : Json} {a : α}
    (reads : Reads reader v a) {b : UInt8} {t : List UInt8} (bytes : written v = b :: t)
    (notNull : b ≠ 0x6E) : Reads (.orNull reader) v a := by
  obtain ⟨c, u, start, solid⟩ := reads.start
  cases bytes.symm.trans start
  refine .ofFirst bytes solid ?_
  intro s ends
  rw [Reader.orNull, run_ofFirst solid.1, if_neg notNull, ← List.cons_append, ← bytes]
  exact reads.run s ends

theorem Reads.choice {choose : String → Except Cause α} {word : String} {a : α}
    (chosen : choose word = .ok a) : Reads (.choice choose) (.text word) a := by
  refine .ofFirst (written_text word) (by decide) ?_
  intro s _
  rw [Reader.choice, run_ofFirst (by decide), if_pos rfl]
  simp only [readChoice, readText_closedBytes, chosen]

theorem run_value (room : Nat) : ∃ nested, ∀ b s, isSpace b = false →
    (Reader.value room).run (b :: s) = readValue nested b s := by
  cases room with
  | zero => exact ⟨none, fun b s solid => by rw [Reader.value, run_ofFirst solid]⟩
  | succ room =>
      exact ⟨some (Reader.value room), fun b s solid => by rw [Reader.value, run_ofFirst solid]⟩

theorem run_value_succ (room : Nat) {b : UInt8} (solid : isSpace b = false) (s : List UInt8) :
    (Reader.value (room + 1)).run (b :: s) = readValue (some (Reader.value room)) b s := by
  rw [Reader.value, run_ofFirst solid]

theorem readValue_text (nested : Option (Reader Json)) (s : List UInt8) :
    readValue nested 0x22 s = yields .text (readText [] s) := rfl

theorem readValue_list (inner : Reader Json) (s : List UInt8) :
    readValue (some inner) 0x5B s = yields .list (items inner [] s) := rfl

theorem readValue_object (inner : Reader Json) (s : List UInt8) :
    readValue (some inner) 0x7B s = yields .object (members (lastOfEach inner) true [] s) := rfl

def FitsWord : JsonNumber → Prop
  | .whole n => Fits n
  | .real _ => False

theorem startsNumber_solid {b : UInt8} (starts : startsNumber b = true) :
    (isSpace b = false ∧ b ≠ 0x5D) ∧ b ≠ 0x6E ∧ b ≠ 0x74 ∧ b ≠ 0x66 := by
  simp only [startsNumber, isDigit, Bool.or_eq_true, beq_iff_eq, Bool.and_eq_true,
    decide_eq_true_eq, UInt8.le_iff_toNat_le] at starts
  simp only [isSpace, Bool.or_eq_false_iff, beq_eq_false_iff_ne, ne_eq, ← UInt8.toNat_inj]
    at starts ⊢
  simp at starts ⊢
  omega

theorem Reads.value {v : Json} {room : Nat} (shallow : v.depth ≤ room) (ordered : v.Ordered)
    (whole : v.AllNumbers FitsWord) : Reads (Reader.value room) v v := by
  induction v using Json.induct generalizing room with
  | null =>
      obtain ⟨nested, run⟩ := run_value room
      refine .ofFirst (b := 0x6E) (t := [0x75, 0x6C, 0x6C]) (by decide) (by decide) ?_
      intro s _
      rw [run _ _ (by decide)]
      rfl
  | bool b =>
      obtain ⟨nested, run⟩ := run_value room
      cases b with
      | false =>
          refine .ofFirst (b := 0x66) (t := [0x61, 0x6C, 0x73, 0x65]) (by decide) (by decide)
            fun s _ => ?_
          rw [run _ _ (by decide)]
          rfl
      | true =>
          refine .ofFirst (b := 0x74) (t := [0x72, 0x75, 0x65]) (by decide) (by decide)
            fun s _ => ?_
          rw [run _ _ (by decide)]
          rfl
  | number n =>
      obtain ⟨nested, run⟩ := run_value room
      cases n with
      | real x => exact absurd whole id
      | whole n =>
          obtain ⟨b, t, bytes, starts, read⟩ := readNumberFrom_whole whole
          obtain ⟨solid, notNull, notTrue, notFalse⟩ := startsNumber_solid starts
          refine .ofFirst bytes solid ?_
          intro s ends
          rw [run _ _ solid.1, readValue, if_neg notNull, if_neg notTrue, if_neg notFalse,
            if_pos starts, read s ends]
          rfl
  | text word =>
      obtain ⟨nested, run⟩ := run_value room
      refine .ofFirst (written_text word) (by decide) ?_
      intro s _
      rw [run _ _ (by decide), readValue_text, readText_closedBytes]
      rfl
  | list items ih =>
      rw [depth] at shallow
      obtain ⟨room, rfl⟩ := Nat.exists_eq_add_of_le' (Nat.le_trans (Nat.le_add_left 1 _) shallow)
      rw [Nat.add_le_add_iff_right, depthOfItems_le] at shallow
      rw [Ordered, orderedItems_iff] at ordered
      rw [AllNumbers, allNumbersInItems_iff] at whole
      have reads := fun v member =>
        ih v member (shallow v member) (ordered v member) (whole v member)
      refine .ofFirst (written_list items) (by decide) ?_
      intro s _
      have read : Json.items (Reader.value room) [] (row 0x5D true (items.map written) ++ s) =
          .ok (items, s) := items_row reads [] s
      rw [run_value_succ room (by decide), readValue_list, read]
      rfl
  | object ms ih =>
      rw [depth] at shallow
      obtain ⟨room, rfl⟩ := Nat.exists_eq_add_of_le' (Nat.le_trans (Nat.le_add_left 1 _) shallow)
      rw [Nat.add_le_add_iff_right, depthOfMembers_le] at shallow
      rw [Ordered, orderedMembers_iff] at ordered
      rw [AllNumbers, allNumbersInMembers_iff] at whole
      have reads := fun m member =>
        ih m member (shallow m member) (ordered.2 m member) (whole m member)
      refine .ofFirst (written_object ms) (by decide) ?_
      intro s _
      have inner : ReadsMembers (lastOfEach (Reader.value room)) [] ms ms := by
        simpa using @readsMembers_lastOfEach _ _ id ms reads [] ordered.1
      rw [run_value_succ room (by decide), readValue_object, members_row inner]
      rfl

end ClusterDirectory.Json
