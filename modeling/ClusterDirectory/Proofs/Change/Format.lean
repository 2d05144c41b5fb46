import ClusterDirectory.Change.Decoder
import ClusterDirectory.Proofs.Json.Exact.Skip
import ClusterDirectory.Proofs.Resource.Meaning

/-!
# The format of a change

A payload spells an envelope: an object with any members, of which those that are not of a change
need the loose form of a value only, or a list of two values. An envelope denotes a change when its
operation and its resource do, each given once. The decoder accepts just the payloads that spell an
envelope that denotes a change with a name, and gives this change (`decode_eq_ok`).
-/

namespace ClusterDirectory.Change

open Json

inductive HeldSpelling (key : String) : Spelling (Option Json)
  | kept {s : List UInt8} {v : Json} (known : key = "operation" ∨ key = "resource")
      (value : ValueSpelling s v) : HeldSpelling key s (some v)
  | skipped {s : List UInt8} (unknown : key ≠ "operation" ∧ key ≠ "resource")
      (value : SkippedSpelling s ()) : HeldSpelling key s none

inductive Envelope
  | object (members : List (String × Option Json))
  | pair (operation resource : Json)

inductive EnvelopeSpelling : Spelling Envelope
  | object {s : List UInt8} {ms : List (String × Option Json)}
      (members : Entries 0x7D (MemberSpelling TextSpelling HeldSpelling) true s ms) :
      EnvelopeSpelling (0x7B :: s) (.object ms)
  | pair {s : List UInt8} {operation resource : Json}
      (items : Entries 0x5D ValueSpelling true s [operation, resource]) :
      EnvelopeSpelling (0x5B :: s) (.pair operation resource)

def Spells (payload : List UInt8) (e : Envelope) : Prop :=
  ∃ w s v, White w ∧ EnvelopeSpelling s e ∧ White v ∧ payload = w ++ (s ++ v)

def under (key : String) (ms : List (String × Option Json)) : List (Option Json) :=
  (ms.filter (·.1 == key)).map Prod.snd

theorem under_other {key name : String} {v : Option Json} (other : name ≠ key)
    (ms ns : List (String × Option Json)) :
    under key (ms ++ (name, v) :: ns) = under key (ms ++ ns) := by
  simp [under, other]

theorem under_only {key : String} {ms ns : List (String × Option Json)} {v w : Option Json} :
    under key (ms ++ (key, v) :: ns) = [w] ↔ v = w ∧ under key ms = [] ∧ under key ns = [] := by
  simp [under, List.append_eq_singleton_iff, and_left_comm]

def Envelope.Holds (operation resource : Json) : Envelope → Prop
  | .object ms => under "operation" ms = [some operation] ∧ under "resource" ms = [some resource]
  | .pair first second => first = operation ∧ second = resource

def operation? (v : Json) : Option Operation := v.word?.bind Operation.ofName?

/-- The envelope holds the operation and the resource of a change, with which at most 127 brackets
are open at once. -/
def Envelope.Denotes (e : Envelope) (c : Change) : Prop :=
  ∃ operation ms, e.Holds operation (.object ms) ∧ operation? operation = some c.operation ∧
    Resource.Denotes ms c.resource ∧ (Json.list [operation, .object ms]).depth ≤ 127

namespace Draft

theorem understands_choice {choose : String → Except Cause Operation}
    (same : ∀ name, (choose name).toOption = Operation.ofName? name) :
    Understands ValueSpelling (.choice choose) operation? := by
  have sense : operation? = choice? choose := by
    funext v
    rw [operation?, choice?, funext same]
  rw [sense]
  exact .choice choose

theorem understands_operation : Understands ValueSpelling operationReader operation? := by
  apply understands_choice
  intro name
  cases Operation.ofName? name <;> rfl

def take? (d : Draft) (key : String) : Option Json → Option Draft :=
  if key = "operation" then
    if d.operation.isSome then fun _ => none
    else fun v => (v.bind operation?).map fun op => { d with operation := some op }
  else if key = "resource" then
    if d.resource.isSome then fun _ => none
    else fun v => (v.bind (Resource.draft? 125)).map fun r => { d with resource := some r }
  else fun _ => some d

theorem understands_kept {α : Type} {key : String} (known : key = "operation" ∨ key = "resource")
    {reader : Reader α} {sense : Json → Option α}
    (understands : Understands ValueSpelling reader sense) :
    Understands (HeldSpelling key) reader (fun v => v.bind sense) where
  sound run := by
    obtain ⟨w, t, v, white, spelled, meaning, split⟩ := understands.sound run
    exact ⟨w, t, some v, white, .kept known spelled, meaning, split⟩
  complete white spelled meaning apart := by
    cases spelled with
    | kept _ value => exact understands.complete white value meaning apart
    | skipped => cases meaning

theorem understands_skip {key : String} (unknown : key ≠ "operation" ∧ key ≠ "resource")
    (d : Draft) : Understands (HeldSpelling key) d.skip (fun _ => some d) where
  sound run := by
    obtain ⟨w, t, _, white, spelled, meaning, split⟩ :=
      (understands_skipped fun s => rfl).sound run
    exact ⟨w, t, none, white, .skipped unknown spelled, meaning, split⟩
  complete white spelled meaning apart := by
    cases spelled with
    | kept known =>
        rcases known with rfl | rfl
        · exact absurd rfl unknown.1
        · exact absurd rfl unknown.2
    | skipped _ value => exact (understands_skipped fun s => rfl).complete white value meaning apart

theorem understands_fields : UnderstandsMembers Draft.fields HeldSpelling take? where
  known {d key reader} known := by
    simp only [Draft.fields, field] at known
    unfold take?
    split at known
    · rename_i operation
      split at known
      · cases known
      · rename_i fresh
        cases known
        rw [if_pos operation, if_neg fresh]
        exact (understands_kept (.inl operation) understands_operation).map _
    rename_i notOperation
    split at known
    · rename_i resource
      split at known
      · cases known
      · rename_i fresh
        cases known
        rw [if_neg notOperation, if_pos resource, if_neg fresh]
        exact (understands_kept (.inr resource) (Resource.understands_resource 125)).map _
    · rename_i notResource
      cases known
      rw [if_neg notOperation, if_neg notResource]
      exact understands_skip ⟨notOperation, notResource⟩ d
  refused {d key cause v} refused := by
    simp only [Draft.fields, field] at refused
    unfold take?
    split at refused
    · rename_i operation
      split at refused
      · rename_i seen
        rw [if_pos operation, if_pos seen]
      · cases refused
    rename_i notOperation
    split at refused
    · rename_i resource
      split at refused
      · rename_i seen
        rw [if_neg notOperation, if_pos resource, if_pos seen]
      · cases refused
    · cases refused

def takeAll? (ms : List (String × Option Json)) : Option Draft :=
  ms.foldlM (fun d m => d.take? m.1 m.2) {}

/-- What a draft has for a key: the sense of the only value under it, or nothing without a value. -/
def Slot {α : Type} (sense : Json → Option α) (vs : List (Option Json)) : Option α → Prop
  | none => vs = []
  | some a => ∃ v, vs = [some v] ∧ sense v = some a

theorem slot_nil {α : Type} {sense : Json → Option α} {a : Option α} :
    Slot sense [] a ↔ a = none := by
  cases a <;> simp [Slot]

theorem slot_concat {α : Type} {sense : Json → Option α} {vs : List (Option Json)}
    {v : Option Json} {a : Option α} :
    Slot sense (vs ++ [v]) a ↔ Slot sense vs none ∧ ∃ b, v.bind sense = some b ∧ a = some b := by
  cases a with
  | none => simp [Slot]
  | some a =>
      constructor
      · rintro ⟨u, single, meaning⟩
        cases vs with
        | nil =>
            cases single
            exact ⟨rfl, a, meaning, rfl⟩
        | cons x xs => simp at single
      · rintro ⟨empty, b, meaning, eq⟩
        cases empty
        cases eq
        obtain ⟨u, rfl, meaning⟩ := Option.bind_eq_some_iff.1 meaning
        exact ⟨u, rfl, meaning⟩

theorem under_concat (key : String) (ms : List (String × Option Json))
    (m : String × Option Json) :
    under key (ms ++ [m]) = if m.1 = key then under key ms ++ [m.2] else under key ms := by
  by_cases named : m.1 = key <;> simp [under, List.filter_append, named]

theorem take?_operation {d next : Draft} {v : Option Json} :
    d.take? "operation" v = some next ↔ d.operation = none ∧
      ∃ op, v.bind operation? = some op ∧ { d with operation := some op } = next := by
  rw [take?, if_pos rfl]
  cases d.operation with
  | some op => simp
  | none =>
      simp only [Option.isSome_none, Bool.false_eq_true, if_false, Option.map_eq_some_iff, true_and]

theorem take?_resource {d next : Draft} {v : Option Json} :
    d.take? "resource" v = some next ↔ d.resource = none ∧
      ∃ r, v.bind (Resource.draft? 125) = some r ∧ { d with resource := some r } = next := by
  rw [take?, if_neg (by decide), if_pos rfl]
  cases d.resource with
  | some r => simp
  | none =>
      simp only [Option.isSome_none, Bool.false_eq_true, if_false, Option.map_eq_some_iff, true_and]

theorem takeAll?_eq_some {ms : List (String × Option Json)} {d : Draft} :
    takeAll? ms = some d ↔ Slot operation? (under "operation" ms) d.operation ∧
      Slot (Resource.draft? 125) (under "resource" ms) d.resource := by
  induction ms using List.reverseRecOn generalizing d with
  | nil =>
      rw [show under "operation" [] = [] from rfl, show under "resource" [] = [] from rfl,
        slot_nil, slot_nil]
      constructor
      · rintro ⟨⟩
        exact ⟨rfl, rfl⟩
      · rintro ⟨operation, resource⟩
        obtain ⟨_, _⟩ := d
        cases operation
        cases resource
        rfl
  | append_singleton ms m ih =>
      obtain ⟨key, v⟩ := m
      have step : takeAll? (ms ++ [(key, v)]) = some d ↔
          ∃ before, takeAll? ms = some before ∧ before.take? key v = some d := by
        rw [takeAll?, List.foldlM_append, ← takeAll?]
        simp only [List.foldlM_cons, List.foldlM_nil, bind_pure, Option.bind_eq_bind,
          Option.bind_eq_some_iff]
      simp only [step, ih, under_concat]
      -- the last member fills one slot, which was empty before, or none
      by_cases operation : key = "operation"
      · subst operation
        rw [if_pos rfl, if_neg (by decide), slot_concat]
        constructor
        · rintro ⟨before, ⟨first, second⟩, taken⟩
          obtain ⟨none, op, known, rfl⟩ := take?_operation.1 taken
          exact ⟨⟨none ▸ first, op, known, rfl⟩, second⟩
        · rintro ⟨⟨first, op, known, eq⟩, second⟩
          refine ⟨{ d with operation := none }, ⟨first, second⟩, ?_⟩
          exact take?_operation.2 ⟨rfl, op, known, by rw [← eq]⟩
      by_cases resource : key = "resource"
      · subst resource
        rw [if_neg (by decide), if_pos rfl, slot_concat]
        constructor
        · rintro ⟨before, ⟨first, second⟩, taken⟩
          obtain ⟨none, r, known, rfl⟩ := take?_resource.1 taken
          exact ⟨first, none ▸ second, r, known, rfl⟩
        · rintro ⟨first, second, r, known, eq⟩
          refine ⟨{ d with resource := none }, ⟨first, second⟩, ?_⟩
          exact take?_resource.2 ⟨rfl, r, known, by rw [← eq]⟩
      · rw [if_neg operation, if_neg resource]
        have skipped (before : Draft) : before.take? key v = some before := by
          rw [take?, if_neg operation, if_neg resource]
        simp only [skipped, Option.some.injEq, exists_eq_right]

theorem finish_ok {d : Draft} {reading : Reading} : d.finish = .ok reading ↔
    ∃ op r, d.operation = some op ∧ d.resource = some r ∧
      reading = ⟨⟨op, r.resource⟩, r.addressTexts⟩ := by
  unfold finish
  split
  · rename_i none
    simp [none]
  · rename_i none
    simp [none]
  · rename_i op r known found
    simp [known, found, eq_comm]

end Draft

def Envelope.reading? : Envelope → Option Reading
  | .object ms => (Draft.takeAll? ms).bind fun d => d.finish.toOption
  | .pair operation resource =>
      (operation? operation).bind fun op =>
        (Resource.draft? 125 resource).map fun d => ⟨⟨op, d.resource⟩, d.addressTexts⟩

theorem closePair_ok {s r : List UInt8} :
    closePair s = .ok r ↔ ∃ w, White w ∧ s = w ++ 0x5D :: r := by
  constructor
  · intro read
    unfold closePair at read
    split at read
    · cases read
    rename_i start
    obtain ⟨w, white, _, rfl⟩ := skipSpace_cons start
    split at read
    · rename_i bracket
      cases read
      exact ⟨w, white, by rw [bracket]⟩
    split at read
    · split at read
      · cases read
      · split at read <;> cases read
    · cases read
  · rintro ⟨w, white, rfl⟩
    rw [closePair, skipSpace_white white (by decide)]
    rfl

theorem readObject_ok {s r : List UInt8} {reading : Reading} : readObject s = .ok (reading, r) ↔
    ∃ d, members Draft.fields true {} s = .ok (d, r) ∧ d.finish = .ok reading := by
  unfold readObject
  constructor
  · intro read
    split at read
    · cases read
    · rename_i d _ found
      split at read
      · rename_i finished
        cases read
        exact ⟨d, found, finished⟩
      · cases read
  · rintro ⟨d, found, finished⟩
    simp only [found, finished]

theorem readPair_ok {s r : List UInt8} {reading : Reading}
    (read : readPair s = .ok (reading, r)) :
    ∃ t e, EnvelopeSpelling t e ∧ e.reading? = some reading ∧ 0x5B :: s = t ++ r := by
  unfold readPair at read
  split at read
  · cases read
  · cases read
  rename_i first
  split at read
  · cases read
  rename_i operation
  split at read
  · cases read
  · cases read
  rename_i second
  split at read
  · cases read
  rename_i resource
  split at read
  · cases read
  · rename_i closed
    obtain ⟨c, w, separator, white, rfl⟩ := nextItem_entry first
    obtain ⟨v, t, o, inner, spelled, known, rfl⟩ := Draft.understands_operation.sound operation
    obtain ⟨c', w', separator', white', rfl⟩ := nextItem_entry second
    obtain ⟨v', t', q, inner', spelled', known', rfl⟩ :=
      (Resource.understands_resource 125).sound resource
    obtain ⟨u, last, rfl⟩ := closePair_ok.1 closed
    cases read
    refine ⟨_, .pair o q, .pair (.more separator (white.append inner) spelled
      (.more separator' (white'.append inner') spelled' (.close last))), ?_, by simp⟩
    rw [Envelope.reading?, known, Option.bind_some, known']
    rfl

theorem readPair_append {s : List UInt8} {operation resource : Json} {reading : Reading}
    (entries : Entries 0x5D ValueSpelling true s [operation, resource])
    (known : (Envelope.pair operation resource).reading? = some reading) (q : List UInt8) :
    readPair (s ++ q) = .ok (reading, q) := by
  obtain ⟨op, first, known⟩ := Option.bind_eq_some_iff.1 known
  obtain ⟨d, second, rfl⟩ := Option.map_eq_some_iff.1 known
  cases entries with
  | more separator white head tail =>
    have apart := tail.apart (.inl rfl) q
    obtain ⟨b, x, rfl, solid⟩ := solid_of_spelled head
    have start := nextItem_more separator white solid
    have one := Draft.understands_operation.complete .nil head first apart
    cases tail with
    | more separator' white' head' tail' =>
      have apart' := tail'.apart (.inl rfl) q
      obtain ⟨c, y, rfl, solid'⟩ := solid_of_spelled head'
      have start' := nextItem_more separator' white' solid'
      have two := (Resource.understands_resource 125).complete .nil head' second apart'
      cases tail' with
      | @close _ u last =>
        have closed : closePair (u ++ 0x5D :: q) = .ok q := closePair_ok.2 ⟨u, last, rfl⟩
        simp only [List.nil_append, List.cons_append, List.append_assoc] at one two ⊢
        simp only [readPair, start, one, start', Draft.resourceReader, Resource.nestingLimit, two,
          closed]

theorem reader_ok {s r : List UInt8} {reading : Reading} (run : reader.run s = .ok (reading, r)) :
    ∃ w t e, White w ∧ EnvelopeSpelling t e ∧ e.reading? = some reading ∧ s = w ++ (t ++ r) := by
  simp only [reader, Reader.ofFirst] at run
  split at run
  · cases run
  rename_i start
  obtain ⟨w, white, _, rfl⟩ := skipSpace_cons start
  split at run
  · rename_i bracket
    obtain ⟨t, e, spelled, known, split⟩ := readPair_ok run
    exact ⟨w, t, e, white, spelled, known, by rw [bracket, split]⟩
  split at run
  · rename_i brace
    obtain ⟨d, found, finished⟩ := readObject_ok.1 run
    obtain ⟨t, ms, entries, taken, rfl⟩ := members_ok Draft.understands_fields found
    refine ⟨w, _, .object ms, white, .object entries, ?_, by rw [brace]; rfl⟩
    rw [Envelope.reading?, Draft.takeAll?, taken, Option.bind_some, finished]
    rfl
  · cases run

theorem reader_append {w t : List UInt8} {e : Envelope} {reading : Reading} (white : White w)
    (spelled : EnvelopeSpelling t e) (known : e.reading? = some reading) (q : List UInt8) :
    reader.run (w ++ (t ++ q)) = .ok (reading, q) := by
  have brace : isSpace 0x7B = false ∧ (0x7B : UInt8) ≠ 0x5B := by decide
  have bracket : isSpace 0x5B = false := by decide
  cases spelled with
  | object entries =>
      obtain ⟨d, taken, finished⟩ := Option.bind_eq_some_iff.1 known
      have found := members_append Draft.understands_fields entries taken q
      simp only [reader, Reader.ofFirst, List.cons_append, skipSpace_white white brace.1,
        if_neg brace.2, if_pos]
      exact readObject_ok.2 ⟨d, found, toOption_eq_some.1 finished⟩
  | pair entries =>
      simp only [reader, Reader.ofFirst, List.cons_append, skipSpace_white white bracket, if_pos]
      exact readPair_append entries known q

theorem read_ok {payload : List UInt8} {reading : Reading} : read payload = .ok reading ↔
    ∃ e, Spells payload e ∧ e.reading? = some reading := by
  unfold read Resource.readAll
  constructor
  · intro run
    split at run
    · cases run
    · rename_i found
      split at run
      · rename_i rest
        cases run
        obtain ⟨w, t, e, white, spelled, known, rfl⟩ := reader_ok found
        exact ⟨e, ⟨w, t, _, white, spelled, skipSpace_eq_nil.1 rest, rfl⟩, known⟩
      · cases run
  · rintro ⟨e, ⟨w, t, v, white, spelled, rest, rfl⟩, known⟩
    simp only [reader_append white spelled known, skipSpace_eq_nil.2 rest]

theorem depth_pair_le {operation : Json} {ms : List (String × Json)} {op : Operation}
    (known : operation? operation = some op) :
    (Json.list [operation, .object ms]).depth ≤ 127 ↔ (Json.object ms).depth ≤ 126 := by
  obtain ⟨word, known, _⟩ := Option.bind_eq_some_iff.1 known
  have flat := Resource.depth_word? known
  rw [Json.depth, Nat.add_le_add_iff_right (n := 1) (k := 126), depthOfItems_le]
  simp only [List.forall_mem_cons, List.not_mem_nil, false_implies, implies_true, and_true]
  omega

theorem draft?_denotes {operation resource : Json} {c : Change} :
    (∃ op d, operation? operation = some op ∧ Resource.draft? 125 resource = some d ∧
      c = ⟨op, d.resource⟩) ↔
    ∃ ms, resource = .object ms ∧ operation? operation = some c.operation ∧
      Resource.Denotes ms c.resource ∧ (Json.list [operation, .object ms]).depth ≤ 127 := by
  constructor
  · rintro ⟨op, d, known, found, rfl⟩
    cases resource with
    | object ms =>
        obtain ⟨denotes, shallow⟩ := Resource.denotes_of_draft? found
        refine ⟨ms, rfl, known, denotes, (depth_pair_le known).2 ?_⟩
        exact (denotes.shallow_iff (by decide)).1 shallow
    | _ => cases found
  · rintro ⟨ms, rfl, known, denotes, bound⟩
    have shallow := (denotes.shallow_iff (by decide)).2 ((depth_pair_le known).1 bound)
    obtain ⟨d, found, same⟩ := Resource.draft?_of_denotes denotes shallow
    exact ⟨_, d, known, found, by rw [same]⟩

theorem Envelope.reading?_eq_some {e : Envelope} {reading : Reading} :
    e.reading? = some reading ↔ ∃ operation resource op d, e.Holds operation resource ∧
      operation? operation = some op ∧ Resource.draft? 125 resource = some d ∧
      reading = ⟨⟨op, d.resource⟩, d.addressTexts⟩ := by
  cases e with
  | object ms =>
      rw [Envelope.reading?, Option.bind_eq_some_iff]
      constructor
      · rintro ⟨d, taken, finished⟩
        obtain ⟨first, second⟩ := Draft.takeAll?_eq_some.1 taken
        obtain ⟨op, r, known, found, rfl⟩ := Draft.finish_ok.1 (toOption_eq_some.1 finished)
        rw [known] at first
        rw [found] at second
        obtain ⟨operation, one, known⟩ := first
        obtain ⟨resource, other, found⟩ := second
        exact ⟨operation, resource, op, r, ⟨one, other⟩, known, found, rfl⟩
      · rintro ⟨operation, resource, op, r, ⟨one, other⟩, known, found, rfl⟩
        refine ⟨⟨some op, some r⟩, Draft.takeAll?_eq_some.2 ⟨?_, ?_⟩, rfl⟩
        · exact ⟨operation, one, known⟩
        · exact ⟨resource, other, found⟩
  | pair first second =>
      rw [Envelope.reading?, Option.bind_eq_some_iff]
      constructor
      · rintro ⟨op, known, mapped⟩
        obtain ⟨d, found, rfl⟩ := Option.map_eq_some_iff.1 mapped
        exact ⟨first, second, op, d, ⟨rfl, rfl⟩, known, found, rfl⟩
      · rintro ⟨_, _, op, d, ⟨rfl, rfl⟩, known, found, rfl⟩
        exact ⟨op, known, by rw [found]; rfl⟩

theorem Envelope.reading?_denotes {e : Envelope} {c : Change} :
    (∃ reading, e.reading? = some reading ∧ reading.change = c) ↔ e.Denotes c := by
  simp only [Envelope.reading?_eq_some]
  constructor
  · rintro ⟨_, ⟨operation, resource, op, d, holds, known, found, rfl⟩, rfl⟩
    obtain ⟨ms, rfl, denotes⟩ := draft?_denotes.1 ⟨op, d, known, found, rfl⟩
    exact ⟨operation, ms, holds, denotes⟩
  · rintro ⟨operation, ms, holds, denotes⟩
    obtain ⟨op, d, known, found, rfl⟩ := draft?_denotes.2 ⟨ms, rfl, denotes⟩
    exact ⟨_, ⟨operation, _, op, d, holds, known, found, rfl⟩, rfl⟩

theorem judge_ok {reading : Except Json.Fault Reading} {c : Change} : judge reading = .ok c ↔
    (∃ found, reading = .ok found ∧ found.change = c) ∧ Text.allBlank c.resource.name = false := by
  unfold judge
  constructor
  · intro judged
    split at judged
    · cases judged
    · rename_i found
      split at judged
      · cases judged
      · rename_i named
        cases judged
        exact ⟨⟨found, rfl, rfl⟩, by simpa using named⟩
  · rintro ⟨⟨found, rfl, rfl⟩, named⟩
    simp only [named, Bool.false_eq_true, if_false]

theorem decode_ok_iff {p : List UInt8} {c : Change} : decode p = .ok c ↔
    ∃ reading, read p = .ok reading ∧ reading.change = c ∧
      Text.allBlank c.resource.name = false := by
  rw [decode, judge_ok]
  constructor
  · rintro ⟨⟨reading, found, eq⟩, named⟩
    exact ⟨reading, found, eq, named⟩
  · rintro ⟨reading, found, eq, named⟩
    exact ⟨⟨reading, found, eq⟩, named⟩

def IsMalformed (p : List UInt8) : Prop := ∃ fault, decode p = .error (.malformed fault)

theorem isMalformed_iff {p : List UInt8} : IsMalformed p ↔ ∀ reading, read p ≠ .ok reading := by
  unfold IsMalformed decode judge
  cases read p with
  | error fault => simp
  | ok reading =>
      simp only [ne_eq, Except.ok.injEq, forall_eq', iff_false, not_exists]
      intro fault
      split <;> simp

end ClusterDirectory.Change
