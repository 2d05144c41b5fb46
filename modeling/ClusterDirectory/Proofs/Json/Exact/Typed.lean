import ClusterDirectory.Json.Reader.Typed
import ClusterDirectory.Proofs.Json.Exact.Collection

/-!
# The values of one type that are read

What each reader makes of a tree is a partial function, its sense, and the reader accepts exactly
the spellings of the trees where that function is defined: texts, lists, maps with the last value of
each key, values with `null` for the default one, and names out of a fixed choice.
-/

namespace ClusterDirectory

variable {α : Type}

def KeyMap.ofMembers (ms : List (String × α)) : KeyMap α :=
  ms.foldl (fun kept m => kept.insert m.1 m.2) empty

namespace Json

def text? : Json → Option String
  | .text word => some word
  | _ => none

def word? : Json → Option String
  | .text word => some word
  | .object [(word, .null)] => some word
  | _ => none

def listOf? (sense : Json → Option α) : Json → Option (List α)
  | .list vs => vs.mapM sense
  | _ => none

def mapOf? (sense : Json → Option α) : Json → Option (KeyMap α)
  | .object ms => (ms.mapM fun m => (sense m.2).map (m.1, ·)).map KeyMap.ofMembers
  | _ => none

def orNull? [Inhabited α] (sense : Json → Option α) : Json → Option α
  | .null => some default
  | v => sense v

def choice? (choose : String → Except Cause α) (v : Json) : Option α :=
  v.word?.bind fun word => (choose word).toOption

theorem solid_of_spelled {t : List UInt8} {v : Json} (spelled : ValueSpelling t v) :
    ∃ b s, t = b :: s ∧ isSpace b = false ∧ b ≠ 0x5D := by
  cases spelled with
  | number number =>
      obtain ⟨b, s, rfl, starts, _⟩ := readNumberFrom_append number
      exact ⟨b, s, rfl, (startsNumber_solid starts).1⟩
  | text text =>
      obtain ⟨s, rfl, _⟩ := text.quote
      exact ⟨_, s, rfl, by decide⟩
  | _ => exact ⟨_, _, rfl, by decide⟩

theorem Understands.typed {expected : String} {b : UInt8}
    {read : List UInt8 → Except Fault (α × List UInt8)}
    {shorter : ∀ {s a r}, read s = .ok (a, r) → r.length ≤ s.length} {sense : Json → Option α}
    (solid : isSpace b = false)
    (sound : ∀ {s r a}, read s = .ok (a, r) →
      ∃ t v, ValueSpelling t v ∧ sense v = some a ∧ b :: s = t ++ r)
    (complete : ∀ {t q v a}, ValueSpelling t v → sense v = some a →
      ∃ s, t = b :: s ∧ read (s ++ q) = .ok (a, q)) :
    Understands ValueSpelling (.typed expected b read @shorter) sense := by
  refine .ofFirst (fun _ run => ?_) (fun spelled meaning _ => ?_)
  · split at run
    · rename_i first
      rw [first]
      exact sound run
    · cases run
  · obtain ⟨s, rfl, run⟩ := complete spelled meaning
    exact ⟨b, s, rfl, solid, by rw [if_pos rfl, run]⟩

theorem understands_text : Understands ValueSpelling .text text? := by
  refine .typed (by decide) (fun read => ?_) (fun spelled meaning => ?_)
  · obtain ⟨t, text, split⟩ := readText_spelled.1 read
    exact ⟨t, _, .text text, rfl, split⟩
  · cases spelled with
    | text text =>
        cases meaning
        obtain ⟨s, rfl, read⟩ := text.quote
        exact ⟨s, rfl, read _⟩
    | _ => cases meaning

theorem Understands.listOf {item : Reader α} {sense : Json → Option α}
    (understands : Understands ValueSpelling item sense) :
    Understands ValueSpelling (.listOf item) (listOf? sense) := by
  refine .typed (by decide) (fun read => ?_) (fun spelled meaning => ?_)
  · obtain ⟨t, vs, bs, entries, meanings, rfl, rfl⟩ := items_ok understands read
    exact ⟨_, _, .list entries, meanings, rfl⟩
  · cases spelled with
    | list entries =>
        exact ⟨_, rfl, items_append understands solid_of_spelled [] entries meaning _⟩
    | _ => cases meaning

theorem foldlM_lastOfEach (sense : Json → Option α) (ms : List (String × Json)) (kept : KeyMap α) :
    ms.foldlM (fun kept m => (sense m.2).map fun a => insertMember m.1 a kept) kept.members =
      (ms.mapM fun m => (sense m.2).map (m.1, ·)).map fun ns =>
        (ns.foldl (fun kept n => kept.insert n.1 n.2) kept).members := by
  induction ms generalizing kept with
  | nil => rfl
  | cons m ms ih =>
      rw [List.foldlM_cons, List.mapM_cons]
      cases meaning : sense m.2 with
      | none => rfl
      | some a =>
          have next := ih (kept.insert m.1 a)
          cases rest : ms.mapM fun m => (sense m.2).map (m.1, ·) with
          | none =>
              rw [rest] at next
              exact next
          | some ns =>
              rw [rest] at next
              exact next

theorem foldlM_eq_mapOf? (sense : Json → Option α) (ms : List (String × Json)) :
    ms.foldlM (fun kept m => (sense m.2).map fun a => insertMember m.1 a kept) [] =
      (mapOf? sense (.object ms)).map KeyMap.members := by
  rw [mapOf?, Option.map_map]
  exact foldlM_lastOfEach sense ms KeyMap.empty

theorem understands_lastOfEach {item : Reader α} {sense : Json → Option α}
    (understands : Understands ValueSpelling item sense) :
    UnderstandsMembers (lastOfEach item) (fun _ => ValueSpelling)
      (fun kept key v => (sense v).map fun a => insertMember key a kept) where
  known known := by
    cases known
    exact understands.map _
  refused refused := by cases refused

theorem Understands.mapOf {item : Reader α} {sense : Json → Option α}
    (understands : Understands ValueSpelling item sense) :
    Understands ValueSpelling (.mapOf item) (mapOf? sense) := by
  refine .typed (by decide) (fun {s r a} read => ?_) (fun {t q v a} spelled meaning => ?_)
  · split at read
    · cases read
    · rename_i found
      cases read
      obtain ⟨t, ms, entries, taken, rfl⟩ := members_ok (understands_lastOfEach understands) found
      rw [foldlM_eq_mapOf?] at taken
      obtain ⟨m, meaning, rfl⟩ := Option.map_eq_some_iff.1 taken
      exact ⟨_, _, .object entries, meaning, rfl⟩
  · cases spelled with
    | object entries =>
        have run := members_append (understands_lastOfEach understands) entries
          ((foldlM_eq_mapOf? sense _).trans (congrArg (Option.map KeyMap.members) meaning)) q
        refine ⟨_, rfl, ?_⟩
        split
        · rename_i failed
          cases run.symm.trans failed
        · rename_i found
          cases run.symm.trans found
          rfl
    | _ => cases meaning

theorem readLetters_ok {ws s r : List UInt8} : readLetters ws s = .ok r ↔ s = ws ++ r := by
  constructor
  · intro read
    fun_induction readLetters ws s with
    | case1 =>
        cases read
        rfl
    | case2 => cases read
    | case3 w ws s ih => rw [ih read, List.cons_append]
    | case4 => cases read
  · rintro rfl
    induction ws with
    | nil => rfl
    | cons w ws ih => rw [List.cons_append, readLetters, if_pos rfl, ih]

theorem readNull_ok {s r : List UInt8} :
    readNull s = .ok r ↔ 0x6E :: s = [0x6E, 0x75, 0x6C, 0x6C] ++ r := by
  simp [readNull, readLetters_ok]

theorem null_of_spelled {b : UInt8} {s : List UInt8} {v : Json} (spelled : ValueSpelling (b :: s) v)
    (letter : b = 0x6E) : v = .null := by
  subst letter
  generalize bytes : 0x6E :: s = t at spelled
  cases spelled with
  | null => rfl
  | number number =>
      obtain ⟨b, u, rfl, starts, _⟩ := readNumberFrom_append number
      cases bytes
      cases starts
  | text text =>
      obtain ⟨u, rfl, _⟩ := text.quote
      cases bytes
  | _ => cases bytes

theorem Understands.orNull [Inhabited α] {reader : Reader α} {sense : Json → Option α}
    (understands : Understands ValueSpelling reader sense) :
    Understands ValueSpelling (.orNull reader) (orNull? sense) := by
  refine .ofFirst (fun {b s r a} solid run => ?_) (fun {t q v a} spelled meaning apart => ?_)
  · split at run
    · rename_i letter
      obtain ⟨null, rfl⟩ := literal_eq_ok.1 run
      rw [letter]
      exact ⟨_, _, .null, rfl, readNull_ok.1 null⟩
    · rename_i notNull
      obtain ⟨w, t, v, white, spelled, meaning, split⟩ := understands.sound run
      cases w with
      | nil =>
          refine ⟨t, v, spelled, ?_, split⟩
          cases spelled with
          | null =>
              cases split
              exact absurd rfl notNull
          | _ => exact meaning
      | cons c w =>
          cases split
          rw [white _ List.mem_cons_self] at solid
          cases solid
  · obtain ⟨b, s, rfl, solid, _⟩ := solid_of_spelled spelled
    refine ⟨b, s, rfl, solid, ?_⟩
    by_cases letter : b = 0x6E
    · cases null_of_spelled spelled letter
      cases meaning
      generalize bytes : b :: s = t at spelled
      cases spelled
      cases bytes
      rfl
    · rw [if_neg letter]
      have known : sense v = some a := by
        cases spelled with
        | null => exact absurd rfl letter
        | _ => exact meaning
      exact understands.complete .nil spelled known apart

theorem toOption_eq_some {ε α : Type} {x : Except ε α} {a : α} :
    x.toOption = some a ↔ x = .ok a := by
  cases x <;> simp [Except.toOption]

theorem readChoice_ok {choose : String → Except Cause α} {s r : List UInt8} {a : α} :
    readChoice choose s = .ok (a, r) ↔ ∃ t word, TextSpelling t word ∧ choose word = .ok a ∧
      0x22 :: s = t ++ r := by
  constructor
  · intro read
    unfold readChoice at read
    split at read
    · cases read
    rename_i text
    obtain ⟨t, spelled, split⟩ := readText_spelled.1 text
    split at read
    · rename_i chosen
      cases read
      exact ⟨t, _, spelled, chosen, split⟩
    · cases read
  · rintro ⟨t, word, spelled, chosen, split⟩
    simp only [readChoice, readText_spelled.2 ⟨t, spelled, split⟩, chosen]

theorem readBrace_ok {s r : List UInt8} :
    readChoiceObject.readBrace s = .ok r ↔ ∃ w, White w ∧ s = w ++ 0x7D :: r := by
  constructor
  · intro read
    unfold readChoiceObject.readBrace at read
    split at read
    · cases read
    rename_i start
    obtain ⟨w, white, _, rfl⟩ := skipSpace_cons start
    split at read
    · rename_i brace
      cases read
      exact ⟨w, white, by rw [brace]⟩
    · cases read
  · rintro ⟨w, white, rfl⟩
    rw [readChoiceObject.readBrace, skipSpace_white white (by decide)]
    rfl

theorem readContent_ok {s r : List UInt8} :
    readChoiceObject.readContent s = .ok r ↔ ∃ w v, White w ∧ White v ∧
      s = w ++ ([0x6E, 0x75, 0x6C, 0x6C] ++ (v ++ 0x7D :: r)) := by
  constructor
  · intro read
    unfold readChoiceObject.readContent at read
    split at read
    · cases read
    rename_i start
    obtain ⟨w, white, _, rfl⟩ := skipSpace_cons start
    split at read
    · rename_i letter
      split at read
      · cases read
      · rename_i null
        obtain ⟨v, after, rfl⟩ := readBrace_ok.1 read
        exact ⟨w, v, white, after, by rw [letter, readNull_ok.1 null]⟩
    · cases read
  · rintro ⟨w, v, white, after, rfl⟩
    have null : readNull ([0x75, 0x6C, 0x6C] ++ (v ++ 0x7D :: r)) = .ok (v ++ 0x7D :: r) :=
      readNull_ok.2 rfl
    have brace : readChoiceObject.readBrace (v ++ 0x7D :: r) = .ok r :=
      readBrace_ok.2 ⟨v, after, rfl⟩
    rw [List.cons_append, readChoiceObject.readContent, skipSpace_white white (by decide)]
    simp only [if_pos, null, brace]

theorem readChoiceObject_ok {choose : String → Except Cause α} {s r : List UInt8} {a : α}
    (read : readChoiceObject choose s = .ok (a, r)) :
    ∃ t word, ValueSpelling t (.object [(word, .null)]) ∧ choose word = .ok a ∧
      0x7B :: s = t ++ r := by
  unfold readChoiceObject at read
  split at read
  · cases read
  rename_i start
  obtain ⟨w, white, _, rfl⟩ := skipSpace_cons start
  split at read
  · rename_i quote
    split at read
    · cases read
    rename_i choice
    obtain ⟨t, word, spelled, chosen, rest⟩ := readChoice_ok.1 choice
    split at read
    · cases read
    · rename_i colon
      obtain ⟨content, rfl⟩ := literal_eq_ok.1 read
      obtain ⟨u, before, rfl⟩ := readColon_ok.1 colon
      obtain ⟨v, x, after, last, rfl⟩ := readContent_ok.1 content
      refine ⟨_, word, .object (.more rfl white (.mk spelled before after .null) (.close last)),
        chosen, ?_⟩
      rw [quote, rest]
      simp
  · split at read <;> cases read

theorem readChoiceObject_append {choose : String → Except Cause α} {t : List UInt8} {word : String}
    {a : α} (spelled : ValueSpelling t (.object [(word, .null)])) (chosen : choose word = .ok a)
    (q : List UInt8) :
    ∃ s, t = 0x7B :: s ∧ readChoiceObject choose (s ++ q) = .ok (a, q) := by
  cases spelled with
  | object entries =>
    refine ⟨_, rfl, ?_⟩
    cases entries with
    | @more _ _ z _ _ _ _ separator white head tail =>
      cases separator
      obtain @⟨s, v, w, u, _, _, named, before, inner, ⟨⟩⟩ := head
      cases tail with
      | @close _ x last =>
        obtain ⟨y, rfl, _⟩ := named.quote
        let rest := w ++ ([0x6E, 0x75, 0x6C, 0x6C] ++ (x ++ 0x7D :: q))
        have choice : readChoice choose (y ++ (v ++ 0x3A :: rest)) = .ok (a, v ++ 0x3A :: rest) :=
          readChoice_ok.2 ⟨_, word, named, chosen, rfl⟩
        have colon : readColon (v ++ 0x3A :: rest) = .ok rest := readColon_ok.2 ⟨v, before, rfl⟩
        have content : readChoiceObject.readContent rest = .ok q :=
          readContent_ok.2 ⟨w, x, inner, last, rfl⟩
        have run : readChoiceObject choose (z ++ 0x22 :: (y ++ (v ++ 0x3A :: rest))) =
            .ok (a, q) := by
          rw [readChoiceObject, skipSpace_white white (by decide)]
          simp only [if_pos, choice, colon, content, literal]
        simpa [rest] using run

theorem Understands.choice (choose : String → Except Cause α) :
    Understands ValueSpelling (.choice choose) (choice? choose) := by
  refine .ofFirst (fun _ run => ?_) (fun {t q v a} spelled meaning _ => ?_)
  · split at run
    · rename_i quote
      obtain ⟨t, word, spelled, chosen, split⟩ := readChoice_ok.1 run
      refine ⟨t, _, .text spelled, ?_, by rw [quote, split]⟩
      rw [choice?, word?, Option.bind_some, chosen]
      rfl
    split at run
    · rename_i brace
      obtain ⟨t, word, spelled, chosen, split⟩ := readChoiceObject_ok run
      refine ⟨t, _, spelled, ?_, by rw [brace, split]⟩
      rw [choice?, word?, Option.bind_some, chosen]
      rfl
    · cases run
  · obtain ⟨word, known, meaning⟩ := Option.bind_eq_some_iff.1 meaning
    have chosen := toOption_eq_some.1 meaning
    unfold word? at known
    split at known
    · cases known
      cases spelled with
      | text text =>
          obtain ⟨s, rfl, _⟩ := text.quote
          refine ⟨_, s, rfl, by decide, ?_⟩
          rw [if_pos rfl]
          exact readChoice_ok.2 ⟨_, word, text, chosen, rfl⟩
    · cases known
      obtain ⟨s, rfl, run⟩ := readChoiceObject_append spelled chosen q
      exact ⟨_, s, rfl, by decide, by rw [if_neg (by decide), if_pos rfl, run]⟩
    · cases known

end Json

end ClusterDirectory
