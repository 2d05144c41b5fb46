import ClusterDirectory.Json.Reader.Collection
import ClusterDirectory.Proofs.Json.Exact.Number
import ClusterDirectory.Proofs.Json.Exact.Text
import ClusterDirectory.Proofs.Json.Written
import Mathlib.Data.List.TakeWhile

/-!
# The lists and objects that are read

A reader understands a spelling in a sense when it accepts exactly the bytes of the values that have
the sense, in front of anything that does not go on with a number, and gives what they mean
(`Understands`). A list is then understood item by item (`items_ok`, `items_append`), and an object
member by member, each taken into the state that the members before it have left (`members_ok`,
`members_append`).
-/

namespace ClusterDirectory.Json

variable {α β σ : Type}

theorem White.nil : White [] := fun b member => by cases member

theorem White.append {v w : List UInt8} (before : White v) (after : White w) : White (v ++ w) :=
  List.forall_mem_append.2 ⟨before, after⟩

theorem skipSpace_append {w : List UInt8} (white : White w) (s : List UInt8) :
    skipSpace (w ++ s) = skipSpace s :=
  List.dropWhile_append_of_pos white

theorem skipSpace_white {w : List UInt8} (white : White w) {b : UInt8} (solid : isSpace b = false)
    (s : List UInt8) : skipSpace (w ++ b :: s) = b :: s := by
  rw [skipSpace_append white, skipSpace_solid solid]

theorem skipSpace_eq_nil {s : List UInt8} : skipSpace s = [] ↔ White s :=
  List.dropWhile_eq_nil_iff

theorem skipSpace_cons {b : UInt8} {s r : List UInt8} (skipped : skipSpace s = b :: r) :
    ∃ w, White w ∧ isSpace b = false ∧ s = w ++ b :: r := by
  refine ⟨s.takeWhile isSpace, List.all_eq_true.1 List.all_takeWhile, ?_, ?_⟩
  · have stopped := List.head?_dropWhile_not isSpace s
    rw [← skipSpace, skipped] at stopped
    exact stopped
  · rw [← skipped]
    exact List.takeWhile_append_dropWhile.symm

theorem White.apart {w q : List UInt8} (white : White w) (apart : Apart q) : Apart (w ++ q) := by
  cases w with
  | nil => exact apart
  | cons b w =>
      rintro _ ⟨⟩
      have space := white b List.mem_cons_self
      simp only [isSpace, Bool.or_eq_true, beq_iff_eq] at space
      rcases space with ((rfl | rfl) | rfl) | rfl <;> decide

theorem Apart.stop {b : UInt8} (stop : b = 0x2C ∨ b = 0x5D ∨ b = 0x7D) (s : List UInt8) :
    Apart (b :: s) := by
  rintro _ ⟨⟩
  rcases stop with rfl | rfl | rfl <;> decide

theorem Entries.first {closing : UInt8} {entry : Spelling α} {s r : List UInt8} {a : α}
    {as : List α} (head : entry s a) (rest : Entries closing entry false r as) :
    Entries closing entry true (s ++ r) (a :: as) := by
  have start : Separator true [] := rfl
  exact .more start .nil head rest

theorem Entries.next {closing : UInt8} {entry : Spelling α} {w s r : List UInt8} {a : α}
    {as : List α} (white : White w) (head : entry s a) (rest : Entries closing entry false r as) :
    Entries closing entry false (0x2C :: (w ++ (s ++ r))) (a :: as) := by
  have comma : Separator false [0x2C] := ⟨[], .nil, rfl⟩
  exact .more comma white head rest

structure Understands (spelling : Spelling β) (reader : Reader α) (sense : β → Option α) :
    Prop where
  sound : ∀ {s r : List UInt8} {a : α}, reader.run s = .ok (a, r) →
    ∃ w t v, White w ∧ spelling t v ∧ sense v = some a ∧ s = w ++ (t ++ r)
  complete : ∀ {w t q : List UInt8} {v : β} {a : α}, White w → spelling t v →
    sense v = some a → Apart q → reader.run (w ++ (t ++ q)) = .ok (a, q)

theorem Understands.ofFirst {spelling : Spelling β} {sense : β → Option α}
    {read : UInt8 → List UInt8 → Except Fault (α × List UInt8)}
    {shorter : ∀ {b s a r}, read b s = .ok (a, r) → r.length ≤ s.length}
    (sound : ∀ {b s r a}, isSpace b = false → read b s = .ok (a, r) →
      ∃ t v, spelling t v ∧ sense v = some a ∧ b :: s = t ++ r)
    (complete : ∀ {t q v a}, spelling t v → sense v = some a → Apart q →
      ∃ b s, t = b :: s ∧ isSpace b = false ∧ read b (s ++ q) = .ok (a, q)) :
    Understands spelling (.ofFirst read @shorter) sense where
  sound {s r a} run := by
    simp only [Reader.ofFirst] at run
    split at run
    · cases run
    · rename_i first
      obtain ⟨w, white, solid, rfl⟩ := skipSpace_cons first
      obtain ⟨t, v, spelled, meaning, rest⟩ := sound solid run
      exact ⟨w, t, v, white, spelled, meaning, by rw [rest]⟩
  complete {w t q v a} white spelled meaning apart := by
    obtain ⟨b, s, rfl, solid, run⟩ := complete spelled meaning apart
    simp only [Reader.ofFirst, List.cons_append, skipSpace_white white solid, run]

theorem Understands.map {spelling : Spelling β} {reader : Reader α} {sense : β → Option α}
    (understands : Understands spelling reader sense) (f : α → σ) :
    Understands spelling (reader.map f) (fun v => (sense v).map f) where
  sound run := by
    obtain ⟨⟨a, t⟩, read, eq⟩ := bind_eq_ok.1 run
    cases eq
    obtain ⟨w, t, v, white, spelled, meaning, split⟩ := understands.sound read
    exact ⟨w, t, v, white, spelled, by rw [meaning]; rfl, split⟩
  complete white spelled meaning apart := by
    obtain ⟨a, known, rfl⟩ := Option.map_eq_some_iff.1 meaning
    simp only [Reader.map, understands.complete white spelled known apart]
    rfl

theorem Entries.apart {closing : UInt8} {entry : Spelling β} {t : List UInt8} {vs : List β}
    (entries : Entries closing entry false t vs) (closes : closing = 0x5D ∨ closing = 0x7D)
    (q : List UInt8) : Apart (t ++ q) := by
  cases entries with
  | close white =>
      rw [List.append_assoc]
      exact white.apart (.stop (.inr closes) q)
  | more separator =>
      obtain ⟨w, white, rfl⟩ := separator
      simp only [List.append_assoc, List.singleton_append]
      exact white.apart (.stop (.inl rfl) _)

theorem nextItem_done {first : Bool} {s r : List UInt8} (next : nextItem first s = .ok (.done r)) :
    ∃ w, White w ∧ s = w ++ 0x5D :: r := by
  unfold nextItem at next
  split at next
  · cases next
  rename_i start
  obtain ⟨w, white, _, rfl⟩ := skipSpace_cons start
  split at next
  · rename_i bracket
    cases next
    exact ⟨w, white, by rw [bracket]⟩
  split at next
  · cases next
  split at next
  · split at next
    · cases next
    split at next <;> cases next
  · cases next

theorem nextItem_entry {first : Bool} {s t : List UInt8}
    (next : nextItem first s = .ok (.entry t)) :
    ∃ c w, Separator first c ∧ White w ∧ s = c ++ (w ++ t) := by
  unfold nextItem at next
  split at next
  · cases next
  rename_i start
  obtain ⟨w, white, _, rfl⟩ := skipSpace_cons start
  split at next
  · cases next
  split at next
  · rename_i isFirst
    cases next
    exact ⟨[], w, by rw [Separator, if_pos isFirst], white, rfl⟩
  rename_i notFirst
  split at next
  · rename_i comma
    split at next
    · cases next
    rename_i second
    obtain ⟨v, inner, _, rfl⟩ := skipSpace_cons second
    split at next
    · cases next
    · cases next
      refine ⟨w ++ [0x2C], v, ?_, inner, by rw [comma]; simp⟩
      rw [Separator, if_neg notFirst]
      exact ⟨w, white, rfl⟩
  · cases next

theorem nextItem_close {w : List UInt8} (white : White w) (first : Bool) (q : List UInt8) :
    nextItem first (w ++ 0x5D :: q) = .ok (.done q) := by
  rw [nextItem, skipSpace_white white (by decide)]
  rfl

theorem nextItem_more {first : Bool} {c w : List UInt8} (separator : Separator first c)
    (white : White w) {b : UInt8} (solid : isSpace b = false ∧ b ≠ 0x5D) (s : List UInt8) :
    nextItem first (c ++ (w ++ b :: s)) = .ok (.entry (b :: s)) := by
  cases first with
  | true =>
      cases separator
      simp only [List.nil_append, nextItem, skipSpace_white white solid.1, if_neg solid.2, if_pos]
  | false =>
      obtain ⟨v, before, rfl⟩ := separator
      have comma : isSpace 0x2C = false ∧ (0x2C : UInt8) ≠ 0x5D := by decide
      simp only [List.append_assoc, List.singleton_append, nextItem, skipSpace_white before comma.1,
        if_neg comma.2, Bool.false_eq_true, if_false, if_true, skipSpace_white white solid.1,
        if_neg solid.2]

theorem items_ok {spelling : Spelling β} {item : Reader α} {sense : β → Option α}
    (understands : Understands spelling item sense) {before as : List α} {s r : List UInt8}
    (read : items item before s = .ok (as, r)) :
    ∃ t vs bs, Entries 0x5D spelling before.isEmpty t vs ∧ vs.mapM sense = some bs ∧
      as = before.reverse ++ bs ∧ s = t ++ r := by
  fun_induction items item before s with
  | case1 => cases read
  | case2 before s r next =>
      cases read
      obtain ⟨w, white, rfl⟩ := nextItem_done next
      exact ⟨_, [], [], .close white, rfl, by rw [List.append_nil], by simp⟩
  | case3 => cases read
  | case4 before s t next a r one ih =>
      obtain ⟨c, v, separator, outer, rfl⟩ := nextItem_entry next
      obtain ⟨w, u, b, white, spelled, meaning, rfl⟩ := understands.sound one
      obtain ⟨x, vs, bs, entries, meanings, rfl, rfl⟩ := ih read
      refine ⟨_, b :: vs, a :: bs, .more separator (outer.append white) spelled entries, ?_,
        by simp, by simp⟩
      rw [List.mapM_cons, meaning, meanings]
      rfl

theorem items_append {spelling : Spelling β} {item : Reader α} {sense : β → Option α}
    (understands : Understands spelling item sense)
    (starts : ∀ {t v}, spelling t v → ∃ b s, t = b :: s ∧ isSpace b = false ∧ b ≠ 0x5D)
    (before : List α) {bs : List α} {t : List UInt8} {vs : List β}
    (entries : Entries 0x5D spelling before.isEmpty t vs) (meanings : vs.mapM sense = some bs)
    (q : List UInt8) : items item before (t ++ q) = .ok (before.reverse ++ bs, q) := by
  generalize first : before.isEmpty = isFirst at entries
  induction entries generalizing before bs with
  | close white =>
      rw [List.mapM_nil] at meanings
      cases meanings
      rw [List.append_assoc, List.append_nil, List.singleton_append]
      exact items_done (nextItem_close white _ q)
  | @more isFirst c w s t v vs separator white head tail ih =>
      obtain ⟨b, u, rfl, solid⟩ := starts head
      rw [List.mapM_cons] at meanings
      obtain ⟨a, meaning, meanings⟩ := Option.bind_eq_some_iff.1 meanings
      obtain ⟨cs, rest, eq⟩ := Option.bind_eq_some_iff.1 meanings
      cases eq
      have one := understands.complete .nil head meaning (tail.apart (.inl rfl) q)
      have more := ih (a :: before) rest rfl
      rw [List.nil_append] at one
      simp only [List.append_assoc, List.cons_append] at one ⊢
      rw [items_entry (first ▸ nextItem_more separator white solid _) one, more]
      simp

theorem nextKey_done {first : Bool} {s r : List UInt8} (next : nextKey first s = .ok (.done r)) :
    ∃ w, White w ∧ s = w ++ 0x7D :: r := by
  unfold nextKey at next
  split at next
  · cases next
  rename_i start
  obtain ⟨w, white, _, rfl⟩ := skipSpace_cons start
  split at next
  · rename_i brace
    cases next
    exact ⟨w, white, by rw [brace]⟩
  split at next
  · split at next <;> cases next
  split at next
  · split at next
    · cases next
    split at next
    · cases next
    split at next <;> cases next
  · cases next

theorem nextKey_entry {first : Bool} {s t : List UInt8} (next : nextKey first s = .ok (.entry t)) :
    ∃ c w, Separator first c ∧ White w ∧ s = c ++ (w ++ 0x22 :: t) := by
  unfold nextKey at next
  split at next
  · cases next
  rename_i start
  obtain ⟨w, white, _, rfl⟩ := skipSpace_cons start
  split at next
  · cases next
  split at next
  · rename_i isFirst
    split at next
    · rename_i quote
      cases next
      exact ⟨[], w, by rw [Separator, if_pos isFirst], white, by rw [quote]; rfl⟩
    · cases next
  rename_i notFirst
  split at next
  · rename_i comma
    split at next
    · cases next
    rename_i second
    obtain ⟨v, inner, _, rfl⟩ := skipSpace_cons second
    split at next
    · rename_i quote
      cases next
      refine ⟨w ++ [0x2C], v, ?_, inner, by rw [comma, quote]; simp⟩
      rw [Separator, if_neg notFirst]
      exact ⟨w, white, rfl⟩
    split at next <;> cases next
  · cases next

theorem nextKey_close {w : List UInt8} (white : White w) (first : Bool) (q : List UInt8) :
    nextKey first (w ++ 0x7D :: q) = .ok (.done q) := by
  rw [nextKey, skipSpace_white white (by decide)]
  rfl

theorem nextKey_more {first : Bool} {c w : List UInt8} (separator : Separator first c)
    (white : White w) (s : List UInt8) :
    nextKey first (c ++ (w ++ 0x22 :: s)) = .ok (.entry s) := by
  have quote : isSpace 0x22 = false ∧ (0x22 : UInt8) ≠ 0x7D := by decide
  cases first with
  | true =>
      cases separator
      simp only [List.nil_append, nextKey, skipSpace_white white quote.1, if_neg quote.2, if_pos]
  | false =>
      obtain ⟨v, before, rfl⟩ := separator
      have comma : isSpace 0x2C = false ∧ (0x2C : UInt8) ≠ 0x7D := by decide
      simp only [List.append_assoc, List.singleton_append, nextKey, skipSpace_white before comma.1,
        if_neg comma.2, Bool.false_eq_true, if_false, if_true, skipSpace_white white quote.1]

theorem readColon_ok {s r : List UInt8} :
    readColon s = .ok r ↔ ∃ w, White w ∧ s = w ++ 0x3A :: r := by
  constructor
  · intro read
    unfold readColon at read
    split at read
    · cases read
    rename_i start
    obtain ⟨w, white, _, rfl⟩ := skipSpace_cons start
    split at read
    · rename_i colon
      cases read
      exact ⟨w, white, by rw [colon]⟩
    · cases read
  · rintro ⟨w, white, rfl⟩
    rw [readColon, skipSpace_white white (by decide)]
    rfl

theorem readKey_spelled {fields : Fields σ} {state : σ} {s q : List UInt8} {value : Reader σ} :
    readKey fields state s = .ok (value, q) ↔ ∃ t key w, TextSpelling t key ∧ White w ∧
      fields.field state key = .ok value ∧ 0x22 :: s = t ++ (w ++ 0x3A :: q) := by
  constructor
  · intro read
    unfold readKey at read
    split at read
    · cases read
    rename_i word
    obtain ⟨t, spelled, split⟩ := readText_spelled.1 word
    split at read
    · cases read
    rename_i known
    split at read
    · cases read
    · rename_i colon
      obtain ⟨w, white, rfl⟩ := readColon_ok.1 colon
      cases read
      exact ⟨t, _, w, spelled, white, known, split⟩
  · rintro ⟨t, key, w, spelled, white, known, split⟩
    have word := readText_spelled.2 ⟨t, spelled, split⟩
    have colon : readColon (w ++ 0x3A :: q) = .ok q := readColon_ok.2 ⟨w, white, rfl⟩
    simp only [readKey, word, known, colon]

/-- The members of an object are each understood by the reader that their key gets, in the sense in
which they are taken into the state, and a key is refused only if no value could be taken. -/
structure UnderstandsMembers (fields : Fields σ) (value : String → Spelling β)
    (take : σ → String → β → Option σ) : Prop where
  known : ∀ {state : σ} {key : String} {reader : Reader σ},
    fields.field state key = .ok reader → Understands (value key) reader (take state key)
  refused : ∀ {state : σ} {key : String} {cause : Cause} {v : β},
    fields.field state key = .error cause → take state key v = none

theorem members_ok {fields : Fields σ} {value : String → Spelling β}
    {take : σ → String → β → Option σ} (understands : UnderstandsMembers fields value take)
    {first : Bool} {state last : σ} {s r : List UInt8}
    (read : members fields first state s = .ok (last, r)) :
    ∃ t ms, Entries 0x7D (MemberSpelling TextSpelling value) first t ms ∧
      ms.foldlM (fun state m => take state m.1 m.2) state = some last ∧ s = t ++ r := by
  fun_induction members fields first state s with
  | case1 => cases read
  | case2 first state s r next =>
      cases read
      obtain ⟨w, white, rfl⟩ := nextKey_done next
      exact ⟨_, [], .close white, rfl, by simp⟩
  | case3 => cases read
  | case4 => cases read
  | case5 first state s t next reader q key after r one ih =>
      obtain ⟨c, w, separator, white, rfl⟩ := nextKey_entry next
      obtain ⟨u, name, v, named, before, known, rest⟩ := readKey_spelled.1 key
      obtain ⟨x, y, b, inner, spelled, meaning, rfl⟩ := (understands.known known).sound one
      obtain ⟨z, ms, entries, meanings, rfl⟩ := ih read
      have member := MemberSpelling.mk named before inner spelled
      refine ⟨_, (name, b) :: ms, .more separator white member entries, ?_, by rw [rest]; simp⟩
      rw [List.foldlM_cons, meaning]
      exact meanings

theorem members_append {fields : Fields σ} {value : String → Spelling β}
    {take : σ → String → β → Option σ} (understands : UnderstandsMembers fields value take)
    {first : Bool} {state last : σ} {t : List UInt8} {ms : List (String × β)}
    (entries : Entries 0x7D (MemberSpelling TextSpelling value) first t ms)
    (meanings : ms.foldlM (fun state m => take state m.1 m.2) state = some last)
    (q : List UInt8) : members fields first state (t ++ q) = .ok (last, q) := by
  induction entries generalizing state with
  | close white =>
      cases meanings
      rw [List.append_assoc, List.singleton_append]
      exact members_done (nextKey_close white _ q)
  | @more first c w s t m ms separator white head tail ih =>
      obtain @⟨s, v, y, u, name, b, named, before, inner, spelled⟩ := head
      obtain ⟨x, rfl, _⟩ := named.quote
      rw [List.foldlM_cons] at meanings
      obtain ⟨next, meaning, meanings⟩ := Option.bind_eq_some_iff.1 meanings
      cases known : fields.field state name with
      | error cause =>
          rw [understands.refused known] at meaning
          cases meaning
      | ok reader =>
          have one := (understands.known known).complete inner spelled meaning
            (tail.apart (.inr rfl) q)
          have key : readKey fields state (x ++ (v ++ 0x3A :: (y ++ (u ++ (t ++ q))))) =
              .ok (reader, y ++ (u ++ (t ++ q))) :=
            readKey_spelled.2 ⟨_, _, _, named, before, known, rfl⟩
          simp only [List.append_assoc, List.cons_append]
          rw [members_entry (nextKey_more separator white _) key one]
          exact ih meanings

end ClusterDirectory.Json
