import ClusterDirectory.Json.Reader.Skip
import ClusterDirectory.Proofs.Json.Exact.NumberForm
import ClusterDirectory.Proofs.Json.Exact.Typed

/-!
# The values that are passed over

What is passed over is what has a spelling in the loose grammar (`understands_skipped`). The walk
keeps the brackets that stand open in a list and not on the call stack, so it is compared with the
grammar by what those brackets still demand of the bytes (`Demanded`).
-/

namespace ClusterDirectory.Json

variable {α : Type}

def Bracket.opening : Bracket → UInt8
  | .square => 0x5B
  | .brace => 0x7B

def Enclosed (top : Bracket) (first : Bool) (s : List UInt8) : Prop :=
  match top with
  | .square => ∃ vs, Entries 0x5D SkippedSpelling first s vs
  | .brace => ∃ ms, Entries 0x7D (MemberSpelling LooseText fun _ => SkippedSpelling) first s ms

def KeySpelling (top : Bracket) (s : List UInt8) : Prop :=
  match top with
  | .square => s = []
  | .brace => ∃ t w, LooseText t () ∧ White w ∧ s = t ++ (w ++ [0x3A])

theorem SkippedSpelling.enclosed {top : Bracket} {s : List UInt8}
    (enclosed : Enclosed top Bool.true s) : SkippedSpelling (top.opening :: s) () := by
  cases top with
  | square =>
      obtain ⟨vs, entries⟩ := enclosed
      exact .list entries
  | brace =>
      obtain ⟨ms, entries⟩ := enclosed
      exact .object entries

theorem Enclosed.close (top : Bracket) (first : Bool) {w : List UInt8} (white : White w) :
    Enclosed top first (w ++ [top.closing]) := by
  cases top with
  | square => exact ⟨[], .close white⟩
  | brace => exact ⟨[], .close white⟩

theorem Enclosed.more {top : Bracket} {first : Bool} {c w k v t s : List UInt8}
    (separator : Separator first c) (white : White w) (key : KeySpelling top k) (inner : White v)
    (value : SkippedSpelling t ()) (tail : Enclosed top false s) :
    Enclosed top first (c ++ (w ++ (k ++ (v ++ (t ++ s))))) := by
  cases top with
  | square =>
      obtain ⟨vs, entries⟩ := tail
      cases key
      refine ⟨() :: vs, ?_⟩
      rw [List.nil_append, ← List.append_assoc w]
      exact .more separator (white.append inner) value entries
  | brace =>
      obtain ⟨ms, entries⟩ := tail
      obtain ⟨u, x, named, before, rfl⟩ := key
      refine ⟨((), ()) :: ms, ?_⟩
      have rest := Entries.more separator white (.mk named before inner value) entries
      simpa using rest

theorem Enclosed.cases {top : Bracket} {first : Bool} {s : List UInt8}
    (enclosed : Enclosed top first s) : (∃ w, White w ∧ s = w ++ [top.closing]) ∨
      ∃ c w k v t r, Separator first c ∧ White w ∧ KeySpelling top k ∧ White v ∧
        SkippedSpelling t () ∧ Enclosed top false r ∧ s = c ++ (w ++ (k ++ (v ++ (t ++ r)))) := by
  cases top with
  | square =>
      obtain ⟨vs, entries⟩ := enclosed
      cases entries with
      | close white => exact .inl ⟨_, white, rfl⟩
      | more separator white value tail =>
          exact .inr ⟨_, _, [], [], _, _, separator, white, rfl, .nil,
            value, ⟨_, tail⟩, rfl⟩
  | brace =>
      obtain ⟨ms, entries⟩ := enclosed
      cases entries with
      | close white => exact .inl ⟨_, white, rfl⟩
      | more separator white member tail =>
          obtain ⟨named, before, inner, value⟩ := member
          exact .inr ⟨_, _, _, _, _, _, separator, white, ⟨_, _, named, before, rfl⟩, inner, value,
            ⟨_, tail⟩, by simp⟩

def Remainder : List Bracket → List UInt8 → Prop
  | [], s => s = []
  | top :: stack, s => ∃ t r, Enclosed top false t ∧ Remainder stack r ∧ s = t ++ r

/-- The bytes that end the walk at a place, with the brackets of the stack open. -/
def Demanded : Place → List Bracket → List UInt8 → Prop
  | .value, stack, s => ∃ w t r, White w ∧ SkippedSpelling t () ∧ Remainder stack r ∧
      s = w ++ (t ++ r)
  | .rest, stack, s => Remainder stack s
  | .entry, [], s => s = []
  | .entry, top :: stack, s => ∃ t r, Enclosed top true t ∧ Remainder stack r ∧ s = t ++ r

theorem passValue_ok {stack rest : List Bracket} {place : Place} {s r : List UInt8}
    (passed : passValue stack s = .ok (place, rest, r)) : ∃ w, White w ∧
      ((∃ t, SkippedSpelling t () ∧ place = .rest ∧ rest = stack ∧ s = w ++ (t ++ r)) ∨
        ∃ top, place = .entry ∧ rest = top :: stack ∧ s = w ++ top.opening :: r) := by
  have scalar {read : Except Fault (List UInt8)} (found : passScalar stack read =
      .ok (place, rest, r)) : read = .ok r ∧ place = .rest ∧ rest = stack := by
    unfold passScalar at found
    split at found
    · cases found
    · cases found
      exact ⟨rfl, rfl, rfl⟩
  unfold passValue at passed
  split at passed
  · cases passed
  rename_i start
  obtain ⟨w, white, _, rfl⟩ := skipSpace_cons start
  refine ⟨w, white, ?_⟩
  split at passed
  · rename_i letter
    obtain ⟨read, place, rest⟩ := scalar passed
    exact .inl ⟨_, .null, place, rest, by rw [letter, readNull_ok.1 read]⟩
  split at passed
  · rename_i letter
    obtain ⟨read, place, rest⟩ := scalar passed
    exact .inl ⟨_, .true, place, rest, by rw [letter, readLetters_ok.1 read]; rfl⟩
  split at passed
  · rename_i letter
    obtain ⟨read, place, rest⟩ := scalar passed
    exact .inl ⟨_, .false, place, rest, by rw [letter, readLetters_ok.1 read]; rfl⟩
  split at passed
  · rename_i minus
    obtain ⟨read, place, rest⟩ := scalar passed
    obtain ⟨t, form, rfl⟩ := passNumber_ok read
    exact .inl ⟨_, .negative form, place, rest, by rw [minus]; rfl⟩
  split at passed
  · obtain ⟨read, place, rest⟩ := scalar passed
    obtain ⟨t, form, bytes⟩ := passNumber_ok read
    exact .inl ⟨_, .number form, place, rest, by rw [bytes]⟩
  split at passed
  · rename_i quote
    obtain ⟨read, place, rest⟩ := scalar passed
    obtain ⟨t, text, bytes⟩ := passText_spelled.1 read
    exact .inl ⟨_, .text text, place, rest, by rw [quote, bytes]⟩
  split at passed
  · rename_i bracket
    cases passed
    exact .inr ⟨.square, rfl, rfl, by rw [bracket]; rfl⟩
  split at passed
  · rename_i brace
    cases passed
    exact .inr ⟨.brace, rfl, rfl, by rw [brace]; rfl⟩
  · cases passed

theorem passKey_ok {top : Bracket} {s r : List UInt8} (passed : passKey top s = .ok r) :
    ∃ w k, White w ∧ KeySpelling top k ∧ s = w ++ (k ++ r) := by
  unfold passKey at passed
  split at passed
  · cases passed
    exact ⟨[], [], .nil, rfl, rfl⟩
  · split at passed
    · cases passed
    rename_i start
    obtain ⟨w, white, _, rfl⟩ := skipSpace_cons start
    split at passed
    · rename_i quote
      split at passed
      · cases passed
      · rename_i text
        obtain ⟨t, spelled, bytes⟩ := passText_spelled.1 text
        obtain ⟨v, before, rfl⟩ := readColon_ok.1 passed
        exact ⟨w, _, white, ⟨t, v, spelled, before, rfl⟩, by rw [quote, bytes]; simp⟩
    · cases passed

theorem passEntry_ok {top : Bracket} {stack rest : List Bracket} {place : Place} {s r : List UInt8}
    (passed : passEntry top stack s = .ok (place, rest, r)) :
    (∃ w, White w ∧ place = .rest ∧ rest = stack ∧ s = w ++ top.closing :: r) ∨
      ∃ w k, White w ∧ KeySpelling top k ∧ place = .value ∧ rest = top :: stack ∧
        s = w ++ (k ++ r) := by
  unfold passEntry at passed
  split at passed
  · cases passed
  rename_i start
  obtain ⟨w, white, _, rfl⟩ := skipSpace_cons start
  split at passed
  · rename_i closing
    cases passed
    exact .inl ⟨w, white, rfl, rfl, by rw [closing]⟩
  split at passed
  · cases passed
  · rename_i passed'
    obtain ⟨v, k, inner, key, bytes⟩ := passKey_ok passed'
    cases passed
    exact .inr ⟨w ++ v, k, white.append inner, key, rfl, rfl,
      by rw [bytes, List.append_assoc]⟩

theorem passRest_ok {top : Bracket} {stack rest : List Bracket} {place : Place} {s r : List UInt8}
    (passed : passRest top stack s = .ok (place, rest, r)) :
    (∃ w, White w ∧ place = .rest ∧ rest = stack ∧ s = w ++ top.closing :: r) ∨
      ∃ c w k, Separator false c ∧ White w ∧ KeySpelling top k ∧ place = .value ∧
        rest = top :: stack ∧ s = c ++ (w ++ (k ++ r)) := by
  unfold passRest at passed
  split at passed
  · cases passed
  rename_i start
  obtain ⟨w, white, _, rfl⟩ := skipSpace_cons start
  split at passed
  · rename_i comma
    split at passed
    · cases passed
    · rename_i found
      obtain ⟨v, k, inner, key, bytes⟩ := passKey_ok found
      cases passed
      exact .inr ⟨w ++ [0x2C], v, k, ⟨w, white, rfl⟩, inner, key, rfl, rfl,
        by rw [comma, bytes]; simp⟩
  split at passed
  · rename_i closing
    cases passed
    exact .inl ⟨w, white, rfl, rfl, by rw [closing]⟩
  · cases passed

theorem pass_ok {place : Place} {stack : List Bracket} {s r : List UInt8}
    (passed : pass place stack s = .ok r) : ∃ t, Demanded place stack t ∧ s = t ++ r := by
  -- from the last token back: a token and what is demanded after it make what was demanded before
  fun_induction pass place stack s with
  | case1 => cases passed
  | case2 stack s place' stack' r' found ih =>
      obtain ⟨t, demanded, rfl⟩ := ih passed
      obtain ⟨w, white, ⟨v, value, rfl, rfl, rfl⟩ | ⟨top, rfl, rfl, rfl⟩⟩ := passValue_ok found
      · exact ⟨_, ⟨w, v, t, white, value, demanded, rfl⟩, by simp⟩
      · obtain ⟨a, b, enclosed, remainder, rfl⟩ := demanded
        exact ⟨_, ⟨w, _, b, white, .enclosed enclosed, remainder, rfl⟩, by simp⟩
  | case3 =>
      cases passed
      exact ⟨[], rfl, rfl⟩
  | case4 =>
      cases passed
      exact ⟨[], rfl, rfl⟩
  | case5 => cases passed
  | case6 s top stack place' stack' r' found ih =>
      obtain ⟨t, demanded, rfl⟩ := ih passed
      rcases passEntry_ok found with ⟨w, white, rfl, rfl, rfl⟩ |
        ⟨w, k, white, key, rfl, rfl, rfl⟩
      · exact ⟨_, ⟨_, t, .close top true white, demanded, rfl⟩, by simp⟩
      · obtain ⟨v, u, _, inner, value, ⟨a, b, enclosed, remainder, rfl⟩, rfl⟩ := demanded
        exact ⟨_, ⟨_, b, .more rfl white key inner value enclosed, remainder, rfl⟩, by simp⟩
  | case7 => cases passed
  | case8 s top stack place' stack' r' found ih =>
      obtain ⟨t, demanded, rfl⟩ := ih passed
      rcases passRest_ok found with ⟨w, white, rfl, rfl, rfl⟩ |
        ⟨c, w, k, separator, white, key, rfl, rfl, rfl⟩
      · exact ⟨_, ⟨_, t, .close top false white, demanded, rfl⟩, by simp⟩
      · obtain ⟨v, u, _, inner, value, ⟨a, b, enclosed, remainder, rfl⟩, rfl⟩ := demanded
        exact ⟨_, ⟨_, b, .more separator white key inner value enclosed, remainder, rfl⟩, by simp⟩

theorem pass_value {stack rest : List Bracket} {place : Place} {s r : List UInt8}
    (passed : passValue stack s = .ok (place, rest, r)) :
    pass .value stack s = pass place rest r := by
  rw [pass]
  split
  · rename_i failed
    cases passed.symm.trans failed
  · rename_i found
    cases passed.symm.trans found
    rfl

theorem pass_entry {top : Bracket} {stack rest : List Bracket} {place : Place} {s r : List UInt8}
    (passed : passEntry top stack s = .ok (place, rest, r)) :
    pass .entry (top :: stack) s = pass place rest r := by
  rw [pass]
  split
  · rename_i failed
    cases passed.symm.trans failed
  · rename_i found
    cases passed.symm.trans found
    rfl

theorem pass_rest {top : Bracket} {stack rest : List Bracket} {place : Place} {s r : List UInt8}
    (passed : passRest top stack s = .ok (place, rest, r)) :
    pass .rest (top :: stack) s = pass place rest r := by
  rw [pass]
  split
  · rename_i failed
    cases passed.symm.trans failed
  · rename_i found
    cases passed.symm.trans found
    rfl

theorem Bracket.closing_spec (top : Bracket) : isSpace top.closing = false ∧
    (top.closing = 0x5D ∨ top.closing = 0x7D) ∧ top.closing ≠ 0x2C := by
  cases top <;> decide

theorem Enclosed.apart {top : Bracket} {s : List UInt8} (enclosed : Enclosed top false s)
    (q : List UInt8) : Apart (s ++ q) := by
  cases top with
  | square =>
      obtain ⟨vs, entries⟩ := enclosed
      exact entries.apart (.inl rfl) q
  | brace =>
      obtain ⟨ms, entries⟩ := enclosed
      exact entries.apart (.inr rfl) q

theorem NumberForm.start {s : List UInt8} (form : NumberForm s) :
    ∃ b t, s = b :: t ∧ isDigit b = true := by
  obtain ⟨whole, _, _⟩ := form
  cases whole with
  | zero => exact ⟨_, _, rfl, rfl⟩
  | digits _ digits => exact ⟨_, _, rfl, digits.2 _ List.mem_cons_self⟩

theorem digit_solid {b : UInt8} (digit : isDigit b = true) :
    isSpace b = false ∧ b ≠ 0x5D ∧ b ≠ 0x6E ∧ b ≠ 0x74 ∧ b ≠ 0x66 ∧ b ≠ 0x2D := by
  obtain ⟨⟨solid, notBracket⟩, notNull, notTrue, notFalse⟩ :=
    startsNumber_solid (b := b) (by rw [startsNumber, digit, Bool.or_true])
  refine ⟨solid, notBracket, notNull, notTrue, notFalse, ?_⟩
  rintro rfl
  cases digit

theorem solid_of_skipped {s : List UInt8} (value : SkippedSpelling s ()) :
    ∃ b t, s = b :: t ∧ isSpace b = false ∧ b ≠ 0x5D := by
  cases value with
  | number form =>
      obtain ⟨b, t, rfl, digit⟩ := form.start
      exact ⟨b, t, rfl, (digit_solid digit).1, (digit_solid digit).2.1⟩
  | text text =>
      obtain ⟨t, rfl, _⟩ := text.quote
      exact ⟨_, t, rfl, by decide⟩
  | _ => exact ⟨_, _, rfl, by decide⟩

theorem passValue_append {s w : List UInt8} (value : SkippedSpelling s ()) (white : White w)
    (stack : List Bracket) {q : List UInt8} (apart : Apart q) :
    passValue stack (w ++ (s ++ q)) = .ok (.rest, stack, q) ∨
      ∃ top t, s = top.opening :: t ∧ Enclosed top true t ∧
        passValue stack (w ++ (s ++ q)) = .ok (.entry, top :: stack, t ++ q) := by
  obtain ⟨b, t, bytes, solid, _⟩ := solid_of_skipped value
  have skipped : skipSpace (w ++ (s ++ q)) = s ++ q := by
    rw [bytes, List.cons_append, skipSpace_white white solid]
  rw [passValue, skipped]
  cases value with
  | null => exact .inl rfl
  | true => exact .inl rfl
  | false => exact .inl rfl
  | number form =>
      obtain ⟨c, u, rfl, digit⟩ := form.start
      obtain ⟨_, _, notNull, notTrue, notFalse, notMinus⟩ := digit_solid digit
      have passed := passNumber_append form apart
      rw [List.cons_append] at passed ⊢
      simp only [if_neg notNull, if_neg notTrue, if_neg notFalse, if_neg notMinus, if_pos digit,
        passed]
      exact .inl rfl
  | negative form =>
      simp only [List.cons_append, passNumber_append form apart]
      exact .inl rfl
  | text text =>
      obtain ⟨u, rfl, passed⟩ := text.quote
      simp only [List.cons_append, passed]
      exact .inl rfl
  | list entries => exact .inr ⟨.square, _, rfl, ⟨_, entries⟩, rfl⟩
  | object entries => exact .inr ⟨.brace, _, rfl, ⟨_, entries⟩, rfl⟩

theorem passKey_append {top : Bracket} {w k : List UInt8} (white : White w)
    (key : KeySpelling top k) (s : List UInt8) :
    ∃ v, White v ∧ passKey top (w ++ (k ++ s)) = .ok (v ++ s) := by
  cases top with
  | square =>
      cases key
      exact ⟨w, white, rfl⟩
  | brace =>
      obtain ⟨t, v, text, before, rfl⟩ := key
      obtain ⟨u, rfl, passed⟩ := text.quote
      refine ⟨[], .nil, ?_⟩
      have colon : readColon (v ++ 0x3A :: s) = .ok s := readColon_ok.2 ⟨v, before, rfl⟩
      simp only [List.cons_append, List.append_assoc, List.nil_append, passKey,
        skipSpace_white white (b := 0x22) (by decide), if_pos, passed, colon]

theorem passEntry_append {top : Bracket} {w k v t : List UInt8} (white : White w)
    (key : KeySpelling top k) (inner : White v) (value : SkippedSpelling t ())
    (stack : List Bracket) (s : List UInt8) :
    ∃ u, White u ∧ passEntry top stack (w ++ (k ++ (v ++ (t ++ s)))) =
      .ok (.value, top :: stack, u ++ (t ++ s)) := by
  cases top with
  | square =>
      cases key
      obtain ⟨b, r, rfl, solid, notBracket⟩ := solid_of_skipped value
      refine ⟨[], .nil, ?_⟩
      rw [List.nil_append, ← List.append_assoc, List.cons_append, passEntry,
        skipSpace_white (white.append inner) solid]
      exact if_neg notBracket
  | brace =>
      obtain ⟨u, passedWhite, passed⟩ := passKey_append .nil key (v ++ (t ++ s))
      obtain ⟨x, y, text, before, rfl⟩ := key
      obtain ⟨x, rfl, _⟩ := text.quote
      refine ⟨u ++ v, passedWhite.append inner, ?_⟩
      have quote : isSpace 0x22 = false ∧ (0x22 : UInt8) ≠ 0x7D := by decide
      simp only [List.nil_append, List.cons_append, List.append_assoc] at passed ⊢
      rw [passEntry, skipSpace_white white quote.1]
      simp only [Bracket.closing, if_neg quote.2, passed]

theorem passRest_append {top : Bracket} {c w k v : List UInt8} (separator : Separator false c)
    (white : White w) (key : KeySpelling top k) (inner : White v) (stack : List Bracket)
    (s : List UInt8) :
    ∃ u, White u ∧ passRest top stack (c ++ (w ++ (k ++ (v ++ s)))) =
      .ok (.value, top :: stack, u ++ s) := by
  obtain ⟨x, before, rfl⟩ := separator
  obtain ⟨u, passedWhite, passed⟩ := passKey_append white key (v ++ s)
  refine ⟨u ++ v, passedWhite.append inner, ?_⟩
  rw [List.append_assoc, List.singleton_append, passRest, skipSpace_white before (by decide)]
  simp only [if_pos, passed, List.append_assoc]

def Place.inside (first : Bool) : Place := if first then .entry else .rest

theorem pass_close (top : Bracket) (first : Bool) (stack : List Bracket) {w : List UInt8}
    (white : White w) (q : List UInt8) :
    pass (.inside first) (top :: stack) (w ++ top.closing :: q) = pass .rest stack q := by
  obtain ⟨solid, _, notComma⟩ := top.closing_spec
  cases first with
  | true =>
      refine pass_entry ?_
      rw [passEntry, skipSpace_white white solid]
      exact if_pos rfl
  | false =>
      refine pass_rest ?_
      rw [passRest, skipSpace_white white solid]
      simp only [if_neg notComma, if_pos]

theorem pass_more {top : Bracket} {first : Bool} {c w k v t : List UInt8}
    (separator : Separator first c) (white : White w) (key : KeySpelling top k) (inner : White v)
    (value : SkippedSpelling t ()) (stack : List Bracket) (s : List UInt8) :
    ∃ u, White u ∧ pass (.inside first) (top :: stack) (c ++ (w ++ (k ++ (v ++ (t ++ s))))) =
      pass .value (top :: stack) (u ++ (t ++ s)) := by
  cases first with
  | true =>
      cases separator
      obtain ⟨u, passedWhite, passed⟩ := passEntry_append white key inner value stack s
      exact ⟨u, passedWhite, pass_entry passed⟩
  | false =>
      obtain ⟨u, passedWhite, passed⟩ := passRest_append separator white key inner stack (t ++ s)
      exact ⟨u, passedWhite, pass_rest passed⟩

def Passes (s : List UInt8) : Prop :=
  ∀ (stack : List Bracket) {w q : List UInt8}, White w → Apart q →
    pass .value stack (w ++ (s ++ q)) = pass .rest stack q

theorem Enclosed.length_pos {top : Bracket} {first : Bool} {s : List UInt8}
    (enclosed : Enclosed top first s) : 0 < s.length := by
  rcases enclosed.cases with ⟨w, _, rfl⟩ | ⟨c, w, k, v, t, r, _, _, _, _, value, _, rfl⟩
  · simp
  · obtain ⟨b, u, rfl, _⟩ := solid_of_skipped value
    simp only [List.length_append, List.length_cons]
    omega

theorem pass_enclosed {n : Nat} (each : ∀ t, t.length < n → SkippedSpelling t () → Passes t)
    {top : Bracket} {first : Bool} {s : List UInt8} (short : s.length ≤ n)
    (enclosed : Enclosed top first s) (stack : List Bracket) (q : List UInt8) :
    pass (.inside first) (top :: stack) (s ++ q) = pass .rest stack q := by
  -- what follows an entry is a shorter collection, one with an entry before
  induction bound : s.length using Nat.strongRecOn generalizing first s with
  | ind m ih =>
    rcases enclosed.cases with
      ⟨w, white, rfl⟩ | ⟨c, w, k, v, t, r, separator, white, key, inner, value, tail, rfl⟩
    · rw [List.append_assoc, List.singleton_append, pass_close top first stack white]
    · have positive := tail.length_pos
      simp only [List.length_append] at short bound
      obtain ⟨u, passedWhite, step⟩ := pass_more separator white key inner value stack (r ++ q)
      have one := each t (by omega) value (top :: stack) passedWhite (tail.apart q)
      obtain ⟨b, x, rfl, _⟩ := solid_of_skipped value
      simp only [List.length_cons] at bound short
      have rest := ih r.length (by omega) (by omega) tail rfl
      simp only [List.append_assoc] at step one ⊢
      rw [step, one]
      exact rest

theorem passes_of_skipped {s : List UInt8} (value : SkippedSpelling s ()) : Passes s := by
  -- the entries are no direct parts of the spelling, so the induction is on the number of bytes
  induction bound : s.length using Nat.strongRecOn generalizing s with
  | ind n ih =>
    intro stack w q white apart
    rcases passValue_append value white stack apart with passed | ⟨top, t, rfl, enclosed, passed⟩
    · exact pass_value passed
    · rw [pass_value passed]
      refine pass_enclosed (n := n) (fun u short spelled => ih u.length short spelled rfl) ?_
        enclosed stack q
      rw [← bound, List.length_cons]
      omega

theorem understands_skipped {read : Reader α} {a : α}
    (run : ∀ s, read.run s = literal a (passAny s)) :
    Understands SkippedSpelling read (fun _ => some a) where
  sound {s r b} found := by
    rw [run] at found
    obtain ⟨passed, rfl⟩ := literal_eq_ok.1 found
    obtain ⟨t, ⟨w, u, _, white, value, rfl, rfl⟩, rfl⟩ := pass_ok passed
    exact ⟨w, u, (), white, value, rfl, by simp⟩
  complete {w t q v b} white value meaning apart := by
    cases meaning
    rw [run, literal_eq_ok]
    refine ⟨?_, rfl⟩
    rw [passAny, passes_of_skipped value [] white apart, pass]

end ClusterDirectory.Json
