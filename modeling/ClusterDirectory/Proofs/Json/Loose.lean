import ClusterDirectory.Proofs.Json.Exact.Skip
import ClusterDirectory.Proofs.Json.Exact.Value
import Mathlib.Data.List.Forall2

/-!
# What is kept could be passed over

The grammar of what is passed over asks for less than that of what is kept, so every value that is
kept has the loose form of one (`ValueSpelling.skipped`). The walk over loose values decides where
each of them ends (`SkippedSpelling.cut`). So two ways to take the same bytes for a list, or for the
members of an object, agree about the bytes of every entry (`Entries.align`), and bytes spell one
value only (`ValueSpelling.unique`).
-/

namespace ClusterDirectory.Json

variable {α β κ ι : Type}

/-! ## Texts -/

theorem EscapeSpelling.loose {e s : List UInt8} {c : Char} (escape : EscapeSpelling e c)
    (more : LooseBody s) : LooseBody (0x5C :: (e ++ s)) := by
  cases escape with
  | short letter => exact .short letter more
  | unit unit => exact .unit unit more
  | pair first _ second =>
      have both := LooseBody.unit first (.unit second more)
      simpa using both

theorem BodySpelling.loose {s t : List UInt8} (body : BodySpelling s t) : LooseBody s := by
  induction body with
  | nil => exact .nil
  | plain plain _ ih => exact .plain plain ih
  | escape escape _ ih => exact escape.loose ih

theorem TextSpelling.loose {s : List UInt8} {word : String} (text : TextSpelling s word) :
    LooseText s () := by
  obtain ⟨body⟩ := text
  exact .mk body.loose

/-! ## Numbers -/

theorem skipDigits_cons {d : UInt8} (digit : isDigit d = true) (s : List UInt8) :
    skipDigits (d :: s) = skipDigits s :=
  List.dropWhile_cons_of_pos digit

theorem skipDigits_readDigits (n count : Nat) (s : List UInt8) :
    skipDigits (readDigits n count s).rest = skipDigits s := by
  fun_induction readDigits n count s with
  | case1 => rfl
  | case2 n count d s more ih => rw [ih, skipDigits_cons more.1]
  | case3 => rfl

theorem startsWithDigit_of_readDigits {n : Nat} {s : List UInt8}
    (some : startsWithDigit (readDigits n 0 s).rest = true ∨ (readDigits n 0 s).count ≠ 0) :
    startsWithDigit s = true := by
  by_contra none
  have noDigit := startsWithDigit_eq_false.1 (Bool.not_eq_true _ ▸ none)
  rw [readDigits_stops n 0 (noDigit.stops n)] at some
  exact some.elim none fun ne => ne rfl

theorem skipDigits_readExponentDigits (e : Nat) (s : List UInt8) :
    match readExponentDigits e s with
    | .ok (_, r) => skipDigits s = r
    | .error r => skipDigits s = skipDigits r := by
  fun_induction readExponentDigits e s with
  | case1 => rfl
  | case2 e d s digit small ih =>
      rw [skipDigits_cons digit]
      exact ih
  | case3 e d s digit => exact skipDigits_cons digit s
  | case4 e b s notDigit => exact List.dropWhile_cons_of_neg notDigit

section

variable {negative : Bool} {n : Nat} {s r : List UInt8} {k : JsonNumber}

theorem passExponent_of_read {e : Int} (read : readExponent negative n e s = .ok (k, r)) :
    passExponent s = .ok r := by
  unfold readExponent at read
  unfold passExponent
  cases sign : (readExponentSign s).2 with
  | nil =>
      simp only [sign] at read
      cases read
  | cons b t =>
      simp only [sign] at read
      have rest := skipDigits_readExponentDigits (digitValue b) t
      split at read
      · rename_i digit
        simp only [digit, if_true]
        split at read
        · rename_i digits
          rw [digits] at rest
          obtain ⟨rfl, _⟩ := scaled_takes read
          rw [rest]
        · rename_i digits
          rw [digits] at rest
          split at read
          · cases read
          · cases read
            rw [rest]
      · cases read

theorem passFraction_of_read {e : Int} (read : readFraction negative n e s = .ok (k, r)) :
    passFraction s = .ok r := by
  obtain ⟨scale, some⟩ := readFraction_ok read
  rw [skipDigits_readDigits] at scale
  simp only [passFraction, startsWithDigit_of_readDigits some, if_true]
  unfold readScale at scale
  split at scale
  · rename_i b t rest
    rw [rest]
    split at scale
    · rename_i letter
      rw [if_pos letter]
      exact passExponent_of_read scale
    · rename_i notLetter
      rw [if_neg notLetter, ← rest, (scaled_takes scale).1]
  · rename_i rest
    rw [rest, ← (scaled_takes scale).1]

theorem afterWhole_of_read {e : Nat} (read : readAfterWhole negative n e s = .ok (k, r)) :
    passNumber.afterWhole s = .ok r := by
  have plain {t : List UInt8} (read : readAfterWhole.plain negative n e t = .ok (k, r)) :
      t = r := by
    unfold readAfterWhole.plain at read
    split at read
    · split at read
      · cases read
        rfl
      · exact (scaled_takes read).1
    · exact (scaled_takes read).1
  unfold readAfterWhole at read
  unfold passNumber.afterWhole
  split at read
  · split at read
    · rename_i point
      rw [if_pos point]
      exact passFraction_of_read read
    rename_i notPoint
    rw [if_neg notPoint]
    split at read
    · rename_i letter
      rw [if_pos letter]
      exact passExponent_of_read read
    · rename_i notLetter
      rw [if_neg notLetter, plain read]
  · rw [plain read]

theorem passNumber_of_read (read : readNumber negative s = .ok (k, r)) :
    passNumber s = .ok r := by
  unfold readNumber at read
  unfold passNumber
  split at read
  · cases read
  split at read
  · rename_i zero
    rw [if_pos zero]
    split at read
    · cases read
    · rename_i last
      rw [if_neg last]
      exact afterWhole_of_read read
  rename_i notZero
  rw [if_neg notZero]
  split at read
  · rename_i digit
    rw [if_pos digit]
    simp only [skipDigits_readDigits] at read
    exact afterWhole_of_read read
  · cases read

end

theorem NumberSpelling.skipped {s : List UInt8} {n : JsonNumber} (number : NumberSpelling s n) :
    SkippedSpelling s () := by
  obtain ⟨b, t, rfl, _, read⟩ := readNumberFrom_append number
  have alone := read [] .nil
  rw [List.append_nil] at alone
  unfold readNumberFrom at alone
  split at alone
  · rename_i minus
    obtain ⟨u, form, rfl⟩ := passNumber_ok (passNumber_of_read alone)
    rw [minus, List.append_nil]
    exact .negative form
  · obtain ⟨u, form, bytes⟩ := passNumber_ok (passNumber_of_read alone)
    rw [bytes, List.append_nil]
    exact .number form

/-! ## Entries -/

theorem Entries.along {R : α → β → Prop} {closing : UInt8} {entry : Spelling α}
    {other : Spelling β} {first : Bool} {s : List UInt8} {as : List α} {bs : List β}
    (entries : Entries closing entry first s as) (related : List.Forall₂ R as bs)
    (each : ∀ {t a b}, R a b → entry t a → other t b) : Entries closing other first s bs := by
  induction entries generalizing bs with
  | close white =>
      cases related
      exact .close white
  | more separator white head _ ih =>
      cases related with
      | cons one rest => exact .more separator white (each one head) (ih rest)

theorem Entries.skipped {closing : UInt8} {entry : Spelling α} {other : Spelling β} {first : Bool}
    {s : List UInt8} {as : List α} (entries : Entries closing entry first s as) (b : β)
    (each : ∀ a ∈ as, ∀ t, entry t a → other t b) :
    Entries closing other first s (as.map fun _ => b) := by
  refine entries.along (R := fun a c => ∀ t, entry t a → other t c) ?_
    fun related head => related _ head
  rw [List.forall₂_map_right_iff, List.forall₂_same]
  exact each

theorem MemberSpelling.skipped {key : Spelling κ} {value : κ → Spelling α} {s : List UInt8}
    {m : κ × α} (member : MemberSpelling key value s m)
    (keys : ∀ {t k}, key t k → LooseText t ())
    (values : ∀ {t}, value m.1 t m.2 → SkippedSpelling t ()) :
    MemberSpelling LooseText (fun _ => SkippedSpelling) s ((), ()) := by
  obtain ⟨named, before, after, held⟩ := member
  exact .mk (keys named) before after (values held)

theorem ValueSpelling.skipped {s : List UInt8} {v : Json} (spelled : ValueSpelling s v) :
    SkippedSpelling s () := by
  induction v using Json.induct generalizing s with
  | list vs ih =>
      cases spelled with
      | list entries => exact .list (entries.skipped () fun v member t => ih v member)
  | object ms ih =>
      cases spelled with
      | object entries =>
          refine .object (entries.skipped ((), ()) fun m member t head => ?_)
          exact head.skipped TextSpelling.loose (ih m member)
  | null =>
      cases spelled
      exact .null
  | bool b =>
      cases spelled with
      | true => exact .true
      | false => exact .false
  | number n =>
      cases spelled with
      | number number => exact number.skipped
  | text word =>
      cases spelled with
      | text text => exact .text text.loose

/-! ## Where entries end -/

theorem White.cut {w w' s s' : List UInt8} {b b' : UInt8} (white : White w) (white' : White w')
    (solid : isSpace b = false) (solid' : isSpace b' = false)
    (same : w ++ b :: s = w' ++ b' :: s') : w = w' ∧ b = b' ∧ s = s' := by
  have rest := congrArg skipSpace same
  rw [skipSpace_white white solid, skipSpace_white white' solid'] at rest
  rw [rest] at same
  exact ⟨List.append_cancel_right same, List.cons.inj rest⟩

theorem LooseText.cut {s s' q q' : List UInt8} (text : LooseText s ()) (text' : LooseText s' ())
    (same : s ++ q = s' ++ q') : s = s' ∧ q = q' := by
  obtain ⟨t, rfl, passed⟩ := text.quote
  obtain ⟨t', rfl, passed'⟩ := text'.quote
  have rest : passText (t ++ q) = passText (t' ++ q') := congrArg passText (List.cons.inj same).2
  rw [passed, passed'] at rest
  cases rest
  exact ⟨List.append_cancel_right same, rfl⟩

theorem SkippedSpelling.cut {s s' q q' : List UInt8} (value : SkippedSpelling s ())
    (value' : SkippedSpelling s' ()) (apart : Apart q) (apart' : Apart q')
    (same : s ++ q = s' ++ q') : s = s' ∧ q = q' := by
  have passed := passes_of_skipped value [] .nil apart
  have passed' := passes_of_skipped value' [] .nil apart'
  rw [same, passed', pass, pass] at passed
  cases passed
  exact ⟨List.append_cancel_right same, rfl⟩

/-- Wherever an entry of either kind is taken to start, both are taken to end at one place. -/
structure Aligned (closing : UInt8) (entry : Spelling α) (other : Spelling β) : Prop where
  closes : closing = 0x5D ∨ closing = 0x7D
  starts : ∀ {s a}, entry s a → ∃ b t, s = b :: t ∧ isSpace b = false ∧ b ≠ closing
  starts' : ∀ {s a}, other s a → ∃ b t, s = b :: t ∧ isSpace b = false ∧ b ≠ closing
  cut : ∀ {s s' q q' a b}, entry s a → other s' b → Apart q → Apart q' → s ++ q = s' ++ q' →
    s = s' ∧ q = q'

theorem isSpace_closing {closing : UInt8} (closes : closing = 0x5D ∨ closing = 0x7D) :
    isSpace closing = false ∧ closing ≠ 0x2C := by
  rcases closes with rfl | rfl <;> decide

theorem Entries.ne_close {closing : UInt8} (closes : closing = 0x5D ∨ closing = 0x7D)
    {first : Bool} {c w v s q : List UInt8} {b : UInt8} (separator : Separator first c)
    (white : White w) (solid : isSpace b = false) (notClosing : b ≠ closing)
    (white' : White v) : c ++ (w ++ b :: s) ≠ v ++ closing :: q := by
  obtain ⟨closed, notComma⟩ := isSpace_closing closes
  intro same
  cases first with
  | true =>
      cases separator
      exact notClosing (white.cut white' solid closed same).2.1
  | false =>
      obtain ⟨u, before, rfl⟩ := separator
      rw [List.append_assoc, List.singleton_append] at same
      exact notComma (before.cut white' (by decide) closed same).2.1.symm

theorem Separator.cut {first : Bool} {c c' w w' s s' : List UInt8} {b b' : UInt8}
    (separator : Separator first c) (separator' : Separator first c') (white : White w)
    (white' : White w') (solid : isSpace b = false) (solid' : isSpace b' = false)
    (same : c ++ (w ++ b :: s) = c' ++ (w' ++ b' :: s')) : b :: s = b' :: s' := by
  have rest {v v' : List UInt8} (white : White v) (white' : White v')
      (same : v ++ b :: s = v' ++ b' :: s') : b :: s = b' :: s' := by
    obtain ⟨_, rfl, rfl⟩ := white.cut white' solid solid' same
    rfl
  cases first with
  | true =>
      cases separator
      cases separator'
      exact rest white white' same
  | false =>
      obtain ⟨u, before, rfl⟩ := separator
      obtain ⟨u', before', rfl⟩ := separator'
      rw [List.append_assoc, List.append_assoc] at same
      exact rest white white' (before.cut before' (by decide) (by decide) same).2.2

theorem Entries.align {closing : UInt8} {entry : Spelling α} {other : Spelling β} {first : Bool}
    {s : List UInt8} {as : List α} {bs : List β} (aligned : Aligned closing entry other)
    (left : Entries closing entry first s as) (right : Entries closing other first s bs) :
    List.Forall₂ (fun a b => ∃ t, entry t a ∧ other t b) as bs := by
  have closes := aligned.closes
  generalize bytes : s = s' at right
  induction left generalizing s' bs with
  | close white =>
      cases right with
      | close => exact .nil
      | more separator white' head =>
          obtain ⟨b, t, rfl, solid, notClosing⟩ := aligned.starts' head
          exact absurd bytes.symm (ne_close closes separator white' solid notClosing white)
  | more separator white head tail ih =>
      obtain ⟨b, t, rfl, solid, notClosing⟩ := aligned.starts head
      cases right with
      | close white' => exact absurd bytes (ne_close closes separator white solid notClosing white')
      | more separator' white' head' tail' =>
          obtain ⟨b', t', rfl, solid', _⟩ := aligned.starts' head'
          have rest := separator.cut separator' white white' solid solid' bytes
          have apart := tail.apart closes []
          have apart' := tail'.apart closes []
          rw [List.append_nil] at apart apart'
          obtain ⟨one, more⟩ := aligned.cut head head' apart apart' rest
          exact .cons ⟨_, head, one ▸ head'⟩ (ih _ more tail')

def Loose (value : Spelling α) : Prop := ∀ {s a}, value s a → SkippedSpelling s ()

structure LooseMembers (key : Spelling κ) (value : κ → Spelling α) : Prop where
  key : ∀ {s k}, key s k → LooseText s ()
  value : ∀ k, Loose (value k)

theorem Entries.align_values {value : Spelling α} {value' : Spelling β} {first : Bool}
    {s : List UInt8} {as : List α} {bs : List β} (loose : Loose value) (loose' : Loose value')
    (left : Entries 0x5D value first s as) (right : Entries 0x5D value' first s bs) :
    List.Forall₂ (fun a b => ∃ t, value t a ∧ value' t b) as bs :=
  left.align ⟨.inl rfl, fun one => solid_of_skipped (loose one),
    fun one => solid_of_skipped (loose' one),
    fun one other => (loose one).cut (loose' other)⟩ right

section

variable {key : Spelling κ} {key' : Spelling ι} {value : κ → Spelling α} {value' : ι → Spelling β}

theorem MemberSpelling.starts {s : List UInt8} {m : κ × α} (member : MemberSpelling key value s m)
    (loose : LooseMembers key value) :
    ∃ b t, s = b :: t ∧ isSpace b = false ∧ b ≠ 0x7D := by
  obtain ⟨named, _, _, _⟩ := member
  obtain ⟨t, rfl, _⟩ := (loose.key named).quote
  exact ⟨_, _, rfl, by decide⟩

theorem MemberSpelling.cut {s s' q q' : List UInt8} {m : κ × α} {n : ι × β}
    (left : MemberSpelling key value s m) (right : MemberSpelling key' value' s' n)
    (loose : LooseMembers key value) (loose' : LooseMembers key' value') (apart : Apart q)
    (apart' : Apart q') (same : s ++ q = s' ++ q') :
    s = s' ∧ q = q' ∧ (∃ t, key t m.1 ∧ key' t n.1) ∧ ∃ t, value m.1 t m.2 ∧ value' n.1 t n.2 := by
  obtain ⟨named, before, after, held⟩ := left
  obtain ⟨named', before', after', held'⟩ := right
  obtain ⟨b, t, rfl, solid, _⟩ := solid_of_skipped (loose.value _ held)
  obtain ⟨b', t', rfl, solid', _⟩ := solid_of_skipped (loose'.value _ held')
  simp only [List.append_assoc, List.cons_append] at same
  obtain ⟨rfl, colon⟩ := (loose.key named).cut (loose'.key named') same
  obtain ⟨rfl, _, space⟩ := before.cut before' (by decide) (by decide) colon
  obtain ⟨rfl, rfl, rest⟩ := after.cut after' solid solid' space
  obtain ⟨bytes, rfl⟩ := (loose.value _ held).cut (loose'.value _ held') apart apart'
    (congrArg (b :: ·) rest)
  cases bytes
  exact ⟨rfl, rfl, ⟨_, named, named'⟩, _, held, held'⟩

theorem Entries.align_members {first : Bool} {s : List UInt8} {ms : List (κ × α)}
    {ns : List (ι × β)} (loose : LooseMembers key value) (loose' : LooseMembers key' value')
    (left : Entries 0x7D (MemberSpelling key value) first s ms)
    (right : Entries 0x7D (MemberSpelling key' value') first s ns) :
    List.Forall₂ (fun m n => (∃ t, key t m.1 ∧ key' t n.1) ∧
      ∃ t, value m.1 t m.2 ∧ value' n.1 t n.2) ms ns := by
  have aligned : Aligned 0x7D (MemberSpelling key value) (MemberSpelling key' value') := by
    refine ⟨.inr rfl, fun one => one.starts loose, fun one => one.starts loose', ?_⟩
    intro _ _ _ _ _ _ one other apart apart' same
    obtain ⟨bytes, rest, _⟩ := one.cut other loose loose' apart apart' same
    exact ⟨bytes, rest⟩
  refine (left.align aligned right).imp fun m n ⟨t, one, other⟩ => ?_
  exact (one.cut other loose loose' .nil .nil rfl).2.2

end

/-! ## One value for the same bytes -/

theorem looseMembers_value : LooseMembers TextSpelling fun _ => ValueSpelling :=
  ⟨TextSpelling.loose, fun _ => ValueSpelling.skipped⟩

theorem TextSpelling.unique {s : List UInt8} {word other : String} (first : TextSpelling s word)
    (second : TextSpelling s other) : word = other := by
  obtain ⟨t, rfl, read⟩ := first.quote
  obtain ⟨t', eq, read'⟩ := second.quote
  cases eq
  have same := (read []).symm.trans (read' [])
  cases same
  rfl

theorem settled_unique {s : List UInt8} {v w : Json} (first : ValueSpelling s v)
    (second : ValueSpelling s w) : v.settled = w.settled := by
  have run {u : Json} (spelled : ValueSpelling s u) (enough : u.depth ≤ max v.depth w.depth) :
      (Reader.value (max v.depth w.depth)).run ([] ++ (s ++ [])) = .ok (u.settled, []) :=
    (understands_value _).complete .nil spelled (if_pos enough) .nil
  have same := (run first (Nat.le_max_left _ _)).symm.trans (run second (Nat.le_max_right _ _))
  simp only [Except.ok.injEq, Prod.mk.injEq, and_true] at same
  exact same

theorem ValueSpelling.unique {s : List UInt8} {v w : Json} (first : ValueSpelling s v)
    (second : ValueSpelling s w) : v = w := by
  -- the values agree but for the order and the repetition of keys, which the bytes decide
  have same := settled_unique first second
  induction v using Json.induct generalizing s w with
  | list vs ih =>
      cases w with
      | list ws =>
          cases first with
          | list left =>
            cases second with
            | list right =>
              have aligned := left.align_values ValueSpelling.skipped ValueSpelling.skipped right
              have equal := ((List.forall₂_and_left _ _).2 ⟨ih, aligned⟩).imp
                fun v w ⟨ih, t, one, other⟩ => ih one other (settled_unique one other)
              rw [List.forall₂_eq_eq_eq] at equal
              rw [equal]
      | _ => cases same
  | object ms ih =>
      cases w with
      | object ns =>
          cases first with
          | object left =>
            cases second with
            | object right =>
              have aligned := left.align_members looseMembers_value looseMembers_value right
              have equal := ((List.forall₂_and_left _ _).2 ⟨ih, aligned⟩).imp
                fun m n ⟨ih, ⟨t, named, named'⟩, u, one, other⟩ =>
                  Prod.ext (named.unique named') (ih one other (settled_unique one other))
              rw [List.forall₂_eq_eq_eq] at equal
              rw [equal]
      | _ => cases same
  | _ =>
      cases w with
      | list => cases same
      | object => cases same
      | _ => exact same

end ClusterDirectory.Json
