import ClusterDirectory.Address
import ClusterDirectory.Proofs.Text.Digits

/-!
# The spellings of an address

`Spelling cs a` says that the characters `cs` spell the address `a`: four decimal bytes, or eight
groups, or fewer groups on both sides of two colons. The last two groups may be written as four
decimal bytes, and nothing but that is read as an address (`parse?_eq_some`).
-/

namespace ClusterDirectory.Address

open Text

structure ByteSpelling (ds : List Char) (b : UInt8) : Prop where
  nonempty : ds ≠ []
  digits : ∀ c ∈ ds, isDigit c = true
  short : ds.length ≤ 3
  leading : ds.head? = some '0' → ds.length = 1
  value : digitsValue ds = b.toNat

inductive DottedSpelling : List Char → UInt8 × UInt8 × UInt8 × UInt8 → Prop
  | mk {w x y z : List Char} {a b c d : UInt8} (first : ByteSpelling w a)
      (second : ByteSpelling x b) (third : ByteSpelling y c) (fourth : ByteSpelling z d) :
      DottedSpelling (w ++ '.' :: (x ++ '.' :: (y ++ '.' :: z))) (a, b, c, d)

structure GroupSpelling (ds : List Char) (g : UInt16) : Prop where
  nonempty : ds ≠ []
  digits : ∀ c ∈ ds, isHexDigit c = true
  short : ds.length ≤ 4
  value : hexDigitsValue ds = g.toNat

/-- Groups with colons between them, the last two of them as four decimal bytes if `dotted`. -/
inductive RowSpelling : (dotted : Bool) → List Char → List UInt16 → Prop
  | group {ds : List Char} {g : UInt16} (spelling : GroupSpelling ds g) : RowSpelling false ds [g]
  | dotted {cs : List Char} {a b c d : UInt8} (spelling : DottedSpelling cs (a, b, c, d)) :
      RowSpelling true cs [pair a b, pair c d]
  | more {dotted : Bool} {ds cs : List Char} {g : UInt16} {gs : List UInt16}
      (first : GroupSpelling ds g) (rest : RowSpelling dotted cs gs) :
      RowSpelling dotted (ds ++ ':' :: cs) (g :: gs)

inductive SideSpelling : (dotted : Bool) → List Char → List UInt16 → Prop
  | nothing : SideSpelling false [] []
  | row {dotted : Bool} {cs : List Char} {gs : List UInt16} (row : RowSpelling dotted cs gs) :
      SideSpelling dotted cs gs

inductive Spelling : List Char → Address → Prop
  | dotted {cs : List Char} {a b c d : UInt8} (spelling : DottedSpelling cs (a, b, c, d)) :
      Spelling cs (.v4 a b c d)
  | whole {dotted : Bool} {cs : List Char} {gs : List UInt16} {a : Address}
      (row : RowSpelling dotted cs gs) (eight : ofGroups? gs = some a) : Spelling cs a
  /-- the two colons stand for one zero group at least -/
  | shortened {dotted : Bool} {front back : List Char} {hs ts : List UInt16} {a : Address}
      (left : SideSpelling false front hs) (right : SideSpelling dotted back ts)
      (room : hs.length + ts.length < 8)
      (eight : ofGroups? (hs ++ List.replicate (8 - hs.length - ts.length) 0 ++ ts) = some a) :
      Spelling (front ++ ':' :: ':' :: back) a

def StopsAt (p : Char → Bool) (s : List Char) : Prop := ∀ c ∈ s.head?, p c = false

theorem stopsAt_nil (p : Char → Bool) : StopsAt p [] := nofun

theorem stopsAt_cons {p : Char → Bool} {c : Char} (outside : p c = false) (s : List Char) :
    StopsAt p (c :: s) := by
  intro d first
  cases first
  exact outside

theorem stopsAt_dropWhile (p : Char → Bool) (s : List Char) : StopsAt p (s.dropWhile p) := by
  intro c first
  have kept := List.head?_dropWhile_not p s
  rw [Option.mem_def.1 first] at kept
  simpa using kept

theorem takeWhile_row {p : Char → Bool} {row s : List Char} (inside : ∀ c ∈ row, p c = true)
    (stop : StopsAt p s) :
    (row ++ s).takeWhile p = row ∧ (row ++ s).dropWhile p = s := by
  rw [List.takeWhile_append_of_pos inside, List.dropWhile_append_of_pos inside]
  cases s with
  | nil => simp
  | cons c s =>
      have outside : p c = false := stop c rfl
      simp [outside]

theorem mem_takeWhile {p : Char → Bool} {s : List Char} {c : Char} (member : c ∈ s.takeWhile p) :
    p c = true :=
  List.all_eq_true.1 List.all_takeWhile c member

theorem readByte?_eq_some {s r : List Char} {b : UInt8} :
    readByte? s = some (b, r) ↔ ∃ ds, s = ds ++ r ∧ ByteSpelling ds b ∧ StopsAt isDigit r := by
  constructor
  · intro read
    simp only [readByte?] at read
    split at read
    · rename_i spelled
      obtain ⟨nonempty, short, leading, below⟩ := spelled
      cases read
      refine ⟨_, List.takeWhile_append_dropWhile.symm, ⟨nonempty, fun _ => mem_takeWhile, short,
        leading, ?_⟩, stopsAt_dropWhile _ _⟩
      rw [UInt8.toNat_ofNat', Nat.mod_eq_of_lt below]
    · cases read
  · rintro ⟨ds, rfl, spelling, stop⟩
    obtain ⟨digits, rest⟩ := takeWhile_row spelling.digits stop
    simp only [readByte?, digits, rest, spelling.value]
    rw [if_pos ⟨spelling.nonempty, spelling.short, spelling.leading, b.toNat_lt⟩, UInt8.ofNat_toNat]

theorem readSign?_eq_some {c : Char} {s r : List Char} : readSign? c s = some r ↔ s = c :: r := by
  cases s with
  | nil => simp [readSign?]
  | cons d s =>
      rw [readSign?]
      split
      · rename_i same
        simp [same]
      · rename_i other
        simp [other]

theorem readDotted?_eq_some {s r : List Char} {q : UInt8 × UInt8 × UInt8 × UInt8} :
    readDotted? s = some (q, r) ↔ ∃ cs, s = cs ++ r ∧ DottedSpelling cs q ∧ StopsAt isDigit r := by
  have point (s : List Char) : StopsAt isDigit ('.' :: s) := stopsAt_cons (by decide) s
  constructor
  · intro read
    simp only [readDotted?, Option.bind_eq_bind, Option.bind_eq_some_iff, Option.pure_def,
      Prod.exists, readByte?_eq_some, readSign?_eq_some] at read
    obtain ⟨a, _, ⟨w, rfl, first, -⟩, _, rfl, b, _, ⟨x, rfl, second, -⟩, _, rfl, c, _,
      ⟨y, rfl, third, -⟩, _, rfl, d, _, ⟨z, rfl, fourth, stop⟩, result⟩ := read
    cases result
    refine ⟨_, ?_, .mk first second third fourth, stop⟩
    simp only [List.append_assoc, List.cons_append]
  · rintro ⟨_, rfl, ⟨first, second, third, fourth⟩, stop⟩
    have inner {ds : List Char} {b : UInt8} (spelling : ByteSpelling ds b) (t : List Char) :
        readByte? (ds ++ '.' :: t) = some (b, '.' :: t) :=
      readByte?_eq_some.2 ⟨ds, rfl, spelling, stopsAt_cons (by decide) t⟩
    have last := readByte?_eq_some.2 ⟨_, rfl, fourth, stop⟩
    simp only [readDotted?, List.append_assoc, List.cons_append, inner first, inner second,
      inner third, last, readSign?, if_pos, Option.bind_eq_bind, Option.bind_some, Option.pure_def]

theorem readGroup?_eq_some {s r : List Char} {g : UInt16} :
    readGroup? s = some (g, r) ↔ ∃ ds, s = ds ++ r ∧ GroupSpelling ds g ∧ StopsAt isHexDigit r := by
  constructor
  · intro read
    simp only [readGroup?] at read
    split at read
    · rename_i spelled
      obtain ⟨nonempty, short⟩ := spelled
      cases read
      refine ⟨_, List.takeWhile_append_dropWhile.symm, ⟨nonempty, fun _ => mem_takeWhile, short,
        ?_⟩, stopsAt_dropWhile _ _⟩
      rw [UInt16.toNat_ofNat', Nat.mod_eq_of_lt (hexDigitsValue_lt short)]
    · cases read
  · rintro ⟨ds, rfl, spelling, stop⟩
    obtain ⟨digits, rest⟩ := takeWhile_row spelling.digits stop
    simp only [readGroup?, digits, rest, spelling.value]
    rw [if_pos ⟨spelling.nonempty, spelling.short⟩, UInt16.ofNat_toNat]

def EndsGroups (s : List Char) : Prop := s = [] ∨ ∃ r, s = ':' :: ':' :: r

def AfterGroup (s : List Char) : Prop := s = [] ∨ ∃ r, s = ':' :: r

theorem AfterGroup.nil : AfterGroup [] := .inl rfl

theorem AfterGroup.colon (s : List Char) : AfterGroup (':' :: s) := .inr ⟨s, rfl⟩

theorem EndsGroups.after {s : List Char} (ends : EndsGroups s) : AfterGroup s := by
  rcases ends with rfl | ⟨r, rfl⟩
  · exact .nil
  · exact .colon _

theorem AfterGroup.stopsAt {s : List Char} (after : AfterGroup s) {p : Char → Bool}
    (outside : p ':' = false) : StopsAt p s := by
  rcases after with rfl | ⟨r, rfl⟩
  · exact stopsAt_nil p
  · exact stopsAt_cons outside r

theorem readDotted?_none {s : List Char} (noPoint : (s.dropWhile isDigit).head? ≠ some '.') :
    readDotted? s = none := by
  rw [Option.eq_none_iff_forall_ne_some]
  rintro ⟨q, r⟩ read
  obtain ⟨_, rfl, ⟨first, -, -, -⟩, -⟩ := readDotted?_eq_some.1 read
  rw [List.append_assoc, List.cons_append,
    (takeWhile_row first.digits (stopsAt_cons (by decide) _)).2] at noPoint
  exact noPoint rfl

theorem readDotted?_group {ds s : List Char} (hex : ∀ c ∈ ds, isHexDigit c = true)
    (after : AfterGroup s) : readDotted? (ds ++ s) = none := by
  -- decimal digits may begin the group, but what stops them is a letter or a colon
  refine readDotted?_none ?_
  induction ds with
  | nil => rcases after with rfl | ⟨r, rfl⟩ <;> simp [isDigit]
  | cons c ds ih =>
      rw [List.forall_mem_cons] at hex
      rw [List.cons_append, List.dropWhile_cons]
      split
      · exact ih hex.2
      · rw [List.head?_cons, ne_eq, Option.some.injEq]
        rintro rfl
        exact absurd hex.1 (by decide)

theorem readDotted?_after {s : List Char} (after : AfterGroup s) : readDotted? s = none :=
  @readDotted?_group [] s nofun after

theorem readGroup?_after {s : List Char} (after : AfterGroup s) : readGroup? s = none := by
  rw [Option.eq_none_iff_forall_ne_some]
  rintro ⟨g, r⟩ read
  obtain ⟨ds, rfl, spelling, -⟩ := readGroup?_eq_some.1 read
  obtain ⟨c, ds, rfl⟩ := List.exists_cons_of_ne_nil spelling.nonempty
  have outside : isHexDigit c = false := after.stopsAt (by decide) c rfl
  rw [spelling.digits c List.mem_cons_self] at outside
  cases outside

def lead (first : Bool) : List Char := if first then [] else [':']

theorem readGroups_end {s : List Char} (ends : EndsGroups s) (first : Bool) (n : Nat) :
    readGroups first s n = ⟨[], false, s⟩ := by
  cases n with
  | zero => rfl
  | succ n =>
      rcases ends with rfl | ⟨r, rfl⟩
      · cases first <;> simp [readGroups, readSign?, readDotted?_after .nil, readGroup?_after .nil]
      · cases first <;>
          simp [readGroups, readSign?, readDotted?_after (.colon _), readGroup?_after (.colon _)]

theorem readGroups_group {ds s : List Char} {g : UInt16} (spelling : GroupSpelling ds g)
    (after : AfterGroup s) (first : Bool) (n : Nat) :
    readGroups first (lead first ++ (ds ++ s)) (n + 1) =
      ⟨g :: (readGroups false s n).groups, (readGroups false s n).dottedTail,
        (readGroups false s n).rest⟩ := by
  have noDotted : (if n = 0 then none else readDotted? (ds ++ s)) = none := by
    rw [readDotted?_group spelling.digits after, ite_self]
  have read : readGroup? (ds ++ s) = some (g, s) :=
    readGroup?_eq_some.2 ⟨ds, rfl, spelling, after.stopsAt (by decide)⟩
  cases first <;> simp [readGroups, lead, readSign?, noDotted, read]

theorem readGroups_row {dotted : Bool} {cs : List Char} {gs : List UInt16}
    (row : RowSpelling dotted cs gs) {s : List Char} (ends : EndsGroups s) (first : Bool) {n : Nat}
    (room : gs.length ≤ n) : readGroups first (lead first ++ (cs ++ s)) n = ⟨gs, dotted, s⟩ := by
  induction row generalizing first n with
  | group spelling =>
      obtain ⟨n, rfl⟩ : ∃ m, n = m + 1 := Nat.exists_eq_add_of_le' room
      rw [readGroups_group spelling ends.after, readGroups_end ends]
  | @dotted cs a b c d spelling =>
      obtain ⟨n, rfl⟩ := Nat.exists_eq_add_of_le' room
      have read := readDotted?_eq_some.2 ⟨cs, rfl, spelling, ends.after.stopsAt (by decide)⟩
      cases first <;> simp [readGroups, lead, readSign?, read]
  | more spelling rest ih =>
      obtain ⟨n, rfl⟩ := Nat.exists_eq_add_of_le' (Nat.le_trans (Nat.le_add_left 1 _) room)
      have step := ih false (Nat.le_of_succ_le_succ room)
      rw [List.append_assoc, List.cons_append, readGroups_group spelling (.colon _)]
      rw [lead, if_neg Bool.false_ne_true, List.singleton_append] at step
      rw [step]

theorem lead_ok {first : Bool} {s t : List Char}
    (begun : (if first then some s else readSign? ':' s) = some t) : s = lead first ++ t := by
  cases first with
  | true =>
      cases begun
      rfl
  | false => exact readSign?_eq_some.1 begun

theorem readGroups_ok (first : Bool) (s : List Char) (n : Nat) :
    (readGroups first s n).groups.length ≤ n ∧
      (readGroups first s n = ⟨[], false, s⟩ ∨
        ∃ cs, s = lead first ++ (cs ++ (readGroups first s n).rest) ∧
          RowSpelling (readGroups first s n).dottedTail cs (readGroups first s n).groups) := by
  fun_induction readGroups first s n with
  | case1 => exact ⟨Nat.le_refl _, .inl rfl⟩
  | case2 => exact ⟨Nat.zero_le _, .inl rfl⟩
  | case3 first s n t begun a b c d r read =>
      split at read
      · cases read
      · obtain ⟨cs, rfl, spelling, -⟩ := readDotted?_eq_some.1 read
        refine ⟨?_, .inr ⟨cs, lead_ok begun, .dotted spelling⟩⟩
        simp only [List.length_cons, List.length_nil]
        omega
  | case4 => exact ⟨Nat.zero_le _, .inl rfl⟩
  | case5 first s n t begun _ g r read more ih =>
      obtain ⟨ds, rfl, spelling, -⟩ := readGroup?_eq_some.1 read
      obtain ⟨room, rest⟩ := ih
      refine ⟨Nat.succ_le_succ room, .inr ?_⟩
      rcases rest with nothing | ⟨cs, left, row⟩
      · refine ⟨ds, ?_, ?_⟩
        · rw [lead_ok begun]
          simp only [more, nothing]
        · simp only [more, nothing]
          exact .group spelling
      · refine ⟨ds ++ ':' :: cs, ?_, .more spelling row⟩
        rw [lead_ok begun, left]
        simp [lead, more]

theorem readGroups_side (s : List Char) (n : Nat) :
    (readGroups true s n).groups.length ≤ n ∧ ∃ cs, s = cs ++ (readGroups true s n).rest ∧
      SideSpelling (readGroups true s n).dottedTail cs (readGroups true s n).groups := by
  obtain ⟨room, nothing | ⟨cs, left, row⟩⟩ := readGroups_ok true s n
  · rw [nothing] at room ⊢
    exact ⟨room, [], rfl, .nothing⟩
  · exact ⟨room, cs, left, .row row⟩

theorem readGroups_of_side {dotted : Bool} {cs : List Char} {gs : List UInt16}
    (side : SideSpelling dotted cs gs) {s : List Char} (ends : EndsGroups s) {n : Nat}
    (room : gs.length ≤ n) : readGroups true (cs ++ s) n = ⟨gs, dotted, s⟩ := by
  cases side with
  | nothing => exact readGroups_end ends true n
  | row row => exact readGroups_row row ends true room

theorem length_of_ofGroups? {gs : List UInt16} {a : Address} (eight : ofGroups? gs = some a) :
    gs.length = 8 := by
  unfold ofGroups? at eight
  split at eight
  · rfl
  · cases eight

theorem readDotted?_row {dotted : Bool} {cs : List Char} {gs : List UInt16}
    (row : RowSpelling dotted cs gs) (long : dotted = true → 2 < gs.length) {s : List Char}
    (after : AfterGroup s) : readDotted? (cs ++ s) = none := by
  cases row with
  | group spelling => exact readDotted?_group spelling.digits after
  | dotted spelling => exact absurd (long rfl) (Nat.lt_irrefl 2)
  | more spelling rest =>
      rw [List.append_assoc]
      exact readDotted?_group spelling.digits (.colon _)

theorem read?_spelling {cs : List Char} {a : Address} (spelling : Spelling cs a) :
    read? cs = some (a, []) := by
  cases spelling with
  | @dotted cs a b c d spelling =>
      have read := readDotted?_eq_some.2 ⟨cs, (List.append_nil cs).symm, spelling, stopsAt_nil _⟩
      simp only [read?, read]
  | @whole dotted cs gs a row eight =>
      have length := length_of_ofGroups? eight
      have notDotted := readDotted?_row row (fun _ => by omega) .nil
      have read := readGroups_row row (.inl rfl) true (Nat.le_of_eq length)
      rw [List.append_nil] at notDotted
      rw [lead, if_pos rfl, List.nil_append, List.append_nil] at read
      simp [read?, notDotted, readV6?, read, length, eight]
  | @shortened dotted front back hs ts a left right room eight =>
      have notDotted : readDotted? (front ++ ':' :: ':' :: back) = none := by
        cases left with
        | nothing => exact readDotted?_after (.colon _)
        | row row => exact readDotted?_row row nofun (.colon _)
      have head := readGroups_of_side left (.inr ⟨back, rfl⟩) (n := 8) (by omega)
      have tail := readGroups_of_side right (.inl rfl) (n := 7 - hs.length) (by omega)
      rw [List.append_nil] at tail
      simp only [read?, notDotted, readV6?, head, readSign?, if_pos, Option.bind_eq_bind,
        Option.bind_some, tail, eight, Option.pure_def]
      rw [if_neg (by omega), if_neg (by decide)]

theorem spelling_of_readV6? {s : List Char} {a : Address} (read : readV6? s = some (a, [])) :
    Spelling s a := by
  obtain ⟨most, front, split, left⟩ := readGroups_side s 8
  unfold readV6? at read
  dsimp only at read
  generalize readGroups true s 8 = head at most split left read
  obtain ⟨hs, dotted, rest⟩ := head
  dsimp only at most split left read
  split at read
  · rename_i length
    simp only [Option.bind_eq_bind, Option.bind_eq_some_iff, Option.pure_def, Option.some.injEq,
      Prod.mk.injEq] at read
    obtain ⟨_, eight, rfl, rfl⟩ := read
    rw [List.append_nil] at split
    subst split
    cases left with
    | nothing => cases length
    | row row => exact .whole row eight
  · split at read
    · cases read
    · rename_i eight plain
      rw [Bool.not_eq_true] at plain
      simp only [Option.bind_eq_bind, Option.bind_eq_some_iff, Option.pure_def, Option.some.injEq,
        Prod.mk.injEq, readSign?_eq_some] at read
      obtain ⟨_, rfl, t, rfl, _, groups, rfl, ended⟩ := read
      obtain ⟨room, back, tail, right⟩ := readGroups_side t (7 - hs.length)
      rw [ended, List.append_nil] at tail
      subst plain split tail
      exact .shortened left right (by omega) groups

theorem spelling_of_read? {s : List Char} {a : Address} (read : read? s = some (a, [])) :
    Spelling s a := by
  unfold read? at read
  split at read
  · rename_i found
    cases read
    obtain ⟨cs, rfl, spelling, -⟩ := readDotted?_eq_some.1 found
    rw [List.append_nil]
    exact .dotted spelling
  · exact spelling_of_readV6? read

theorem parse?_eq_some {s : String} {a : Address} : parse? s = some a ↔ Spelling s.toList a := by
  rw [parse?]
  constructor
  · intro parsed
    split at parsed
    · rename_i read
      cases parsed
      exact spelling_of_read? read
    · cases parsed
  · intro spelling
    rw [read?_spelling spelling]

end ClusterDirectory.Address
