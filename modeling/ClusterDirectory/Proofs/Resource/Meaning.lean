import ClusterDirectory.Proofs.Json.Exact.Value
import ClusterDirectory.Resource.Reader
import Mathlib.Data.List.Induction

/-!
# What an object says of a resource

The members of an object, as they are written, denote a resource when each declared field stands
there at most once with a value of its type and the other members are kept (`Resource.Denotes`). The
reader of resources accepts the spellings of just these objects, as far as the extra values are not
too deep, and gives what they denote (`understands_resource`, `denotes_of_draft?`,
`draft?_of_denotes`).
-/

namespace ClusterDirectory

open Json

/-! ## Fields -/

namespace Field

def Content : Field → Type
  | .kind => Kind
  | .labels | .annotations => KeyMap String
  | .addresses => List Address
  | .secondaryNetworks => List String
  | _ => String

def get : (f : Field) → Resource → f.Content
  | .kind, r => r.kind
  | .name, r => r.name
  | .namespaceName, r => r.namespaceName
  | .labels, r => r.labels
  | .annotations, r => r.annotations
  | .ownerName, r => r.ownerName
  | .ownerKind, r => r.ownerKind
  | .hostName, r => r.hostName
  | .hostAddress, r => r.hostAddress
  | .networkName, r => r.networkName
  | .addresses, r => r.addresses
  | .secondaryNetworks, r => r.secondaryNetworks

def wordOrNull? : Json → Option String := orNull? text?

def mapOrNull? : Json → Option (KeyMap String) := orNull? (mapOf? text?)

def listOrNull? : Json → Option (List String) := orNull? (listOf? text?)

def content? : (f : Field) → Json → Option f.Content
  | .kind, v => v.word?.map Kind.ofName
  | .name, v => v.text?
  | .namespaceName, v => wordOrNull? v
  | .labels, v => mapOrNull? v
  | .annotations, v => mapOrNull? v
  | .ownerName, v => wordOrNull? v
  | .ownerKind, v => wordOrNull? v
  | .hostName, v => wordOrNull? v
  | .hostAddress, v => wordOrNull? v
  | .networkName, v => wordOrNull? v
  | .addresses, v => (listOrNull? v).map (·.filterMap Address.parse?)
  | .secondaryNetworks, v => listOrNull? v

theorem key_of_ofKey? {key : String} {f : Field} (found : ofKey? key = some f) : key = f.key := by
  have named := List.find?_some (p := fun f : Field => f.key == key) found
  exact (beq_iff_eq.1 named).symm

theorem key_inj {f g : Field} (same : f.key = g.key) : f = g := by
  have found := congrArg ofKey? same
  rw [ofKey?_key, ofKey?_key, Option.some.injEq] at found
  exact found

end Field

theorem Resource.ext_fields {r q : Resource} (fields : ∀ f : Field, f.get r = f.get q)
    (extra : r.extra = q.extra) : r = q := by
  obtain ⟨_, _, _, _, _, _, _, _, _, _, _, _, _⟩ := r
  obtain ⟨_, _, _, _, _, _, _, _, _, _, _, _, _⟩ := q
  cases fields .kind
  cases fields .name
  cases fields .namespaceName
  cases fields .labels
  cases fields .annotations
  cases fields .ownerName
  cases fields .ownerKind
  cases fields .hostName
  cases fields .hostAddress
  cases fields .networkName
  cases fields .addresses
  cases fields .secondaryNetworks
  cases extra
  rfl

namespace Resource

def extraOf (ms : List (String × Json)) : KeyMap Json :=
  KeyMap.ofMembers ((ms.filter fun m => (Field.ofKey? m.1).isNone).map fun m => (m.1, m.2.settled))

/-- The members of an object are those of a resource. A field that is missing is worth `null`, which
neither a kind nor a name can be. -/
structure Denotes (ms : List (String × Json)) (r : Resource) : Prop where
  once : ∀ f : Field, (ms.map Prod.fst).count f.key ≤ 1
  present : ∀ (f : Field) (v : Json), (f.key, v) ∈ ms → f.content? v = some (f.get r)
  missing : ∀ f : Field, f.key ∉ ms.map Prod.fst → f.content? .null = some (f.get r)
  extra : r.extra = extraOf ms

theorem Denotes.unique {ms : List (String × Json)} {r q : Resource} (first : Denotes ms r)
    (second : Denotes ms q) : r = q := by
  refine ext_fields (fun f => Option.some.inj ?_) (first.extra.trans second.extra.symm)
  by_cases present : f.key ∈ ms.map Prod.fst
  · obtain ⟨⟨key, v⟩, member, eq⟩ := List.mem_map.1 present
    cases eq
    exact (first.present f v member).symm.trans (second.present f v member)
  · exact (first.missing f present).symm.trans (second.missing f present)

theorem Denotes.of_perm {ms ns : List (String × Json)} {r : Resource} (denotes : Denotes ms r)
    (perm : ms.Perm ns) (extra : extraOf ms = extraOf ns) : Denotes ns r where
  once f := by
    rw [← (perm.map _).count_eq]
    exact denotes.once f
  present f v member := denotes.present f v (perm.mem_iff.2 member)
  missing f missing := by
    rw [← (perm.map _).mem_iff] at missing
    exact denotes.missing f missing
  extra := denotes.extra.trans extra

theorem Denotes.replace {ms ns : List (String × Json)} {key : String} {v w : Json} {r : Resource}
    (denotes : Denotes (ms ++ (key, v) :: ns) r)
    (content : ∀ f : Field, f.key = key →
      f.content? v = some (f.get r) → f.content? w = some (f.get r))
    (extra : extraOf (ms ++ (key, v) :: ns) = extraOf (ms ++ (key, w) :: ns)) :
    Denotes (ms ++ (key, w) :: ns) r where
  once f := by simpa using denotes.once f
  present f u member := by
    simp only [List.mem_append, List.mem_cons] at member
    rcases member with before | same | after
    · exact denotes.present f u (List.mem_append_left _ before)
    · cases same
      exact content f rfl (denotes.present f v List.mem_append_cons_self)
    · exact denotes.present f u (List.mem_append_right _ (List.mem_cons_of_mem _ after))
  missing f missing := denotes.missing f (by simpa using missing)
  extra := denotes.extra.trans extra

/-! ## Members one by one -/

namespace Draft

def put? (d : Draft) (f : Field) : Json → Option Draft :=
  let set {α : Type} (sense : Json → Option α) (update : Resource → α → Resource) (v : Json) :
      Option Draft :=
    (sense v).map fun a => { d with resource := update d.resource a }
  match f with
  | .kind => set (choice? fun name => .ok (Kind.ofName name)) fun r a => { r with kind := a }
  | .name => set text? fun r a => { r with name := a }
  | .namespaceName => set (orNull? text?) fun r a => { r with namespaceName := a }
  | .labels => set (orNull? (mapOf? text?)) fun r a => { r with labels := a }
  | .annotations => set (orNull? (mapOf? text?)) fun r a => { r with annotations := a }
  | .ownerName => set (orNull? text?) fun r a => { r with ownerName := a }
  | .ownerKind => set (orNull? text?) fun r a => { r with ownerKind := a }
  | .hostName => set (orNull? text?) fun r a => { r with hostName := a }
  | .hostAddress => set (orNull? text?) fun r a => { r with hostAddress := a }
  | .networkName => set (orNull? text?) fun r a => { r with networkName := a }
  | .addresses => fun v => (orNull? (listOf? text?) v).map d.withAddresses
  | .secondaryNetworks => set (orNull? (listOf? text?)) fun r a => { r with secondaryNetworks := a }

theorem understands_readField (d : Draft) (f : Field) :
    Understands ValueSpelling (d.readField f) (d.put? f) := by
  have text := understands_text.orNull
  have map := understands_text.mapOf.orNull
  have list := understands_text.listOf.orNull
  unfold readField put?
  cases f with
  | kind => exact (Understands.choice _).map _
  | name => exact understands_text.map _
  | namespaceName => exact text.map _
  | labels => exact map.map _
  | annotations => exact map.map _
  | ownerName => exact text.map _
  | ownerKind => exact text.map _
  | hostName => exact text.map _
  | hostAddress => exact text.map _
  | networkName => exact text.map _
  | addresses => exact list.map _
  | secondaryNetworks => exact list.map _

theorem choice?_ofName (v : Json) :
    choice? (fun name => .ok (Kind.ofName name)) v = v.word?.map Kind.ofName := by
  rw [choice?]
  cases v.word? <;> rfl

theorem put?_some {d next : Draft} {f : Field} {v : Json} (put : d.put? f v = some next) :
    f.content? v = some (f.get next.resource) ∧
      (∀ g, g ≠ f → g.get next.resource = g.get d.resource) ∧
      next.resource.extra = d.resource.extra ∧ next.seen = d.seen := by
  cases f
  all_goals
    obtain ⟨a, meaning, rfl⟩ := Option.map_eq_some_iff.1 put
    refine ⟨?_, fun g ne => by cases g <;> first | rfl | exact absurd rfl ne, rfl, rfl⟩
  case kind => exact (choice?_ofName v).symm.trans meaning
  case addresses => exact congrArg (Option.map _) meaning
  all_goals exact meaning

theorem put?_isSome {f : Field} {v : Json} {a : f.Content} (meaning : f.content? v = some a)
    (d : Draft) : ∃ next, d.put? f v = some next := by
  cases f
  case kind =>
    have chosen := (choice?_ofName v).trans meaning
    exact ⟨_, congrArg (Option.map _) chosen⟩
  case addresses =>
    obtain ⟨words, meaning, _⟩ := Option.map_eq_some_iff.1 meaning
    exact ⟨_, congrArg (Option.map _) meaning⟩
  all_goals exact ⟨_, congrArg (Option.map _) meaning⟩

def take? (room : Nat) (d : Draft) (key : String) (v : Json) : Option Draft :=
  match Field.ofKey? key with
  | some f => if f ∈ d.seen then none else (d.see f).put? f v
  | none => (within room v).map (d.addExtra key)

def takeAll? (room : Nat) (ms : List (String × Json)) : Option Draft :=
  ms.foldlM (fun d m => d.take? room m.1 m.2) {}

section

variable {room : Nat} {d : Draft} {key : String}

theorem take?_fresh {f : Field} (found : Field.ofKey? key = some f) (fresh : f ∉ d.seen) :
    take? room d key = (d.see f).put? f := by
  funext v
  rw [take?, found]
  exact if_neg fresh

theorem take?_seen {f : Field} (found : Field.ofKey? key = some f) (seen : f ∈ d.seen) (v : Json) :
    take? room d key v = none := by
  rw [take?, found]
  exact if_pos seen

theorem take?_undeclared (undeclared : Field.ofKey? key = none) :
    take? room d key = fun v => (within room v).map (d.addExtra key) := by
  funext v
  rw [take?, undeclared]

end

theorem understands_fields (room : Nat) :
    UnderstandsMembers (fields room) (fun _ => ValueSpelling) (take? room) where
  known {d key reader} known := by
    simp only [fields, field] at known
    split at known
    · rename_i f found
      split at known
      · cases known
      · rename_i fresh
        cases known
        rw [take?_fresh found fresh]
        exact understands_readField (d.see f) f
    · rename_i undeclared
      cases known
      rw [take?_undeclared undeclared]
      exact (understands_value room).map _
  refused {d key cause v} refused := by
    simp only [fields, field] at refused
    split at refused
    · rename_i f found
      split at refused
      · rename_i seen
        exact take?_seen found seen v
      · cases refused
    · cases refused

theorem takeAll?_concat (room : Nat) (ms : List (String × Json)) (m : String × Json) :
    takeAll? room (ms ++ [m]) = (takeAll? room ms).bind fun d => d.take? room m.1 m.2 := by
  rw [takeAll?, List.foldlM_append, ← takeAll?]
  simp only [List.foldlM_cons, List.foldlM_nil, bind_pure, Option.bind_eq_bind]

structure Holds (room : Nat) (ms : List (String × Json)) (d : Draft) : Prop where
  once : ∀ f : Field, (ms.map Prod.fst).count f.key ≤ 1
  seen : ∀ f : Field, f ∈ d.seen ↔ f.key ∈ ms.map Prod.fst
  present : ∀ (f : Field) (v : Json), (f.key, v) ∈ ms → f.content? v = some (f.get d.resource)
  blank : ∀ f : Field, f ∉ d.seen → f.get d.resource = f.get ({} : Draft).resource
  extra : d.resource.extra = extraOf ms
  shallow : ∀ m ∈ ms, Field.ofKey? m.1 = none → m.2.depth ≤ room

theorem Holds.nil (room : Nat) : Holds room [] {} where
  once f := by simp
  seen f := by simp
  present f v member := by cases member
  blank f _ := rfl
  extra := rfl
  shallow m member := by cases member

theorem extraOf_declared (ms : List (String × Json)) (f : Field) (v : Json) :
    extraOf (ms ++ [(f.key, v)]) = extraOf ms := by
  simp [extraOf, List.filter_append, Field.ofKey?_key]

theorem extraOf_undeclared (ms : List (String × Json)) {key : String} (v : Json)
    (undeclared : Field.ofKey? key = none) :
    extraOf (ms ++ [(key, v)]) = (extraOf ms).insert key v.settled := by
  simp [extraOf, List.filter_append, undeclared, KeyMap.ofMembers]

theorem Holds.declared {room : Nat} {ms : List (String × Json)} {d next : Draft} {f : Field}
    {v : Json} (holds : Holds room ms d) (fresh : f ∉ d.seen)
    (put : (d.see f).put? f v = some next) : Holds room (ms ++ [(f.key, v)]) next := by
  obtain ⟨meaning, others, extra, seen⟩ := put?_some put
  have new : f.key ∉ ms.map Prod.fst := fun member => fresh ((holds.seen f).2 member)
  refine ⟨fun g => ?_, fun g => ?_, fun g u member => ?_, fun g unseen => ?_, ?_, ?_⟩
  · rw [List.map_append, List.count_append]
    by_cases same : g = f
    · subst same
      simp [List.count_eq_zero_of_not_mem new]
    · have differs : f.key ≠ g.key := fun eq => same (Field.key_inj eq).symm
      simpa [differs] using holds.once g
  · rw [seen, see, List.mem_cons, holds.seen g, List.map_append, List.mem_append, or_comm]
    refine or_congr_right ⟨?_, fun member => Field.key_inj (List.mem_singleton.1 member)⟩
    rintro rfl
    exact List.mem_singleton_self _
  · rcases List.mem_append.1 member with earlier | last
    · have differs : g ≠ f := by
        rintro rfl
        exact new (List.mem_map_of_mem earlier)
      rw [others g differs]
      exact holds.present g u earlier
    · obtain ⟨named, rfl⟩ := Prod.mk.inj (List.mem_singleton.1 last)
      cases Field.key_inj named
      exact meaning
  · rw [seen, see, List.mem_cons, not_or] at unseen
    rw [others g unseen.1]
    exact holds.blank g unseen.2
  · rw [extra, extraOf_declared]
    exact holds.extra
  · intro m member undeclared
    rcases List.mem_append.1 member with earlier | last
    · exact holds.shallow m earlier undeclared
    · cases List.mem_singleton.1 last
      rw [Field.ofKey?_key] at undeclared
      cases undeclared

theorem get_addExtra (d : Draft) (key : String) (v : Json) (f : Field) :
    f.get (d.addExtra key v).resource = f.get d.resource := by
  cases f <;> rfl

theorem Holds.undeclared {room : Nat} {ms : List (String × Json)} {d : Draft} {key : String}
    {v : Json} (holds : Holds room ms d) (undeclared : Field.ofKey? key = none)
    (shallow : v.depth ≤ room) : Holds room (ms ++ [(key, v)]) (d.addExtra key v.settled) := by
  have other (g : Field) : key ≠ g.key := by
    rintro rfl
    rw [Field.ofKey?_key] at undeclared
    cases undeclared
  refine ⟨fun g => ?_, fun g => ?_, fun g u member => ?_, fun g unseen => ?_, ?_, ?_⟩
  · simpa [other g] using holds.once g
  · refine (holds.seen g).trans ?_
    simp [(other g).symm]
  · rw [get_addExtra]
    rcases List.mem_append.1 member with earlier | last
    · exact holds.present g u earlier
    · cases List.mem_singleton.1 last
      exact absurd rfl (other g)
  · rw [get_addExtra]
    exact holds.blank g unseen
  · rw [extraOf_undeclared ms v undeclared, ← holds.extra]
    rfl
  · intro m member unnamed
    rcases List.mem_append.1 member with earlier | last
    · exact holds.shallow m earlier unnamed
    · cases List.mem_singleton.1 last
      exact shallow

theorem holds_of_takeAll? {room : Nat} {ms : List (String × Json)} {d : Draft}
    (taken : takeAll? room ms = some d) : Holds room ms d := by
  -- the draft is built up from the left, so the last member is the one that comes off
  induction ms using List.reverseRecOn generalizing d with
  | nil =>
      cases taken
      exact .nil room
  | append_singleton ms m ih =>
      rw [takeAll?_concat] at taken
      obtain ⟨before, earlier, taken⟩ := Option.bind_eq_some_iff.1 taken
      have holds := ih earlier
      obtain ⟨key, v⟩ := m
      cases found : Field.ofKey? key with
      | some f =>
          obtain rfl : key = f.key := Field.key_of_ofKey? found
          by_cases seen : f ∈ before.seen
          · rw [take?_seen found seen] at taken
            cases taken
          · rw [take?_fresh found seen] at taken
            exact holds.declared seen taken
      | none =>
          rw [take?_undeclared found] at taken
          obtain ⟨a, enough, rfl⟩ := Option.map_eq_some_iff.1 taken
          rw [within] at enough
          split at enough
          · rename_i shallow
            cases enough
            exact holds.undeclared found shallow
          · cases enough

theorem takeAll?_isSome {room : Nat} {ms : List (String × Json)}
    (once : ∀ f : Field, (ms.map Prod.fst).count f.key ≤ 1)
    (present : ∀ (f : Field) (v : Json), (f.key, v) ∈ ms → ∃ a, f.content? v = some a)
    (shallow : ∀ m ∈ ms, Field.ofKey? m.1 = none → m.2.depth ≤ room) :
    ∃ d, takeAll? room ms = some d := by
  -- from the end: a field is fresh when no member before has its key
  induction ms using List.reverseRecOn with
  | nil => exact ⟨{}, rfl⟩
  | append_singleton ms m ih =>
      have before (f : Field) : (ms.map Prod.fst).count f.key ≤ 1 := by
        have both := once f
        rw [List.map_append, List.count_append] at both
        omega
      obtain ⟨d, earlier⟩ := ih before
        (fun f v member => present f v (List.mem_append_left _ member))
        (fun n member => shallow n (List.mem_append_left _ member))
      have holds := holds_of_takeAll? earlier
      rw [takeAll?_concat, earlier, Option.bind_some]
      obtain ⟨key, v⟩ := m
      cases found : Field.ofKey? key with
      | some f =>
          obtain rfl : key = f.key := Field.key_of_ofKey? found
          have fresh : f ∉ d.seen := by
            intro seen
            have twice := once f
            rw [List.map_append, List.count_append, List.map_singleton, List.count_singleton_self]
              at twice
            have earlier := List.count_pos_iff.2 ((holds.seen f).1 seen)
            omega
          obtain ⟨a, meaning⟩ := present f v (List.mem_append_right _ (List.mem_singleton_self _))
          rw [take?_fresh found fresh]
          exact put?_isSome meaning (d.see f)
      | none =>
          have enough := shallow (key, v) (by simp) found
          have kept : within room v = some v.settled := if_pos enough
          rw [take?_undeclared found]
          simp only [kept]
          exact ⟨_, rfl⟩

theorem finish_ok {d last : Draft} :
    d.finish = .ok last ↔ d = last ∧ .kind ∈ d.seen ∧ .name ∈ d.seen := by
  unfold finish
  by_cases kind : .kind ∈ d.seen
  · by_cases name : .name ∈ d.seen
    · simp [kind, name]
    · simp [kind, name]
  · simp [kind]

end Draft

/-! ## The whole object -/

def draft? (room : Nat) : Json → Option Draft
  | .object ms => (Draft.takeAll? room ms).bind fun d => d.finish.toOption
  | _ => none

theorem readDraft_ok {room : Nat} {d : Draft} {s r : List UInt8} :
    readDraft room s = .ok (d, r) ↔
      members (Draft.fields room) true {} s = .ok (d, r) ∧ d.finish = .ok d := by
  unfold readDraft
  constructor
  · intro read
    split at read
    · cases read
    · rename_i found
      split at read
      · rename_i finished
        cases read
        obtain ⟨rfl, seen⟩ := Draft.finish_ok.1 finished
        exact ⟨found, finished⟩
      · cases read
  · rintro ⟨found, finished⟩
    simp only [found, finished]

theorem draft?_object {room : Nat} {ms : List (String × Json)} {d : Draft} :
    draft? room (.object ms) = some d ↔ Draft.takeAll? room ms = some d ∧ d.finish = .ok d := by
  rw [draft?]
  constructor
  · intro known
    obtain ⟨before, taken, finished⟩ := Option.bind_eq_some_iff.1 known
    have finished := toOption_eq_some.1 finished
    obtain ⟨rfl, _⟩ := Draft.finish_ok.1 finished
    exact ⟨taken, finished⟩
  · rintro ⟨taken, finished⟩
    rw [taken, Option.bind_some, finished]
    rfl

theorem understands_resource (room : Nat) :
    Understands ValueSpelling (reader room) (draft? room) := by
  refine .typed (by decide) (fun read => ?_) (fun {t q v a} spelled known => ?_)
  · obtain ⟨found, finished⟩ := readDraft_ok.1 read
    obtain ⟨t, ms, entries, taken, rfl⟩ := members_ok (Draft.understands_fields room) found
    exact ⟨_, _, .object entries, draft?_object.2 ⟨taken, finished⟩, rfl⟩
  · cases spelled with
    | object entries =>
        obtain ⟨taken, finished⟩ := draft?_object.1 known
        have found := members_append (Draft.understands_fields room) entries taken q
        exact ⟨_, rfl, readDraft_ok.2 ⟨found, finished⟩⟩
    | _ => cases known

def Shallow (room : Nat) (ms : List (String × Json)) : Prop :=
  ∀ m ∈ ms, Field.ofKey? m.1 = none → m.2.depth ≤ room

theorem content?_null {f : Field} (optional : f ≠ .kind ∧ f ≠ .name) :
    f.content? .null = some (f.get ({} : Draft).resource) := by
  cases f
  case kind => exact absurd rfl optional.1
  case name => exact absurd rfl optional.2
  all_goals rfl

theorem denotes_of_draft? {room : Nat} {ms : List (String × Json)} {d : Draft}
    (known : draft? room (.object ms) = some d) : Denotes ms d.resource ∧ Shallow room ms := by
  obtain ⟨taken, finished⟩ := draft?_object.1 known
  obtain ⟨_, kind, name⟩ := Draft.finish_ok.1 finished
  have holds := Draft.holds_of_takeAll? taken
  refine ⟨⟨holds.once, holds.present, fun f missing => ?_, holds.extra⟩, holds.shallow⟩
  have unseen : f ∉ d.seen := fun seen => missing ((holds.seen f).1 seen)
  rw [holds.blank f unseen]
  refine content?_null ⟨?_, ?_⟩
  · rintro rfl
    exact unseen kind
  · rintro rfl
    exact unseen name

theorem Denotes.named {ms : List (String × Json)} {r : Resource} (denotes : Denotes ms r)
    {f : Field} (required : f.content? .null = none) : f.key ∈ ms.map Prod.fst := by
  by_contra missing
  have said := denotes.missing f missing
  rw [required] at said
  cases said

theorem draft?_of_denotes {room : Nat} {ms : List (String × Json)} {r : Resource}
    (denotes : Denotes ms r) (shallow : Shallow room ms) :
    ∃ d, draft? room (.object ms) = some d ∧ d.resource = r := by
  obtain ⟨d, taken⟩ := Draft.takeAll?_isSome denotes.once
    (fun f v member => ⟨_, denotes.present f v member⟩) shallow
  have holds := Draft.holds_of_takeAll? taken
  have kind := (holds.seen .kind).2 (denotes.named rfl)
  have name := (holds.seen .name).2 (denotes.named rfl)
  have known := draft?_object.2 ⟨taken, Draft.finish_ok.2 ⟨rfl, kind, name⟩⟩
  exact ⟨d, known, (denotes_of_draft? known).1.unique denotes⟩

/-! ## Depth -/

theorem forall_of_mapM {α β : Type} {f : α → Option β} {as : List α} {bs : List β}
    (known : as.mapM f = some bs) : ∀ a ∈ as, ∃ b, f a = some b := by
  induction as generalizing bs with
  | nil => simp
  | cons a as ih =>
      rw [List.mapM_cons] at known
      obtain ⟨b, first, known⟩ := Option.bind_eq_some_iff.1 known
      obtain ⟨cs, rest, _⟩ := Option.bind_eq_some_iff.1 known
      exact List.forall_mem_cons.2 ⟨⟨b, first⟩, ih rest⟩

theorem depth_text? {v : Json} {word : String} (known : v.text? = some word) : v.depth ≤ 0 := by
  cases v with
  | text => exact Nat.le_refl 0
  | _ => cases known

theorem depth_word? {v : Json} {word : String} (known : v.word? = some word) : v.depth ≤ 1 := by
  unfold word? at known
  split at known
  · exact Nat.zero_le 1
  · exact Nat.le_refl 1
  · cases known

theorem depth_listOf? {v : Json} {words : List String} (known : listOf? text? v = some words) :
    v.depth ≤ 1 := by
  cases v with
  | list vs =>
      rw [depth, Nat.add_le_add_iff_right, depthOfItems_le]
      intro v member
      obtain ⟨word, text⟩ := forall_of_mapM known v member
      exact depth_text? text
  | _ => cases known

theorem depth_mapOf? {v : Json} {map : KeyMap String} (known : mapOf? text? v = some map) :
    v.depth ≤ 1 := by
  cases v with
  | object ms =>
      rw [depth, Nat.add_le_add_iff_right, depthOfMembers_le]
      intro m member
      obtain ⟨ns, known, _⟩ := Option.map_eq_some_iff.1 known
      obtain ⟨n, known⟩ := forall_of_mapM known m member
      obtain ⟨word, text, _⟩ := Option.map_eq_some_iff.1 known
      exact depth_text? text
  | _ => cases known

theorem depth_orNull? {α : Type} [Inhabited α] {sense : Json → Option α} {n : Nat}
    (bound : ∀ {v a}, sense v = some a → v.depth ≤ n) {v : Json} {a : α}
    (known : orNull? sense v = some a) : v.depth ≤ n := by
  cases v with
  | null => exact Nat.zero_le n
  | _ => exact bound known

theorem depth_content? {f : Field} {v : Json} {a : f.Content} (known : f.content? v = some a) :
    v.depth ≤ 1 := by
  have word {v : Json} {word : String} (known : Field.wordOrNull? v = some word) : v.depth ≤ 1 :=
    Nat.le_trans (depth_orNull? depth_text? known) (Nat.zero_le 1)
  have map {v : Json} {map : KeyMap String} (known : Field.mapOrNull? v = some map) : v.depth ≤ 1 :=
    depth_orNull? depth_mapOf? known
  have list {v : Json} {words : List String} (known : Field.listOrNull? v = some words) :
      v.depth ≤ 1 :=
    depth_orNull? depth_listOf? known
  cases f
  case kind =>
    obtain ⟨word, known, _⟩ := Option.map_eq_some_iff.1 known
    exact depth_word? known
  case name => exact Nat.le_trans (depth_text? known) (Nat.zero_le 1)
  case labels => exact map known
  case annotations => exact map known
  case addresses =>
    obtain ⟨words, known, _⟩ := Option.map_eq_some_iff.1 known
    exact list known
  case secondaryNetworks => exact list known
  all_goals exact word known

theorem Denotes.shallow_iff {ms : List (String × Json)} {r : Resource} (denotes : Denotes ms r)
    {room : Nat} (positive : 0 < room) : Shallow room ms ↔ (Json.object ms).depth ≤ room + 1 := by
  rw [depth, Nat.add_le_add_iff_right, depthOfMembers_le]
  -- the values of declared fields open one bracket at most, so the extra ones decide
  constructor
  · intro shallow m member
    cases found : Field.ofKey? m.1 with
    | none => exact shallow m member found
    | some f =>
        obtain ⟨key, v⟩ := m
        obtain rfl : key = f.key := Field.key_of_ofKey? found
        exact Nat.le_trans (depth_content? (denotes.present f v member)) positive
  · intro bound m member _
    exact bound m member

end Resource

end ClusterDirectory
