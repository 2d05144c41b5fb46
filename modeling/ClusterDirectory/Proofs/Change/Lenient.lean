import ClusterDirectory.Proofs.Change.Unique
import ClusterDirectory.Proofs.Updates.Handled
import Mathlib.Logic.Relation

/-!
# Fields that say nothing

A field of a resource that may be missing has a value that is as good as none, and so is `null`. A
text that spells no address is as good as none in the list of addresses. Whether such a value or
text stands in the object of a resource makes no difference to the resource that it denotes
(`Slack.denotes`), and so none to the change of a payload and to what is made of it
(`decode_exchanged`).
-/

namespace ClusterDirectory

open Json

namespace Field

def empty? : Field → Option Json
  | .kind | .name => none
  | .labels | .annotations => some (.object [])
  | .addresses | .secondaryNetworks => some (.list [])
  | _ => some (.text "")

def Blank (f : Field) (v : Json) : Prop := ∃ empty, f.empty? = some empty ∧ (v = .null ∨ v = empty)

theorem Blank.content? {f : Field} {v : Json} (blank : f.Blank v) :
    f.content? v = f.content? .null := by
  obtain ⟨empty, known, rfl | rfl⟩ := blank
  · rfl
  · cases f <;> cases known <;> rfl

theorem content?_invalid {word : String} (invalid : Address.parse? word = none)
    (vs us : List Json) : Field.addresses.content? (.list (vs ++ .text word :: us)) =
      Field.addresses.content? (.list (vs ++ us)) := by
  simp only [content?, listOrNull?, orNull?, listOf?, List.mapM_append, List.mapM_cons, text?,
    Option.bind_eq_bind]
  cases vs.mapM text? with
  | none => rfl
  | some before =>
      cases us.mapM text? with
      | none => rfl
      | some after =>
          have same : (before ++ word :: after).filterMap Address.parse? =
              (before ++ after).filterMap Address.parse? := by
            rw [List.filterMap_append, List.filterMap_cons_none invalid, ← List.filterMap_append]
          exact congrArg some same

theorem content?_texts (words : List String) :
    Field.addresses.content? (.list (words.map .text)) =
      some (words.filterMap Address.parse?) := by
  have texts : (words.map Json.text).mapM text? = some words := by
    induction words with
    | nil => rfl
    | cons word words ih => simp [ih, text?]
  simp only [content?, listOrNull?, orNull?, listOf?, texts]
  rfl

end Field

namespace Resource

/-- Another way to write the members of the same resource: a field that is missing is given a value
that says nothing, one such value stands for another, or the addresses have one more text that
spells none. -/
inductive Slack : List (String × Json) → List (String × Json) → Prop
  | insert {ms ns : List (String × Json)} {f : Field} {v : Json} (blank : f.Blank v)
      (fresh : f.key ∉ (ms ++ ns).map Prod.fst) : Slack (ms ++ ns) (ms ++ (f.key, v) :: ns)
  | replace {ms ns : List (String × Json)} {f : Field} {v w : Json} (blank : f.Blank v)
      (blank' : f.Blank w) : Slack (ms ++ (f.key, v) :: ns) (ms ++ (f.key, w) :: ns)
  | address {ms ns : List (String × Json)} {vs us : List Json} {word : String}
      (invalid : Address.parse? word = none) :
      Slack (ms ++ (Field.addresses.key, .list (vs ++ us)) :: ns)
        (ms ++ (Field.addresses.key, .list (vs ++ .text word :: us)) :: ns)

section

variable {ms ns : List (String × Json)} {f : Field} {v w : Json} {r : Resource}

theorem extraOf_middle (ms ns : List (String × Json)) (f : Field) (v : Json) :
    extraOf (ms ++ (f.key, v) :: ns) = extraOf (ms ++ ns) := by
  simp [extraOf, Field.ofKey?_key]

theorem Denotes.exchange (same : f.content? v = f.content? w)
    (denotes : Denotes (ms ++ (f.key, v) :: ns) r) : Denotes (ms ++ (f.key, w) :: ns) r := by
  refine denotes.replace (fun g named known => ?_) (by rw [extraOf_middle, extraOf_middle])
  cases Field.key_inj named
  rw [← same]
  exact known

theorem denotes_cons (same : f.content? v = f.content? .null) (fresh : f.key ∉ ms.map Prod.fst) :
    Denotes ms r ↔ Denotes ((f.key, v) :: ms) r := by
  have extra : extraOf ((f.key, v) :: ms) = extraOf ms := extraOf_middle [] ms f v
  constructor
  · intro denotes
    refine ⟨fun g => ?_, fun g u member => ?_, fun g missing => ?_, ?_⟩
    · rw [List.map_cons]
      by_cases named : g = f
      · subst named
        rw [List.count_cons_self, List.count_eq_zero_of_not_mem fresh]
      · rw [List.count_cons_of_ne fun eq => named (Field.key_inj eq).symm]
        exact denotes.once g
    · rcases List.mem_cons.1 member with new | old
      · obtain ⟨named, rfl⟩ := Prod.mk.inj new
        cases Field.key_inj named
        rw [same]
        exact denotes.missing _ fresh
      · exact denotes.present g u old
    · exact denotes.missing g fun old => missing (List.mem_cons_of_mem _ old)
    · exact denotes.extra.trans extra.symm
  · intro denotes
    refine ⟨fun g => ?_, fun g u member => ?_, fun g missing => ?_, denotes.extra.trans extra⟩
    · exact Nat.le_trans List.count_le_count_cons (denotes.once g)
    · exact denotes.present g u (List.mem_cons_of_mem _ member)
    · by_cases named : g = f
      · subst named
        rw [← same]
        exact denotes.present g v List.mem_cons_self
      · refine denotes.missing g fun member => ?_
        rcases List.mem_cons.1 member with eq | old
        · exact named (Field.key_inj eq)
        · exact missing old

theorem denotes_insert (same : f.content? v = f.content? .null)
    (fresh : f.key ∉ (ms ++ ns).map Prod.fst) :
    Denotes (ms ++ ns) r ↔ Denotes (ms ++ (f.key, v) :: ns) r := by
  have extra : extraOf ((f.key, v) :: (ms ++ ns)) = extraOf (ms ++ (f.key, v) :: ns) :=
    (extraOf_middle [] (ms ++ ns) f v).trans (extraOf_middle ms ns f v).symm
  rw [denotes_cons same fresh]
  exact ⟨fun denotes => denotes.of_perm List.perm_middle.symm extra,
    fun denotes => denotes.of_perm List.perm_middle extra.symm⟩

end

theorem Slack.denotes {ms ns : List (String × Json)} (slack : Slack ms ns) (r : Resource) :
    Denotes ms r ↔ Denotes ns r := by
  cases slack with
  | insert blank fresh => exact denotes_insert blank.content? fresh
  | replace blank blank' =>
      have same := blank.content?.trans blank'.content?.symm
      exact ⟨.exchange same, .exchange same.symm⟩
  | address invalid =>
      have same := Field.content?_invalid invalid
      exact ⟨.exchange (same _ _).symm, .exchange (same _ _)⟩

theorem Slack.shallow {ms ns : List (String × Json)} (slack : Slack ms ns) (room : Nat) :
    Shallow room ms ↔ Shallow room ns := by
  cases slack <;> simp [Shallow, or_imp, forall_and, Field.ofKey?_key]

theorem iff_of_slack {P : List (String × Json) → Prop} {ms ns : List (String × Json)}
    (step : ∀ {ms ns}, Slack ms ns → (P ms ↔ P ns)) (exchanged : Relation.EqvGen Slack ms ns) :
    P ms ↔ P ns := by
  induction exchanged with
  | rel ms ns slack => exact step slack
  | refl ms => rfl
  | symm ms ns _ ih => exact ih.symm
  | trans ms ns os _ _ first second => exact first.trans second

end Resource

namespace Change

inductive Envelope.Exchanged : Envelope → Envelope → Prop
  | object {ms ns : List (String × Option Json)} {rs qs : List (String × Json)}
      (exchanged : Relation.EqvGen Resource.Slack rs qs) :
      Exchanged (.object (ms ++ ("resource", some (.object rs)) :: ns))
        (.object (ms ++ ("resource", some (.object qs)) :: ns))
  | pair {operation : Json} {rs qs : List (String × Json)}
      (exchanged : Relation.EqvGen Resource.Slack rs qs) :
      Exchanged (.pair operation (.object rs)) (.pair operation (.object qs))

theorem Envelope.Exchanged.holds {e f : Envelope} (exchanged : e.Exchanged f) {operation : Json}
    {ms : List (String × Json)} (holds : e.Holds operation (.object ms)) :
    ∃ ns, f.Holds operation (.object ns) ∧ Relation.EqvGen Resource.Slack ms ns := by
  cases exchanged with
  | @object _ _ rs qs exchanged =>
      obtain ⟨first, second⟩ := holds
      rw [under_other (by decide)] at first
      obtain ⟨same, others⟩ := under_only.1 second
      cases same
      exact ⟨qs, ⟨by rw [under_other (by decide), first], under_only.2 ⟨rfl, others⟩⟩, exchanged⟩
  | @pair _ rs qs exchanged =>
      obtain ⟨rfl, same⟩ := holds
      cases same
      exact ⟨qs, ⟨rfl, rfl⟩, exchanged⟩

theorem Envelope.Holds.unique {e : Envelope} {operation operation' resource resource' : Json}
    (first : e.Holds operation resource) (second : e.Holds operation' resource') :
    operation = operation' ∧ resource = resource' := by
  cases e with
  | object ms =>
      have operations := first.1.symm.trans second.1
      have resources := first.2.symm.trans second.2
      simp only [List.cons.injEq, Option.some.injEq, and_true] at operations resources
      exact ⟨operations, resources⟩
  | pair => exact ⟨first.1.symm.trans second.1, first.2.symm.trans second.2⟩

theorem Envelope.Exchanged.denotes {e f : Envelope} (exchanged : e.Exchanged f) {c : Change}
    (denotes : e.Denotes c) : f.Denotes c := by
  obtain ⟨operation, ms, holds, known, denotes, bound⟩ := denotes
  obtain ⟨ns, holds', exchanged⟩ := exchanged.holds holds
  have denotes' := (Resource.iff_of_slack (fun slack => slack.denotes _) exchanged).1 denotes
  have shallow : Resource.Shallow 125 ms :=
    (denotes.shallow_iff (by decide)).2 ((depth_pair_le known).1 bound)
  have shallow' := (Resource.iff_of_slack (fun slack => slack.shallow _) exchanged).1 shallow
  have bound' := (depth_pair_le known).2 ((denotes'.shallow_iff (by decide)).1 shallow')
  exact ⟨operation, ns, holds', known, denotes', bound'⟩

/-- Fields that say nothing, and texts that spell no address, make no difference to the change of a
payload: the addresses are those that are spelled, in their order, and the updates are left in the
same state. -/
theorem decode_exchanged {p q : List UInt8} {e f : Envelope} {c : Change}
    (decoded : decode p = .ok c) (first : Spells p e) (exchanged : e.Exchanged f)
    (second : Spells q f) :
    decode q = .ok c ∧
      (∀ operation ms (words : List String), f.Holds operation (.object ms) →
        (Field.addresses.key, Json.list (words.map .text)) ∈ ms →
        c.resource.addresses = words.filterMap Address.parse?) ∧
      ∀ now (u : Updates), (u.handle now (.ok q)).1 = (u.handle now (.ok p)).1 := by
  obtain ⟨reading, found, change, named⟩ := decode_ok_iff.1 decoded
  obtain ⟨e', spelled, denotes⟩ := read_change.1 ⟨reading, found, change⟩
  cases spelled.unique first
  have denotes := exchanged.denotes denotes
  obtain ⟨reading', found', change'⟩ := read_change.2 ⟨f, second, denotes⟩
  have decoded' := decode_ok_iff.2 ⟨reading', found', change', named⟩
  refine ⟨decoded', fun operation ms words holds member => ?_, fun now u => ?_⟩
  · obtain ⟨_, _, holds', _, denotes', _⟩ := denotes
    obtain ⟨rfl, same⟩ := holds.unique holds'
    cases same
    have content := denotes'.present .addresses _ member
    rw [Field.content?_texts] at content
    exact (Option.some.inj content).symm
  · rw [Updates.handle_of_change (Updates.change?_of_decode decoded'),
      Updates.handle_of_change (Updates.change?_of_decode decoded)]

def departure (resource : List (String × Json)) : Envelope :=
  .object [("operation", some (.text "delete")), ("resource", some (.object resource))]

def bareNode : List (String × Json) :=
  [("kind", .text "Node"), ("name", .text "n"), ("ips", .list [.text "10.0.0.2"])]

def nodeText : List UInt8 := Text.bytes ("\x7b\"operation\":\"delete\",\"resource\":" ++
  "\x7b\"kind\":\"Node\",\"name\":\"n\",\"ips\":[\"10.0.0.2\"]\x7d\x7d")

def slackNode : List (String × Json) :=
  [("labels", .null), ("kind", .text "Node"), ("name", .text "n"),
    ("ips", .list [.text "none", .text "10.0.0.2"])]

def slackText : List UInt8 := Text.bytes ("\x7b\"operation\":\"delete\",\"resource\":" ++
  "\x7b\"labels\":null,\"kind\":\"Node\",\"name\":\"n\",\"ips\":[\"none\",\"10.0.0.2\"]\x7d\x7d")

theorem spells_departure {p s : List UInt8} {resource : List (String × Json)}
    (spelled : Entries 0x7D (MemberSpelling TextSpelling fun _ => ValueSpelling) true s resource)
    (bytes : p = 0x7B :: (quoted "operation" ++ 0x3A :: quoted "delete" ++
      0x2C :: (quoted "resource" ++ 0x3A :: 0x7B :: s ++ [0x7D]))) :
    Spells p (departure resource) := by
  have operation : MemberSpelling TextSpelling HeldSpelling
      (quoted "operation" ++ 0x3A :: quoted "delete") ("operation", some (.text "delete")) :=
    .mk (quoted_spelled (by decide +kernel)) .nil .nil
      (.kept (.inl rfl) (.text (quoted_spelled (by decide +kernel))))
  have resource : MemberSpelling TextSpelling HeldSpelling
      (quoted "resource" ++ 0x3A :: 0x7B :: s) ("resource", some (.object resource)) :=
    .mk (quoted_spelled (by decide +kernel)) .nil .nil (.kept (.inr rfl) (.object spelled))
  refine ⟨[], _, [], .nil, .object (.first operation (.next .nil resource (.close .nil))), .nil, ?_⟩
  rw [bytes]
  simp

theorem decode_exchanged_node :
    ∃ c, decode nodeText = .ok c ∧ decode slackText = .ok c ∧
      c.resource.addresses = [.v4 10 0 0 2] := by
  have text {word : String} (plain : ∀ b ∈ Text.bytes word, Plain b) :
      ValueSpelling (quoted word) (.text word) := .text (quoted_spelled plain)
  have member {name : String} {s : List UInt8} {v : Json} (plain : ∀ b ∈ Text.bytes name, Plain b)
      (spelled : ValueSpelling s v) : MemberSpelling TextSpelling (fun _ => ValueSpelling)
        (quoted name ++ 0x3A :: s) (name, v) := .mk (quoted_spelled plain) .nil .nil spelled
  have first : Spells nodeText (departure bareNode) := by
    refine spells_departure (.first (member ?_ (text ?_)) (.next .nil (member ?_ (text ?_))
      (.next .nil (member ?_ (.list (.first (text ?_) (.close .nil)))) (.close .nil)))) ?_
    all_goals decide +kernel
  have second : Spells slackText (departure slackNode) := by
    refine spells_departure (.first (member ?_ .null) (.next .nil (member ?_ (text ?_))
      (.next .nil (member ?_ (text ?_)) (.next .nil (member ?_
        (.list (.first (text ?_) (.next .nil (text ?_) (.close .nil))))) (.close .nil))))) ?_
    all_goals decide +kernel
  have labels : Resource.Slack bareNode _ :=
    @Resource.Slack.insert [] bareNode .labels .null ⟨_, rfl, .inl rfl⟩ (by decide)
  have address : Resource.Slack _ slackNode :=
    @Resource.Slack.address [("labels", .null), ("kind", .text "Node"), ("name", .text "n")] [] []
      [.text "10.0.0.2"] "none" (by decide +kernel)
  have exchanged : (departure bareNode).Exchanged (departure slackNode) :=
    @Envelope.Exchanged.object [("operation", some (.text "delete"))] [] _ _
      (.trans _ _ _ (.rel _ _ labels) (.rel _ _ address))
  have known : (decode nodeText).isOk := by decide +kernel
  cases decoded : decode nodeText with
  | error rejection =>
      rw [decoded] at known
      cases known
  | ok c =>
      obtain ⟨same, addresses, _⟩ := decode_exchanged decoded first exchanged second
      have listed := addresses (.text "delete") slackNode ["none", "10.0.0.2"] ⟨rfl, rfl⟩
        (by simp [slackNode, Field.key])
      refine ⟨c, rfl, same, listed.trans ?_⟩
      decide +kernel

end Change

end ClusterDirectory
