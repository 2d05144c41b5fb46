import ClusterDirectory.Proofs.Json.Exact.Value
import ClusterDirectory.Proofs.Json.Tree
import Mathlib.Data.List.Induction
import Mathlib.Data.List.Perm.Basic

/-!
# Members in another order

A shuffle puts the members of one object in another order, anywhere in a value (`Json.Shuffled`) or
in a text (`Tree.Shuffled`). Where no object repeats a key, the value that is kept is the same
(`Shuffled.settled`), and so is what a reader of one type makes of it (`Blind`). A shuffled text
means a shuffled value (`Means.shuffled`).
-/

namespace ClusterDirectory

variable {α β : Type}

theorem insertMember_perm {k : String} {ms : List (String × α)} (fresh : k ∉ ms.map Prod.fst)
    (v : α) : (insertMember k v ms).Perm ((k, v) :: ms) := by
  induction ms with
  | nil => exact .refl _
  | cons m ms ih =>
      rw [List.map_cons, List.mem_cons, not_or] at fresh
      rw [insertMember]
      split
      · exact .refl _
      rw [if_neg fresh.1]
      exact ((ih fresh.2).cons m).trans (.swap _ _ _)

namespace KeyMap

theorem eq_of_perm {m n : KeyMap α} (perm : m.members.Perm n.members) : m = n := by
  have strict (a b : String × α) (_ : a ∈ m.members) (_ : b ∈ n.members) (lt : a.1 < b.1)
      (gt : b.1 < a.1) : a = b := absurd gt (String.lt_asymm lt)
  exact ext (perm.eq_of_pairwise strict m.ascending n.ascending)

theorem members_ofMembers {ms : List (String × α)} (distinct : (ms.map Prod.fst).Nodup) :
    (ofMembers ms).members.Perm ms := by
  induction ms using List.reverseRecOn with
  | nil => exact .refl _
  | append_singleton ms m ih =>
      rw [List.map_append, List.nodup_append] at distinct
      have kept := ih distinct.1
      have fresh : m.1 ∉ (ofMembers ms).members.map Prod.fst := by
        rw [(kept.map _).mem_iff]
        exact fun member => distinct.2.2 _ member _ (List.mem_singleton_self _) rfl
      have step : (ofMembers (ms ++ [m])).members =
          insertMember m.1 m.2 (ofMembers ms).members := by
        rw [ofMembers, List.foldl_append]
        rfl
      rw [step]
      exact ((insertMember_perm fresh m.2).trans (kept.cons m)).trans
        (List.perm_append_singleton m ms).symm

theorem ofMembers_eq {ms ns : List (String × α)} (perm : ms.Perm ns)
    (distinct : (ms.map Prod.fst).Nodup) : ofMembers ms = ofMembers ns := by
  have first := members_ofMembers distinct
  have second := members_ofMembers ((perm.map Prod.fst).nodup_iff.1 distinct)
  exact eq_of_perm ((first.trans perm).trans second.symm)

end KeyMap

theorem mapM_eq_some {f : α → Option β} {as : List α} {bs : List β} :
    as.mapM f = some bs ↔ List.Forall₂ (fun a b => f a = some b) as bs := by
  induction as generalizing bs with
  | nil => simp [eq_comm]
  | cons a as ih =>
      rw [List.mapM_cons, List.forall₂_cons_left_iff]
      simp only [Option.bind_eq_bind, Option.bind_eq_some_iff, ih, Option.pure_def,
        Option.some.injEq]
      constructor
      · rintro ⟨b, first, bs, rest, rfl⟩
        exact ⟨b, bs, first, rest, rfl⟩
      · rintro ⟨b, bs, first, rest, rfl⟩
        exact ⟨b, first, bs, rest, rfl⟩

theorem forall₂_append {R : α → β → Prop} {as as' : List α} {bs : List β} :
    List.Forall₂ R (as ++ as') bs ↔
      ∃ cs ds, bs = cs ++ ds ∧ List.Forall₂ R as cs ∧ List.Forall₂ R as' ds := by
  constructor
  · intro related
    induction as generalizing bs with
    | nil => exact ⟨[], bs, rfl, .nil, related⟩
    | cons a as ih =>
        cases related with
        | cons one rest =>
            obtain ⟨cs, ds, rfl, first, second⟩ := ih rest
            exact ⟨_ :: cs, ds, rfl, .cons one first, second⟩
  · rintro ⟨cs, ds, rfl, first, second⟩
    exact List.rel_append first second

theorem exchange_middle {R : α → β → Prop} {before after : List α} {a : α} {bs : List β}
    (related : List.Forall₂ R (before ++ a :: after) bs) :
    ∃ cs b ds, bs = cs ++ b :: ds ∧ R a b ∧
      ∀ {c d}, R c d → List.Forall₂ R (before ++ c :: after) (cs ++ d :: ds) := by
  obtain ⟨cs, _, rfl, first, rest⟩ := forall₂_append.1 related
  cases rest with
  | cons one rest =>
      exact ⟨cs, _, _, rfl, one, fun other => List.rel_append first (.cons other rest)⟩

theorem exists_beside {R : α → β → Prop} {as : List α} {bs : List β}
    (related : List.Forall₂ R as bs) : ∀ b ∈ bs, ∃ a ∈ as, R a b := by
  induction related with
  | nil => simp
  | cons one _ ih =>
      refine List.forall_mem_cons.2 ⟨⟨_, List.mem_cons_self, one⟩, fun b member => ?_⟩
      obtain ⟨a, found, one⟩ := ih b member
      exact ⟨a, List.mem_cons_of_mem _ found, one⟩

namespace Json

inductive Distinct : Json → Prop
  | flat {v : Json} (flat : v.depth = 0) : Distinct v
  | list {vs : List Json} (items : ∀ v ∈ vs, Distinct v) : Distinct (.list vs)
  | object {ms : List (String × Json)} (keys : (ms.map Prod.fst).Nodup)
      (members : ∀ m ∈ ms, Distinct m.2) : Distinct (.object ms)

theorem distinct_list {vs : List Json} : Distinct (.list vs) ↔ ∀ v ∈ vs, v.Distinct := by
  refine ⟨fun distinct => ?_, .list⟩
  cases distinct with
  | flat flat =>
      rw [depth] at flat
      cases flat
  | list items => exact items

theorem distinct_object {ms : List (String × Json)} :
    Distinct (.object ms) ↔ (ms.map Prod.fst).Nodup ∧ ∀ m ∈ ms, m.2.Distinct := by
  refine ⟨fun distinct => ?_, fun ⟨keys, members⟩ => .object keys members⟩
  cases distinct with
  | flat flat =>
      rw [depth] at flat
      cases flat
  | object keys members => exact ⟨keys, members⟩

/-- The members of one object, here or further in, stand in another order. -/
inductive Shuffled : Json → Json → Prop
  | members {ms ns : List (String × Json)} (perm : ms.Perm ns) : Shuffled (.object ms) (.object ns)
  | item {vs us : List Json} {v w : Json} (inner : Shuffled v w) :
      Shuffled (.list (vs ++ v :: us)) (.list (vs ++ w :: us))
  | member {ms ns : List (String × Json)} {key : String} {v w : Json} (inner : Shuffled v w) :
      Shuffled (.object (ms ++ (key, v) :: ns)) (.object (ms ++ (key, w) :: ns))

theorem Shuffled.symm {v w : Json} (shuffled : Shuffled v w) : Shuffled w v := by
  induction shuffled with
  | members perm => exact .members perm.symm
  | item _ ih => exact .item ih
  | member _ ih => exact .member ih

theorem Shuffled.of_object {ms : List (String × Json)} {v : Json}
    (shuffled : Shuffled (.object ms) v) : ∃ ns, v = .object ns := by
  cases shuffled <;> exact ⟨_, rfl⟩

theorem Shuffled.depth {v w : Json} (shuffled : Shuffled v w) : v.depth = w.depth := by
  induction shuffled with
  | members perm =>
      rw [Json.depth, Json.depth, Nat.add_right_cancel_iff]
      refine eq_of_forall_ge_iff fun n => ?_
      simp only [depthOfMembers_le, perm.mem_iff]
  | item _ ih =>
      rw [Json.depth, Json.depth, Nat.add_right_cancel_iff]
      refine eq_of_forall_ge_iff fun n => ?_
      simp only [depthOfItems_le, List.forall_mem_append, List.forall_mem_cons, ih]
  | member _ ih =>
      rw [Json.depth, Json.depth, Nat.add_right_cancel_iff]
      refine eq_of_forall_ge_iff fun n => ?_
      simp only [depthOfMembers_le, List.forall_mem_append, List.forall_mem_cons, ih]

theorem Shuffled.distinct {v w : Json} (shuffled : Shuffled v w) (distinct : v.Distinct) :
    w.Distinct := by
  induction shuffled with
  | members perm =>
      rw [distinct_object] at distinct ⊢
      simp only [perm.mem_iff] at distinct
      exact ⟨(perm.map _).nodup_iff.1 distinct.1, distinct.2⟩
  | item _ ih =>
      simp only [distinct_list, List.forall_mem_append, List.forall_mem_cons] at distinct ⊢
      exact ⟨distinct.1, ih distinct.2.1, distinct.2.2⟩
  | member _ ih =>
      simp only [distinct_object, List.forall_mem_append, List.forall_mem_cons, List.map_append,
        List.map_cons] at distinct ⊢
      exact ⟨distinct.1, distinct.2.1, ih distinct.2.2.1, distinct.2.2.2⟩

theorem Shuffled.settled {v w : Json} (shuffled : Shuffled v w) (distinct : v.Distinct) :
    v.settled = w.settled := by
  induction shuffled with
  | @members ms ns perm =>
      have keys : ((ms.map fun m => (m.1, m.2.settled)).map Prod.fst).Nodup := by
        rw [List.map_map]
        exact (distinct_object.1 distinct).1
      rw [Json.settled, Json.settled, settledMembers_eq, settledMembers_eq,
        KeyMap.ofMembers_eq (perm.map _) keys]
  | item _ ih =>
      have same := ih (distinct_list.1 distinct _ List.mem_append_cons_self)
      simp only [Json.settled, settledItems_eq, List.map_append, List.map_cons, same]
  | member _ ih =>
      have same := ih ((distinct_object.1 distinct).2 _ List.mem_append_cons_self)
      simp only [Json.settled, settledMembers_eq, List.map_append, List.map_cons, same]

/-- A sense that takes no notice of the order of members. -/
structure Blind (sense : Json → Option α) : Prop where
  shuffled : ∀ {v w a}, Shuffled v w → v.Distinct → sense v = some a → sense w = some a

theorem blind_text : Blind text? := by
  refine ⟨fun {v w a} shuffled _ known => ?_⟩
  cases shuffled <;> cases known

theorem blind_word : Blind word? := by
  refine ⟨fun {v w a} shuffled _ known => ?_⟩
  unfold word? at known
  split at known
  · cases shuffled
  · cases known
    generalize only : [(a, null)] = ms at shuffled
    cases shuffled with
    | members perm =>
        rw [← only, List.singleton_perm] at perm
        rw [← perm, word?]
    | member inner =>
        -- the only member holds `null`, which has no members
        rcases List.singleton_eq_append_iff.1 only with ⟨_, eq⟩ | ⟨_, eq⟩
        · cases eq
          cases inner
        · cases eq
  · cases known

theorem Blind.listOf {sense : Json → Option α} (blind : Blind sense) : Blind (listOf? sense) := by
  refine ⟨fun {v w as} shuffled distinct known => ?_⟩
  cases shuffled with
  | item inner =>
      obtain ⟨bs, b, cs, rfl, one, exchange⟩ := exchange_middle (mapM_eq_some.1 known)
      have one := blind.shuffled inner (distinct_list.1 distinct _ List.mem_append_cons_self) one
      exact mapM_eq_some.2 (exchange one)
  | _ => cases known

theorem mapOf?_object {sense : Json → Option α} {ms : List (String × Json)} {map : KeyMap α} :
    mapOf? sense (.object ms) = some map ↔
      ∃ ns, List.Forall₂ (fun m n => m.1 = n.1 ∧ sense m.2 = some n.2) ms ns ∧
        KeyMap.ofMembers ns = map := by
  have each (m : String × Json) (n : String × α) :
      (sense m.2).map (m.1, ·) = some n ↔ m.1 = n.1 ∧ sense m.2 = some n.2 := by
    rw [Option.map_eq_some_iff]
    constructor
    · rintro ⟨a, said, rfl⟩
      exact ⟨rfl, said⟩
    · rintro ⟨key, said⟩
      exact ⟨n.2, said, by rw [key]⟩
  simp only [mapOf?, Option.map_eq_some_iff, mapM_eq_some, each]

theorem Blind.mapOf {sense : Json → Option α} (blind : Blind sense) : Blind (mapOf? sense) := by
  refine ⟨fun {v w map} shuffled distinct known => ?_⟩
  cases shuffled with
  | @members ms _ perm =>
      obtain ⟨ns, related, rfl⟩ := mapOf?_object.1 known
      have keys : ms.map Prod.fst = ns.map Prod.fst := by
        rw [← List.forall₂_eq_eq_eq, List.forall₂_map_left_iff, List.forall₂_map_right_iff]
        exact related.imp fun _ _ => And.left
      obtain ⟨ns', related', perm'⟩ := List.perm_comp_forall₂ perm.symm related
      have distinct := (distinct_object.1 distinct).1
      rw [keys] at distinct
      exact mapOf?_object.2 ⟨ns', related', (KeyMap.ofMembers_eq perm'.symm distinct).symm⟩
  | member inner =>
      obtain ⟨_, related, rfl⟩ := mapOf?_object.1 known
      obtain ⟨bs, b, cs, rfl, ⟨key, said⟩, exchange⟩ := exchange_middle related
      have distinct := (distinct_object.1 distinct).2 _ List.mem_append_cons_self
      have said := blind.shuffled inner distinct said
      exact mapOf?_object.2 ⟨_, exchange ⟨key, said⟩, rfl⟩
  | item => cases known

theorem Blind.orNull [Inhabited α] {sense : Json → Option α} (blind : Blind sense) :
    Blind (orNull? sense) := by
  refine ⟨fun {v w a} shuffled distinct known => ?_⟩
  have same : sense v = some a → sense w = some a := blind.shuffled shuffled distinct
  cases shuffled <;> exact same known

theorem Blind.map {sense : Json → Option α} (blind : Blind sense) (f : α → β) :
    Blind fun v => (sense v).map f := by
  refine ⟨fun {v w b} shuffled distinct known => ?_⟩
  obtain ⟨a, said, rfl⟩ := Option.map_eq_some_iff.1 known
  exact Option.map_eq_some_iff.2 ⟨a, blind.shuffled shuffled distinct said, rfl⟩

inductive Tree.Distinct : Tree → Prop
  | word (token : List UInt8) : Distinct (.word token)
  | list {ts : List Tree} (items : ∀ t ∈ ts, Distinct t) : Distinct (.list ts)
  | object {ms : List (List UInt8 × Tree)}
      (keys : ms.Pairwise fun m n => ¬ ∃ name, TextSpelling m.1 name ∧ TextSpelling n.1 name)
      (members : ∀ m ∈ ms, Distinct m.2) : Distinct (.object ms)

inductive Tree.Shuffled : Tree → Tree → Prop
  | members {ms ns : List (List UInt8 × Tree)} (perm : ms.Perm ns) :
      Shuffled (.object ms) (.object ns)
  | item {ts us : List Tree} {t u : Tree} (inner : Shuffled t u) :
      Shuffled (.list (ts ++ t :: us)) (.list (ts ++ u :: us))
  | member {ms ns : List (List UInt8 × Tree)} {key : List UInt8} {t u : Tree}
      (inner : Shuffled t u) :
      Shuffled (.object (ms ++ (key, t) :: ns)) (.object (ms ++ (key, u) :: ns))

theorem Tree.Shuffled.symm {t u : Tree} (shuffled : Shuffled t u) : Shuffled u t := by
  induction shuffled with
  | members perm => exact .members perm.symm
  | item _ ih => exact .item ih
  | member _ ih => exact .member ih

theorem nodup_of_means {held : String → Tree → α → Prop} {ms : List (List UInt8 × Tree)}
    {ns : List (String × α)} (means : List.Forall₂ (MemberMeans held) ms ns)
    (keys : ms.Pairwise fun m n => ¬ ∃ name, TextSpelling m.1 name ∧ TextSpelling n.1 name) :
    (ns.map Prod.fst).Nodup := by
  induction means with
  | nil => exact List.nodup_nil
  | cons one rest ih =>
      obtain ⟨first, others⟩ := List.pairwise_cons.1 keys
      refine List.nodup_cons.2 ⟨fun again => ?_, ih others⟩
      obtain ⟨n, member, name⟩ := List.mem_map.1 again
      obtain ⟨m, found, other⟩ := exists_beside rest n member
      cases one with
      | mk named =>
        cases other with
        | mk named' =>
          cases name
          exact first _ found ⟨_, named, named'⟩

theorem Means.distinct {t : Tree} {v : Json} (means : Means t v) (distinct : t.Distinct) :
    v.Distinct := by
  induction t using Tree.induct generalizing v with
  | word token =>
      cases means with
      | word _ flat => exact .flat flat
  | list ts ih =>
      cases distinct with
      | list each =>
        cases means with
        | list items =>
          refine .list fun v member => ?_
          obtain ⟨t, found, means⟩ := exists_beside items v member
          exact ih t found means (each t found)
  | object ms ih =>
      cases distinct with
      | object keys each =>
        cases means with
        | object members =>
          refine .object (nodup_of_means members keys) fun n member => ?_
          obtain ⟨m, found, means⟩ := exists_beside members n member
          cases means with
          | mk _ means => exact ih _ found means (each _ found)

theorem Means.shuffled {t u : Tree} {v : Json} (means : Means t v) (shuffled : Tree.Shuffled t u) :
    ∃ w, Means u w ∧ Json.Shuffled v w := by
  induction shuffled generalizing v with
  | members perm =>
      cases means with
      | object members =>
        obtain ⟨ns, members, perm⟩ := List.perm_comp_forall₂ perm.symm members
        exact ⟨_, .object members, .members perm.symm⟩
  | item _ ih =>
      cases means with
      | list items =>
        obtain ⟨vs, v, us, rfl, means, exchange⟩ := exchange_middle items
        obtain ⟨w, means, shuffled⟩ := ih means
        exact ⟨_, .list (exchange means), .item shuffled⟩
  | member _ ih =>
      cases means with
      | object members =>
        obtain ⟨ms, m, ns, rfl, means, exchange⟩ := exchange_middle members
        cases means with
        | mk named means =>
          obtain ⟨w, means, shuffled⟩ := ih means
          exact ⟨_, .object (exchange (.mk named means)), .member shuffled⟩

end Json

end ClusterDirectory
