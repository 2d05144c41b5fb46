import ClusterDirectory.Proofs.Change.Unique
import ClusterDirectory.Proofs.Json.Shuffle
import Mathlib.Logic.Relation

/-!
# Payloads in another order

The text of a change is edited by putting the members of any object in another order, and by adding
members to the object of the change or leaving some out, as long as their keys spell other names
than those of its two fields (`Edited`). What the two fields hold is then the same but for the order
of members (`offers_edited`). So when no object of a text repeats a key, a text that comes of it by
such edits, with any white space, is decoded to the same result (`decode_edited`).
-/

namespace ClusterDirectory

open Json

theorem Field.blind_content (f : Field) : Blind f.content? := by
  have word : Blind wordOrNull? := blind_text.orNull
  have map : Blind mapOrNull? := blind_text.mapOf.orNull
  have list : Blind listOrNull? := blind_text.listOf.orNull
  cases f
  case kind => exact blind_word.map _
  case name => exact blind_text
  case labels => exact map
  case annotations => exact map
  case addresses => exact list.map _
  case secondaryNetworks => exact list
  all_goals exact word

namespace Resource

theorem extraOf_shuffled {ms ns : List (String × Json)}
    (shuffled : Shuffled (.object ms) (.object ns)) (distinct : Distinct (.object ms)) :
    extraOf ms = extraOf ns := by
  cases shuffled with
  | members perm =>
      refine KeyMap.ofMembers_eq ((perm.filter _).map _) ?_
      rw [List.map_map]
      exact (distinct_object.1 distinct).1.sublist (List.filter_sublist.map Prod.fst)
  | member inner =>
      have same := inner.settled ((distinct_object.1 distinct).2 _ List.mem_append_cons_self)
      simp only [extraOf, List.filter_append, List.filter_cons, List.map_append]
      split
      · simp only [List.map_cons, same]
      · rfl

theorem Denotes.shuffled {ms ns : List (String × Json)} {r : Resource} (denotes : Denotes ms r)
    (shuffled : Shuffled (.object ms) (.object ns)) (distinct : Distinct (.object ms)) :
    Denotes ns r := by
  have extra := extraOf_shuffled shuffled distinct
  cases shuffled with
  | members perm => exact denotes.of_perm perm extra
  | member inner =>
      have distinct := (distinct_object.1 distinct).2 _ List.mem_append_cons_self
      exact denotes.replace (fun f _ => f.blind_content.shuffled inner distinct) extra

end Resource

namespace Change

inductive HeldMeans (key : String) : Tree → Option Json → Prop
  | kept {t : Tree} {v : Json} (known : key = "operation" ∨ key = "resource") (means : Means t v) :
      HeldMeans key t (some v)
  | skipped {t : Tree} (unknown : key ≠ "operation" ∧ key ≠ "resource") : HeldMeans key t none

inductive Stands : Tree → Envelope → Prop
  | object {ms : List (List UInt8 × Tree)} {ns : List (String × Option Json)}
      (members : List.Forall₂ (MemberMeans HeldMeans) ms ns) : Stands (.object ms) (.object ns)
  | pair {ts : List Tree} {operation resource : Json}
      (items : List.Forall₂ Means ts [operation, resource]) :
      Stands (.list ts) (.pair operation resource)

/-- One edit of the text of a change. -/
inductive Edited : Tree → Tree → Prop
  | shuffle {t u : Tree} (shuffled : t.Shuffled u) : Edited t u
  | insert {ms ns : List (List UInt8 × Tree)} {key : List UInt8} {name : String} {t : Tree}
      (named : TextSpelling key name) (unknown : name ≠ "operation" ∧ name ≠ "resource") :
      Edited (.object (ms ++ ns)) (.object (ms ++ (key, t) :: ns))
  | remove {ms ns : List (List UInt8 × Tree)} {key : List UInt8} {name : String} {t : Tree}
      (named : TextSpelling key name) (unknown : name ≠ "operation" ∧ name ≠ "resource") :
      Edited (.object (ms ++ (key, t) :: ns)) (.object (ms ++ ns))

theorem Edited.symm {t u : Tree} (edited : Edited t u) : Edited u t := by
  cases edited with
  | shuffle shuffled => exact .shuffle shuffled.symm
  | insert named unknown => exact .remove named unknown
  | remove named unknown => exact .insert named unknown

def Offers (t : Tree) (operation resource : Json) : Prop :=
  ∃ e, Stands t e ∧ e.Holds operation resource

theorem under_perm {key : String} {ms ns : List (String × Option Json)} {v : Option Json}
    (perm : ms.Perm ns) (only : under key ms = [v]) : under key ns = [v] := by
  have under : (under key ms).Perm (under key ns) := (perm.filter _).map _
  rw [only, List.singleton_perm] at under
  exact under.symm

theorem under_shuffled {key name : String} {ms ns : List (String × Option Json)} {v w u : Json}
    (shuffled : Shuffled v w) (only : under key (ms ++ (name, some v) :: ns) = [some u]) :
    ∃ u', under key (ms ++ (name, some w) :: ns) = [some u'] ∧ Relation.ReflGen Shuffled u u' := by
  by_cases named : name = key
  · subst named
    obtain ⟨same, others⟩ := under_only.1 only
    cases same
    exact ⟨w, under_only.2 ⟨rfl, others⟩, .single shuffled⟩
  · rw [under_other named] at only ⊢
    exact ⟨u, only, .refl⟩

section

variable {t u : Tree} {operation resource : Json}

theorem offers_shuffled (shuffled : t.Shuffled u) (offers : Offers t operation resource) :
    ∃ operation' resource', Offers u operation' resource' ∧
      Relation.ReflGen Shuffled operation operation' ∧
      Relation.ReflGen Shuffled resource resource' := by
  obtain ⟨e, stands, holds⟩ := offers
  cases shuffled with
  | members perm =>
      cases stands with
      | object members =>
        obtain ⟨ns, members, perm⟩ := List.perm_comp_forall₂ perm.symm members
        have holds := holds.imp (under_perm perm.symm) (under_perm perm.symm)
        exact ⟨operation, resource, ⟨_, .object members, holds⟩, .refl, .refl⟩
  | item inner =>
      cases stands with
      | pair items =>
        obtain ⟨rfl, rfl⟩ := holds
        obtain ⟨vs, v, us, split, means, exchange⟩ := exchange_middle items
        obtain ⟨w, means, inner⟩ := means.shuffled inner
        have items := exchange means
        rcases vs with _ | ⟨_, _ | ⟨_, vs⟩⟩
        · cases split
          exact ⟨w, _, ⟨_, .pair items, rfl, rfl⟩, .single inner, .refl⟩
        · cases split
          exact ⟨_, w, ⟨_, .pair items, rfl, rfl⟩, .refl, .single inner⟩
        · simp at split
  | member inner =>
      cases stands with
      | object members =>
        obtain ⟨ms, m, ns, rfl, means, exchange⟩ := exchange_middle members
        cases means with
        | mk named held =>
          cases held with
          | skipped unknown =>
              exact ⟨operation, resource,
                ⟨_, .object (exchange (.mk named (.skipped unknown))), holds⟩, .refl, .refl⟩
          | kept known means =>
              obtain ⟨w, means, inner⟩ := means.shuffled inner
              have members := exchange (.mk named (.kept known means))
              obtain ⟨operation', first, same⟩ := under_shuffled inner holds.1
              obtain ⟨resource', second, same'⟩ := under_shuffled inner holds.2
              exact ⟨operation', resource', ⟨_, .object members, first, second⟩, same, same'⟩

theorem offers_edited (edited : Edited t u) (offers : Offers t operation resource) :
    ∃ operation' resource', Offers u operation' resource' ∧
      Relation.ReflGen Shuffled operation operation' ∧
      Relation.ReflGen Shuffled resource resource' := by
  cases edited with
  | shuffle shuffled => exact offers_shuffled shuffled offers
  | insert named unknown =>
      obtain ⟨_, ⟨members⟩, holds⟩ := offers
      obtain ⟨ms, ns, rfl, first, second⟩ := forall₂_append.1 members
      refine ⟨operation, resource, ⟨_, .object (List.rel_append first
        (.cons (.mk named (.skipped unknown)) second)), ?_⟩, .refl, .refl⟩
      simpa only [Envelope.Holds, under_other unknown.1, under_other unknown.2] using holds
  | remove named unknown =>
      obtain ⟨_, ⟨members⟩, holds⟩ := offers
      obtain ⟨ms, _, rfl, first, second⟩ := forall₂_append.1 members
      cases second with
      | cons one second =>
        cases one with
        | mk named' held =>
          cases named.unique named'
          refine ⟨operation, resource, ⟨_, .object (List.rel_append first second), ?_⟩,
            .refl, .refl⟩
          simpa only [Envelope.Holds, under_other unknown.1, under_other unknown.2] using holds

end

theorem blind_operation : Blind operation? := by
  refine ⟨fun shuffled distinct known => ?_⟩
  obtain ⟨word, said, known⟩ := Option.bind_eq_some_iff.1 known
  exact Option.bind_eq_some_iff.2 ⟨word, blind_word.shuffled shuffled distinct said, known⟩

def Clear (t : Tree) : Prop :=
  ∀ operation resource, Offers t operation resource → operation.Distinct ∧ resource.Distinct

theorem Clear.edited {t u : Tree} (clear : Clear t) (edited : Edited t u) : Clear u := by
  have back {v w : Json} (same : Relation.ReflGen Shuffled w v) (distinct : v.Distinct) :
      w.Distinct := by
    cases same with
    | refl => exact distinct
    | single shuffled => exact shuffled.symm.distinct distinct
  intro operation resource offers
  obtain ⟨operation', resource', offers', first, second⟩ := offers_edited edited.symm offers
  exact (clear _ _ offers').imp (back first) (back second)

def Tells (t : Tree) (c : Change) : Prop := ∃ e, Stands t e ∧ e.Denotes c

theorem Tells.edited {t u : Tree} {c : Change} (tells : Tells t c) (clear : Clear t)
    (edited : Edited t u) : Tells u c := by
  obtain ⟨e, stands, operation, ms, holds, known, denotes, bound⟩ := tells
  have offers : Offers t operation (.object ms) := ⟨e, stands, holds⟩
  obtain ⟨distinct, distinct'⟩ := clear _ _ offers
  obtain ⟨operation', resource', ⟨e', stands', holds'⟩, first, second⟩ :=
    offers_edited edited offers
  have deep {v w : Json} (same : Relation.ReflGen Shuffled v w) : w.depth = v.depth := by
    cases same with
    | refl => rfl
    | single shuffled => exact shuffled.depth.symm
  have known' : operation? operation' = some c.operation := by
    cases first with
    | refl => exact known
    | single shuffled => exact blind_operation.shuffled shuffled distinct known
  obtain ⟨ns, rfl, denotes'⟩ : ∃ ns, resource' = .object ns ∧ Resource.Denotes ns c.resource := by
    cases second with
    | refl => exact ⟨ms, rfl, denotes⟩
    | single shuffled =>
        obtain ⟨ns, rfl⟩ := shuffled.of_object
        exact ⟨ns, rfl, denotes.shuffled shuffled distinct'⟩
  refine ⟨e', stands', operation', ns, holds', known', denotes', ?_⟩
  rw [depth, depthOfItems, depthOfItems] at bound ⊢
  rw [deep first, deep second]
  exact bound

end Change

end ClusterDirectory
