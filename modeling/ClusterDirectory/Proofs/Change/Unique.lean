import ClusterDirectory.Proofs.Change.Format
import ClusterDirectory.Proofs.Json.Loose

namespace ClusterDirectory

open Json

theorem Json.SkippedSpelling.within {w w' s s' v v' : List UInt8} (value : SkippedSpelling s ())
    (value' : SkippedSpelling s' ()) (before : White w) (before' : White w') (after : White v)
    (after' : White v') (same : w ++ (s ++ v) = w' ++ (s' ++ v')) : s = s' := by
  have apart {v : List UInt8} (white : White v) : Apart v := by
    simpa using white.apart (q := []) .nil
  obtain ⟨b, t, rfl, solid, _⟩ := solid_of_skipped value
  obtain ⟨b', t', rfl, solid', _⟩ := solid_of_skipped value'
  obtain ⟨_, rfl, rest⟩ := before.cut before' solid solid' same
  exact (value.cut value' (apart after) (apart after') (congrArg (b :: ·) rest)).1

namespace Change

theorem HeldSpelling.loose {key : String} {s : List UInt8} {v : Option Json}
    (held : HeldSpelling key s v) : SkippedSpelling s () := by
  cases held with
  | kept _ value => exact value.skipped
  | skipped _ value => exact value

theorem looseMembers_held : LooseMembers TextSpelling HeldSpelling :=
  ⟨TextSpelling.loose, fun _ => HeldSpelling.loose⟩

theorem EnvelopeSpelling.loose {s : List UInt8} {e : Envelope} (spelled : EnvelopeSpelling s e) :
    SkippedSpelling s () := by
  cases spelled with
  | object entries =>
      refine .object (entries.skipped ((), ()) fun m _ t member => ?_)
      exact member.skipped TextSpelling.loose HeldSpelling.loose
  | pair entries => exact .list (entries.skipped () fun v _ t spelled => spelled.skipped)

theorem HeldSpelling.unique {key : String} {s : List UInt8} {v w : Option Json}
    (first : HeldSpelling key s v) (second : HeldSpelling key s w) : v = w := by
  have apart (known : key = "operation" ∨ key = "resource")
      (unknown : key ≠ "operation" ∧ key ≠ "resource") : v = w :=
    absurd known (not_or.2 unknown)
  cases first with
  | kept known value =>
      cases second with
      | kept _ value' => rw [value.unique value']
      | skipped unknown => exact apart known unknown
  | skipped unknown =>
      cases second with
      | kept known => exact apart known unknown
      | skipped => rfl

theorem EnvelopeSpelling.unique {s : List UInt8} {e f : Envelope} (first : EnvelopeSpelling s e)
    (second : EnvelopeSpelling s f) : e = f := by
  cases first with
  | @object _ ms left =>
      cases second with
      | @object _ ns right =>
          have aligned := left.align_members looseMembers_held looseMembers_held right
          have equal : List.Forall₂ (· = ·) ms ns := by
            refine aligned.imp ?_
            rintro ⟨key, v⟩ ⟨key', v'⟩ ⟨⟨_, named, named'⟩, _, held, held'⟩
            cases named.unique named'
            exact congrArg (key, ·) (held.unique held')
          rw [List.forall₂_eq_eq_eq] at equal
          rw [equal]
  | pair left =>
      cases second with
      | pair right =>
          have equal := (left.align_values ValueSpelling.skipped ValueSpelling.skipped right).imp
            fun v w ⟨_, spelled, spelled'⟩ => spelled.unique spelled'
          rw [List.forall₂_eq_eq_eq] at equal
          cases equal
          rfl

theorem Spells.unique {payload : List UInt8} {e f : Envelope} (first : Spells payload e)
    (second : Spells payload f) : e = f := by
  obtain ⟨w, s, v, before, spelled, after, rfl⟩ := first
  obtain ⟨w', s', v', before', spelled', after', same⟩ := second
  obtain rfl := spelled.loose.within spelled'.loose before before' after after' same
  exact spelled.unique spelled'

theorem read_change {payload : List UInt8} {c : Change} :
    (∃ reading, read payload = .ok reading ∧ reading.change = c) ↔
      ∃ e, Spells payload e ∧ e.Denotes c := by
  simp only [read_ok, ← Envelope.reading?_denotes]
  constructor
  · rintro ⟨reading, ⟨e, spelled, known⟩, eq⟩
    exact ⟨e, spelled, reading, known, eq⟩
  · rintro ⟨e, spelled, reading, known, eq⟩
    exact ⟨reading, ⟨e, spelled, known⟩, eq⟩

end Change

end ClusterDirectory
