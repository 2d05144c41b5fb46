import ClusterDirectory.Proofs.Address.Spelling
import ClusterDirectory.Proofs.Text.Decimal
import ClusterDirectory.Settings

namespace ClusterDirectory.StreamSettings

open Text

def HostAndPort (address : String) : Prop :=
  ∃ host port : String, address = host ++ ":" ++ port ∧ host ≠ "" ∧ ':' ∉ port.toList ∧
    IsNumber 65535 port

def Blank (address : String) : Prop := ∀ c ∈ address.toList, isBlank c = true

theorem splitAtLastColon?_eq_some {s host port : String} :
    splitAtLastColon? s = some (host, port) ↔ s = host ++ ":" ++ port ∧ ':' ∉ port.toList := by
  have back : s = host ++ ":" ++ port ↔
      s.toList.reverse = port.toList.reverse ++ ':' :: host.toList.reverse := by
    rw [← String.toList_inj, List.reverse_eq_append_iff]
    simp
  have whole := List.takeWhile_append_dropWhile (p := (· != ':')) (l := s.toList.reverse)
  constructor
  · intro split
    unfold splitAtLastColon? at split
    dsimp only at split
    cases rest : s.toList.reverse.dropWhile (· != ':') with
    | nil => simp [rest] at split
    | cons c before =>
        have colon : c = ':' := by
          have stop := Address.stopsAt_dropWhile (· != ':') s.toList.reverse c (by rw [rest]; rfl)
          simpa using stop
        simp only [rest, Option.some.injEq, Prod.mk.injEq] at split
        obtain ⟨rfl, rfl⟩ := split
        refine ⟨back.2 ?_, ?_⟩
        · rw [rest, colon] at whole
          simpa using whole.symm
        · intro member
          rw [String.toList_ofList, List.mem_reverse] at member
          simpa using Address.mem_takeWhile member
  · rintro ⟨spelled, free⟩
    have inside : ∀ c ∈ port.toList.reverse, (c != ':') = true := by
      intro c member
      rw [bne_iff_ne]
      rintro rfl
      exact free (List.mem_reverse.1 member)
    obtain ⟨row, rest⟩ := Address.takeWhile_row inside
      (Address.stopsAt_cons (c := ':') (by decide) host.toList.reverse)
    unfold splitAtLastColon?
    dsimp only
    rw [back.1 spelled, row, rest]
    simp

theorem hasHostAndPort_iff (address : String) :
    hasHostAndPort address = true ↔ HostAndPort address := by
  constructor
  · intro valid
    unfold hasHostAndPort at valid
    cases split : splitAtLastColon? address with
    | none => simp [split] at valid
    | some parts =>
        obtain ⟨host, port⟩ := parts
        simp only [split, Bool.and_eq_true, bne_iff_ne] at valid
        obtain ⟨spelled, free⟩ := splitAtLastColon?_eq_some.1 split
        exact ⟨host, port, spelled, valid.1, free, readNumber?_isSome.1 valid.2⟩
  · rintro ⟨host, port, spelled, nonempty, free, number⟩
    have split := splitAtLastColon?_eq_some.2 ⟨spelled, free⟩
    simp only [hasHostAndPort, split, Bool.and_eq_true, bne_iff_ne]
    exact ⟨nonempty, readNumber?_isSome.2 number⟩

theorem HostAndPort.not_blank {address : String} (h : HostAndPort address) : ¬Blank address := by
  obtain ⟨host, port, rfl, -⟩ := h
  intro blank
  exact absurd (blank ':' (by simp)) (by decide)

theorem allBlank_iff (address : String) : allBlank address = true ↔ Blank address :=
  List.all_eq_true

/-- The text for the first defect: a blank address, one that names no host and port, or no time. -/
inductive Refused (s : StreamSettings) : String → Prop
  | blank (blank : Blank s.address) : Refused s "Stream address cannot be empty"
  | malformed (filled : ¬Blank s.address) (unnamed : ¬HostAndPort s.address) :
      Refused s s!"Invalid stream address '{s.address}': expected 'host:port'"
  | zeroTimeout (filled : ¬Blank s.address) (named : HostAndPort s.address)
      (zero : s.timeoutSeconds = 0) :
      Refused s "Stream connect timeout must be at least 1 second"

theorem validate_cases (s : StreamSettings) :
    (HostAndPort s.address ∧ 1 ≤ s.timeoutSeconds ∧ s.validate = .ok ()) ∨
      (¬(HostAndPort s.address ∧ 1 ≤ s.timeoutSeconds) ∧
        ∃ d, s.validate = .error d ∧ s.Refused d.message) := by
  by_cases blank : Blank s.address
  · refine .inr ⟨fun valid => valid.1.not_blank blank, .blankAddress, ?_, .blank blank⟩
    exact if_pos ((allBlank_iff _).2 blank)
  · have filled : ¬allBlank s.address = true := mt (allBlank_iff _).1 blank
    by_cases named : HostAndPort s.address
    · have parts := (hasHostAndPort_iff _).2 named
      by_cases zero : s.timeoutSeconds = 0
      · refine .inr ⟨fun valid => absurd zero (Nat.ne_of_gt valid.2), .zeroTimeout, ?_,
          .zeroTimeout blank named zero⟩
        simp [validate, filled, parts, zero]
      · refine .inl ⟨named, Nat.pos_of_ne_zero zero, ?_⟩
        simp [validate, filled, parts, zero]
    · refine .inr ⟨fun valid => named valid.1, .malformedAddress s.address, ?_,
        .malformed blank named⟩
      simp [validate, filled, mt (hasHostAndPort_iff _).1 named]

theorem validate_eq_ok (s : StreamSettings) :
    s.validate = .ok () ↔ HostAndPort s.address ∧ 1 ≤ s.timeoutSeconds := by
  rcases s.validate_cases with ⟨named, time, valid⟩ | ⟨invalid, d, refused, -⟩
  · exact ⟨fun _ => ⟨named, time⟩, fun _ => valid⟩
  · rw [refused]
    exact ⟨nofun, fun valid => absurd valid invalid⟩

/-- The host is all that stands in front of the last colon. -/
example : validate { address := "fe80:: :+00065535", timeoutSeconds := 1 } = .ok () := by rfl

namespace Refused

variable {s : StreamSettings} {text : String}

theorem invalid (h : s.Refused text) : ¬(HostAndPort s.address ∧ 1 ≤ s.timeoutSeconds) := by
  rintro ⟨named, time⟩
  cases h with
  | blank blank => exact named.not_blank blank
  | malformed _ unnamed => exact unnamed named
  | zeroTimeout _ _ zero => exact absurd zero (Nat.ne_of_gt time)

theorem unique {other : String} (h : s.Refused text) (k : s.Refused other) : text = other := by
  cases h with
  | blank blank =>
      cases k with
      | blank => rfl
      | malformed filled => exact absurd blank filled
      | zeroTimeout filled => exact absurd blank filled
  | malformed filled unnamed =>
      cases k with
      | blank blank => exact absurd blank filled
      | malformed => rfl
      | zeroTimeout _ named => exact absurd named unnamed
  | zeroTimeout filled named =>
      cases k with
      | blank blank => exact absurd blank filled
      | malformed _ unnamed => exact absurd named unnamed
      | zeroTimeout => rfl

end Refused

theorem validate_refused (s : StreamSettings) (text : String) :
    (∃ d, s.validate = .error d ∧ d.message = text) ↔ s.Refused text := by
  rcases s.validate_cases with ⟨named, time, valid⟩ | ⟨-, d, refused, why⟩
  · rw [valid]
    exact ⟨nofun, fun h => absurd ⟨named, time⟩ h.invalid⟩
  · constructor
    · rintro ⟨e, same, rfl⟩
      cases refused.symm.trans same
      exact why
    · exact fun h => ⟨d, refused, why.unique h⟩

end ClusterDirectory.StreamSettings
