import ClusterDirectory.Proofs.Link.Standing
import ClusterDirectory.Proofs.Settings.Address
import ClusterDirectory.Stream

namespace ClusterDirectory

theorem Link.obstacle?_transport {l : Link} {f : Failure} (obstacle : l.obstacle? = some f) :
    ∃ text, f = .transport text := by
  rcases Link.obstacle?_cases obstacle with ⟨reason, rfl⟩ | rfl
  · exact ⟨_, rfl⟩
  · exact ⟨_, rfl⟩

namespace Stream

theorem connect_cases (s : StreamSettings) (answer : Answer) (stopped : Bool) :
    (∃ d, s.validate = .error d ∧
        connect s answer stopped = (.error (.configuration d.message), [])) ∨
      s.validate = .ok () ∧
        ((∃ text, connect s answer stopped =
            (.error (.transport text), [.streamInitializing, .connecting s.address])) ∨
          ∃ opened, connect s answer stopped =
            (.ok opened, [.streamInitializing, .connecting s.address, .connectionOpened s.address,
              .connected s.address] ++ (Updates.start stopped).2)) := by
  cases valid : s.validate with
  | error d =>
      refine .inl ⟨d, rfl, ?_⟩
      unfold connect
      rw [valid]
  | ok =>
      refine .inr ⟨rfl, ?_⟩
      unfold connect
      rw [valid]
      dsimp only
      cases obstacle : ({ settings := s, answer } : Link).obstacle? with
      | some f =>
          obtain ⟨text, rfl⟩ := Link.obstacle?_transport obstacle
          refine .inl ⟨text, ?_⟩
          rw [Link.connect_of_obstacle obstacle]
          rfl
      | none =>
          let link := Link.attempted { settings := s, answer }
          refine .inr ⟨⟨{ link with wire := some {} }, (Updates.start stopped).1⟩, ?_⟩
          rw [Link.connect_of_reachable obstacle]
          rfl

/-- Settings are valid with a host and a port and some time, whichever way the digits of the port
are held against their limit. Otherwise, and only then, a stream is refused for its settings, with
no connection asked for and no updates begun. -/
theorem connect_validates (s : StreamSettings) :
    (s.validate = .ok () ↔ StreamSettings.HostAndPort s.address ∧ 1 ≤ s.timeoutSeconds) ∧
      (∀ port, Text.readNumber? StreamSettings.portLimit port =
        Text.checkedNumber? StreamSettings.portLimit port) ∧
      (∀ text, (∃ d, s.validate = .error d ∧ d.message = text) ↔ s.Refused text) ∧
      ∀ answer stopped,
        (∀ text, s.Refused text →
          connect s answer stopped = (.error (.configuration text), [])) ∧
        (∀ text, (connect s answer stopped).1 = .error (.configuration text) → s.Refused text) ∧
        (.connecting s.address ∈ (connect s answer stopped).2 ↔ s.validate = .ok ()) ∧
        (.updatesStarted ∈ (connect s answer stopped).2 ↔
          ∃ opened, (connect s answer stopped).1 = .ok opened) := by
  refine ⟨s.validate_eq_ok, Text.readNumber?_checked _, s.validate_refused,
    fun answer stopped => ?_⟩
  rcases connect_cases s answer stopped with
    ⟨d, refused, same⟩ | ⟨valid, ⟨text, same⟩ | ⟨opened, same⟩⟩
  · have why : s.Refused d.message := (s.validate_refused _).1 ⟨d, refused, rfl⟩
    rw [same, refused]
    refine ⟨fun text h => by rw [why.unique h], ?_, ?_, ?_⟩
    · rintro text ⟨⟩
      exact why
    · simp
    · simp
  · have none : ∀ text, ¬s.Refused text := fun text h => h.invalid (s.validate_eq_ok.1 valid)
    rw [same, valid]
    exact ⟨fun text h => absurd h (none text), nofun, by simp, by simp⟩
  · have none : ∀ text, ¬s.Refused text := fun text h => h.invalid (s.validate_eq_ok.1 valid)
    have started : .updatesStarted ∈ (Updates.start stopped).2 := by
      cases stopped <;> simp [Updates.start]
    rw [same, valid]
    exact ⟨fun text h => absurd h (none text), nofun, by simp, by simp [started]⟩

end Stream

end ClusterDirectory
