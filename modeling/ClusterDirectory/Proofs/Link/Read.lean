import ClusterDirectory.Link

namespace ClusterDirectory.Link

theorem obstacle?_congr {l k : Link} (settings : l.settings = k.settings)
    (answer : l.answer = k.answer) : l.obstacle? = k.obstacle? := by
  cases l
  cases k
  cases settings
  cases answer
  rfl

theorem attemptTime_congr {l k : Link} (settings : l.settings = k.settings)
    (answer : l.answer = k.answer) (latency : l.latency = k.latency) :
    l.attemptTime = k.attemptTime := by
  cases l
  cases k
  cases settings
  cases answer
  cases latency
  rfl

theorem attemptTime_le (l : Link) : l.attemptTime ≤ l.patience := by
  unfold attemptTime
  cases l.heard with
  | failed error => exact Nat.zero_le _
  | silent => exact Nat.le_refl _
  | unresolved reason => exact Nat.min_le_right ..
  | rejected error => exact Nat.min_le_right ..
  | accepted => exact Nat.min_le_right ..

theorem attemptTime_of_silent {l : Link} (silent : l.heard = .silent) :
    l.attemptTime = l.patience := by
  delta attemptTime
  rw [silent]

theorem openWire_of_reachable {l : Link} (reachable : l.obstacle? = none) :
    l.openWire =
      (.ok { l with wire := some (deliver {} l.queue).1, queue := (deliver {} l.queue).2 },
        [.connecting l.address, .connectionOpened l.address]) := by
  delta openWire
  rw [reachable]

theorem openWire_of_obstacle {l : Link} {f : Failure} (obstacle : l.obstacle? = some f) :
    l.openWire = (.error f, [.connecting l.address]) := by
  delta openWire
  rw [obstacle]

theorem connect_of_reachable {l : Link} (reachable : l.obstacle? = none) :
    l.connect =
      (.ok { l.attempted with
        wire := some (deliver {} l.queue).1, queue := (deliver {} l.queue).2 },
        [.connecting l.address, .connectionOpened l.address, .connected l.address]) := by
  have opened : l.attempted.obstacle? = none := (obstacle?_congr rfl rfl).trans reachable
  delta connect
  rw [openWire_of_reachable opened]
  rfl

theorem connect_of_obstacle {l : Link} {f : Failure} (obstacle : l.obstacle? = some f) :
    l.connect = (.error f, [.connecting l.address]) := by
  have stopped : l.attempted.obstacle? = some f := (obstacle?_congr rfl rfl).trans obstacle
  delta connect
  rw [openWire_of_obstacle stopped]
  rfl

theorem connect_ok {l k : Link} {notices : List Notice} (connected : connect l = (.ok k, notices)) :
    l.obstacle? = none ∧
      k = { l.attempted with
        wire := some (deliver {} l.queue).1, queue := (deliver {} l.queue).2 } := by
  cases obstacle : l.obstacle? with
  | some f =>
      rw [connect_of_obstacle obstacle] at connected
      cases connected
  | none =>
      rw [connect_of_reachable obstacle] at connected
      cases connected
      exact ⟨rfl, rfl⟩

theorem pause_link (l : Link) : l.pause.link = l.advance l.pause.waited := by
  unfold pause
  cases l.backoff.delay? l.now <;> rfl

theorem pause_waited (l : Link) : l.pause.waited = (l.backoff.delay? l.now).getD 0 := by
  unfold pause
  cases l.backoff.delay? l.now <;> rfl

/-- The link when the attempt of its next read is over. -/
def tried (l : Link) : Link := l.pause.link.attempted

theorem attemptTime_pause (l : Link) : l.pause.link.attemptTime = l.attemptTime := by
  rw [pause_link]
  exact attemptTime_congr rfl rfl rfl

theorem tried_eq (l : Link) : l.tried = (l.advance l.pause.waited).advance l.attemptTime := by
  rw [tried, attempted, attemptTime_pause, pause_link]

theorem obstacle?_tried (l : Link) : l.tried.obstacle? = l.obstacle? := by
  rw [tried_eq]
  exact obstacle?_congr rfl rfl

theorem reconnect_of_openWire {l k : Link} {notices : List Notice}
    (opened : l.tried.openWire = (.ok k, notices)) :
    l.reconnect.result = .ok () ∧ l.reconnect.link = k := by
  unfold tried at opened
  delta reconnect
  dsimp only
  rw [opened]
  exact ⟨rfl, rfl⟩

theorem reconnect_ok {l : Link} (reconnected : l.reconnect.result = .ok ()) :
    l.reconnect.link.backoff = l.backoff ∧ l.reconnect.link.wire.isSome := by
  cases obstacle : l.tried.obstacle? with
  | some f =>
      have failed := openWire_of_obstacle obstacle
      unfold tried at failed
      delta reconnect at reconnected
      dsimp only at reconnected
      rw [failed] at reconnected
      cases reconnected
  | none =>
      rw [(reconnect_of_openWire (openWire_of_reachable obstacle)).2, tried_eq]
      exact ⟨rfl, rfl⟩

theorem read_of_up {l : Link} (up : l.wire.isSome = true) :
    l.read.result = l.readWire.1 ∧ l.read.link = l.readWire.2 := by
  delta Link.read
  rw [if_pos up]
  exact ⟨rfl, rfl⟩

theorem read_of_reconnect {l : Link} (down : l.wire.isSome = false)
    (reconnected : l.reconnect.result = .ok ()) :
    l.read.result = l.reconnect.link.readWire.1 ∧ l.read.link = l.reconnect.link.readWire.2 := by
  delta Link.read
  rw [down, if_neg Bool.false_ne_true]
  dsimp only
  rw [reconnected]
  exact ⟨rfl, rfl⟩

theorem read_of_reconnect_error {l : Link} (down : l.wire = none) {f : Failure}
    (failed : l.reconnect.result = .error f) :
    l.read.result = .failed f ∧ l.read.link = l.reconnect.link := by
  delta Link.read
  rw [down, Option.isSome_none, if_neg Bool.false_ne_true]
  dsimp only
  rw [failed]
  exact ⟨rfl, rfl⟩

theorem readWire_cases {l : Link} {w : Wire} (up : l.wire = some w) :
    (∃ payload rest, l.readWire = (.message payload,
        { l with wire := some { w with unread := rest }, backoff := l.backoff.recordSuccess })) ∨
      l.readWire = (.pending, l) ∨
      ∃ f, l.readWire = (.failed f, { l with wire := none }.recordFailure) := by
  unfold readWire
  rw [up]
  dsimp only
  cases Frame.next w.unread with
  | ok frame => exact .inl ⟨frame.1, frame.2, rfl⟩
  | error stop =>
      dsimp only
      split
      · exact .inr (.inl rfl)
      · exact .inr (.inr ⟨_, rfl⟩)

theorem read_of_down {l : Link} (down : l.wire = none) :
    l.read =
      match l.tried.openWire with
      | (.ok k, notices) =>
          { result := k.readWire.1
            link := k.readWire.2
            waited := l.pause.waited
            taken := l.attemptTime
            notices := l.pause.notices ++ notices ++ [.reconnected k.address] }
      | (.error f, notices) =>
          { result := .failed f
            link := l.tried.recordFailure
            waited := l.pause.waited
            taken := l.attemptTime
            notices := l.pause.notices ++ notices } := by
  rw [← attemptTime_pause]
  delta read reconnect tried
  rw [down, Option.isSome_none, if_neg Bool.false_ne_true]
  dsimp only
  obtain ⟨opened, notices⟩ := l.pause.link.attempted.openWire
  cases opened <;> rfl

/-- Over the connection that is up a read begins at once. When there is none, it first waits, then
asks for one, and goes on with what it is given. -/
theorem read_cases (l : Link) :
    (∃ w, l.wire = some w ∧ l.read = { result := l.readWire.1, link := l.readWire.2 }) ∨
      (l.wire = none ∧ ∃ f, l.obstacle? = some f ∧
        l.read = {
          result := .failed f
          link := l.tried.recordFailure
          waited := l.pause.waited
          taken := l.attemptTime
          notices := l.pause.notices ++ [.connecting l.address] }) ∨
      (l.wire = none ∧ l.obstacle? = none ∧ ∃ w queue notices,
        let k := { l.tried with wire := some w, queue }
        l.read = {
          result := k.readWire.1
          link := k.readWire.2
          waited := l.pause.waited
          taken := l.attemptTime
          notices := l.pause.notices ++ .connecting l.address :: notices }) := by
  have same := obstacle?_tried l
  have named : l.tried.address = l.address := by
    rw [tried_eq]
    rfl
  cases up : l.wire with
  | some w =>
      refine .inl ⟨w, rfl, ?_⟩
      delta read
      rw [up]
      rfl
  | none =>
      have read := read_of_down up
      cases obstacle : l.obstacle? with
      | some f =>
          rw [obstacle] at same
          rw [openWire_of_obstacle same, named] at read
          exact .inr (.inl ⟨rfl, f, rfl, read⟩)
      | none =>
          rw [obstacle] at same
          rw [openWire_of_reachable same, named] at read
          dsimp only at read
          rw [List.append_assoc] at read
          exact .inr (.inr ⟨rfl, rfl, (deliver {} l.tried.queue).1, (deliver {} l.tried.queue).2,
            _, read⟩)

theorem readWire_now (l : Link) : l.readWire.2.now = l.now := by
  cases up : l.wire with
  | none => simp [readWire, up]
  | some w =>
      rcases readWire_cases up with ⟨payload, rest, taken⟩ | pending | ⟨f, failed⟩
      · rw [taken]
      · rw [pending]
      · rw [failed]
        rfl

theorem read_now (l : Link) : l.read.link.now = l.now + l.read.waited + l.read.taken := by
  rcases read_cases l with ⟨w, -, same⟩ | ⟨-, f, -, same⟩ | ⟨-, -, w, queue, notices, same⟩
  · rw [same]
    exact readWire_now l
  · rw [same, tried_eq]
    rfl
  · rw [same]
    dsimp only
    rw [readWire_now, tried_eq]
    rfl

theorem read_up {l : Link} (up : l.wire.isSome) :
    l.read.waited = 0 ∧ l.read.taken = 0 ∧ l.read.notices = [] := by
  rcases read_cases l with ⟨w, -, same⟩ | ⟨down, -⟩ | ⟨down, -⟩
  · rw [same]
    exact ⟨rfl, rfl, rfl⟩
  all_goals
    rw [down] at up
    cases up

theorem read_down {l : Link} (down : l.wire = none) :
    l.read.waited = l.pause.waited ∧ l.read.taken = l.attemptTime ∧
      ∃ later, l.read.notices = l.pause.notices ++ .connecting l.address :: later := by
  rcases read_cases l with ⟨w, up, -⟩ | ⟨-, f, -, same⟩ | ⟨-, -, w, queue, notices, same⟩
  · rw [down] at up
    cases up
  · rw [same]
    exact ⟨rfl, rfl, [], rfl⟩
  · rw [same]
    exact ⟨rfl, rfl, notices, rfl⟩

theorem read_unreachable {l : Link} (down : l.wire = none) (dead : l.obstacle?.isSome) :
    ∃ f, l.read.result = .failed f ∧ l.read.link.wire = none ∧
      l.read.link.obstacle? = l.obstacle? := by
  rcases read_cases l with ⟨w, up, -⟩ | ⟨-, f, -, same⟩ | ⟨-, reachable, -⟩
  · rw [down] at up
    cases up
  · rw [same, tried_eq]
    exact ⟨f, rfl, down, obstacle?_congr rfl rfl⟩
  · rw [reachable] at dead
    cases dead

theorem readWire_wire {l : Link} {w : Wire} (up : l.wire = some w) :
    l.readWire.2.wire.isSome ↔ ∀ f, l.readWire.1 ≠ .failed f := by
  rcases readWire_cases up with ⟨payload, rest, taken⟩ | pending | ⟨f, failed⟩
  · simp [taken]
  · simp [pending, up]
  · simp [failed, recordFailure]

theorem read_wire (l : Link) : l.read.link.wire.isSome ↔ ∀ f, l.read.result ≠ .failed f := by
  rcases read_cases l with ⟨w, up, same⟩ | ⟨down, f, -, same⟩ | ⟨-, -, w, queue, notices, same⟩
  · rw [same]
    exact readWire_wire up
  · simp [same, recordFailure, tried_eq, advance, down]
  · rw [same]
    exact readWire_wire rfl

def backoffAfter (b : Backoff) (now : Nat) : Result → Backoff
  | .message _ => b.recordSuccess
  | .failed _ => b.recordFailure now
  | .pending => b

theorem readWire_backoff {l : Link} {w : Wire} (up : l.wire = some w) :
    l.readWire.2.backoff = backoffAfter l.backoff l.now l.readWire.1 := by
  rcases readWire_cases up with ⟨payload, rest, taken⟩ | pending | ⟨f, failed⟩
  · rw [taken]
    rfl
  · rw [pending]
    rfl
  · rw [failed]
    rfl

/-- Only how a read ends is recorded, be it with the connection or with the frame; a connection
that was opened for it is not. -/
theorem read_backoff (l : Link) :
    l.read.link.backoff = backoffAfter l.backoff l.read.link.now l.read.result := by
  rcases read_cases l with ⟨w, up, same⟩ | ⟨-, f, -, same⟩ | ⟨-, -, w, queue, notices, same⟩
  · rw [same]
    dsimp only
    rw [readWire_backoff up, readWire_now]
  · rw [same, tried_eq]
    rfl
  · rw [same]
    dsimp only
    rw [readWire_backoff rfl, readWire_now, tried_eq]
    rfl

end ClusterDirectory.Link
