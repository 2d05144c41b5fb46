import ClusterDirectory.Proofs.Link.Pacing
import ClusterDirectory.Proofs.Updates.Handled
import ClusterDirectory.Stream

/-!
# Updates that cannot spin

Updates read again as soon as a read has ended. When the publisher cannot be reached each of these
reads fails (`readUpTo_unreachable`), but no connection is asked for before the wait that the
failures in a row ask for is over, so that the clock has gone on by all the waits between them
(`attempts_paced`).
-/

namespace ClusterDirectory

open Backoff (wait waits)

namespace Stream

open Link (Trail)

theorem readUpTo_unreachable {x : Trail} {u : Updates} (running : u.running = true)
    (down : x.link.wire = none) (dead : x.link.obstacle?.isSome) (now : UInt64) (count : Nat) :
    let after := ((⟨x.link, u⟩ : Stream).readUpTo now count).1
    let y := x.run (List.replicate count .read)
    after.link = y.link ∧ y.failures.length = x.failures.length + count ∧
      after.updates.metrics.transportError = u.metrics.transportError + UInt64.ofNat count := by
  induction count generalizing x u with
  | zero => exact ⟨rfl, rfl, (UInt64.add_zero _).symm⟩
  | succ n ih =>
      obtain ⟨f, failed, still, same⟩ := Link.read_unreachable down dead
      have one : (⟨x.link, u⟩ : Stream).next now = (true,
          { link := x.link.read.link, updates := (u.handle now (.error f)).1 },
          x.link.read.notices ++ (u.handle now (.error f)).2) := by
        simp [next, running, failed, readOf]
      have ended : x.step .read = ⟨x.link.read.link, x.failures ++ [x.link.read.link.now]⟩ := by
        simp [Trail.step, Trail.ended, failed]
      obtain ⟨link, length, counted⟩ := ih (x := x.step .read) (u := (u.handle now (.error f)).1)
        ((Updates.handle_running now u (.error f)).trans running) (by rw [ended]; exact still)
        (by rw [ended, same]; exact dead)
      rw [ended] at link length counted
      simp only [readUpTo, one, List.replicate_succ]
      rw [Trail.run, List.foldl_cons, ended, ← Trail.run]
      refine ⟨link, ?_, ?_⟩
      · rw [length, List.length_append, List.length_singleton]
        omega
      · rw [counted, UInt64.ofNat_add, UInt64.add_comm (UInt64.ofNat n), ← UInt64.add_assoc]
        rfl

theorem attempts_paced {settings : StreamSettings} {answer : Answer} {latency : Nat}
    {queue : List Transmission} {began : Nat} {l : Link} {begun : List Notice}
    (connected : Link.connect { settings, answer, latency, queue, now := began } = (.ok l, begun))
    (events : List Link.Event) :
    let x := (⟨l, []⟩ : Trail).run events
    let n := x.failures.length
    (∀ last ∈ x.failures.getLast?, 3 ≤ n → .connecting x.link.address ∈ x.link.read.notices →
        last + min (2 ^ min n 9) 300 * 1000000000 ≤ x.link.now + x.link.read.waited) ∧
      (∀ first ∈ x.failures.head?, ∀ last ∈ x.failures.getLast?,
        first + ∑ k ∈ Finset.Ico 3 n, min (2 ^ min k 9) 300 * 1000000000 ≤ last) ∧
      (∀ (u : Updates) (now : UInt64) (count : Nat), u.running = true → x.link.wire = none →
        x.link.obstacle?.isSome →
          let after := ((⟨x.link, u⟩ : Stream).readUpTo now count).1
          let y := x.run (List.replicate count .read)
          after.link = y.link ∧ y.failures.length = n + count ∧
            after.updates.metrics.transportError =
              u.metrics.transportError + UInt64.ofNat count ∧
            ∀ first ∈ y.failures.head?,
              first + ∑ k ∈ Finset.Ico 3 (n + count), min (2 ^ min k 9) 300 * 1000000000 ≤
                after.link.now) ∧
      (x.link.wire.isSome →
        x.link.read.waited = 0 ∧ x.link.read.taken = 0 ∧ x.link.read.notices = []) ∧
      (x.link.wire = none → x.link.read.waited = x.link.pause.waited ∧
        x.link.read.taken = x.link.attemptTime ∧
        ∃ later, x.link.read.notices =
          x.link.pause.notices ++ .connecting x.link.address :: later) ∧
      (n < 3 → x.link.read.waited = 0) ∧
      x.link.read.waited ≤ 300 * 1000000000 ∧
      x.link.attemptTime ≤ x.link.settings.timeoutSeconds * 1000000000 ∧
      (x.link.heard = .silent →
        x.link.attemptTime = x.link.settings.timeoutSeconds * 1000000000) ∧
      x.link.read.link.now = x.link.now + x.link.read.waited + x.link.read.taken := by
  intro x n
  have paced : Link.Paced x := (Link.Paced.start connected).run events
  refine ⟨?_, ?_, ?_, Link.read_up, Link.read_down, ?_, ?_, x.link.attemptTime_le,
    Link.attemptTime_of_silent, x.link.read_now⟩
  · intro last latest many asked
    have down : x.link.wire = none := by
      cases up : x.link.wire with
      | none => rfl
      | some w =>
          rw [(Link.read_up (by rw [up]; rfl)).2.2] at asked
          cases asked
    have waited : x.link.read.waited = last + wait n - x.link.now := by
      rw [paced.read_waited down, latest, Option.elim_some]
    rw [← Backoff.wait_of_many many]
    omega
  · intro first earliest last latest
    rw [← Backoff.waits_eq]
    exact paced.apart first earliest last latest
  · intro u now count running down dead after y
    obtain ⟨link, length, counted⟩ := readUpTo_unreachable running down dead now count
    refine ⟨link, length, counted, fun first earliest => ?_⟩
    have later : Link.Paced y := paced.run (List.replicate count .read)
    have nonempty : y.failures ≠ [] := by
      intro nothing
      rw [nothing] at earliest
      cases earliest
    have latest := List.getLast?_eq_some_getLast nonempty
    rw [← Backoff.waits_eq, ← length]
    calc first + waits y.failures.length
        ≤ y.failures.getLast nonempty := later.apart first earliest _ latest
      _ ≤ y.link.now := (later.last _ latest).2
      _ = after.link.now := by rw [link]
  · intro few
    have most := paced.read_waited_le
    rw [Backoff.wait_of_few few] at most
    exact Nat.le_zero.1 most
  · exact Nat.le_trans paced.read_waited_le (Backoff.wait_le n)

/-- The connection is closed behind its first frame. An attempt is given up after five seconds, and
the next one is refused within one; so the failure after them comes only when eight seconds are over
and it has been refused as well, and the one after that when sixteen more are over. -/
theorem attempts_paced_refused :
    ∃ l begun, Link.connect { settings := ⟨"publisher.local:9092", 5⟩, answer := .accepted } =
        (.ok l, begun) ∧
      let x := (⟨l, []⟩ : Trail).run [.send ⟨[1, 0x61], true⟩, .read, .answer .silent, .read,
        .read, .answer .refused, .delay 1000000000, .read, .advance 2000000000, .read]
      x.failures = [0, 5000000000, 6000000000, 15000000000] ∧
        .connecting x.link.address ∈ x.link.read.notices ∧
        15000000000 + min (2 ^ min 4 9) 300 * 1000000000 ≤ x.link.now + x.link.read.waited := by
  obtain ⟨l, begun, connected⟩ : ∃ l begun,
    Link.connect { settings := ⟨"publisher.local:9092", 5⟩, answer := .accepted } =
      (.ok l, begun) := ⟨_, _, rfl⟩
  refine ⟨l, begun, connected, ?_⟩
  intro x
  have paced := attempts_paced connected [.send ⟨[1, 0x61], true⟩, .read, .answer .silent, .read,
    .read, .answer .refused, .delay 1000000000, .read, .advance 2000000000, .read]
  cases connected
  have failures : x.failures = [0, 5000000000, 6000000000, 15000000000] := by decide
  have down : x.link.wire = none := by decide
  have asked : .connecting x.link.address ∈ x.link.read.notices := by
    obtain ⟨later, notices⟩ := (Link.read_down down).2.2
    rw [notices]
    exact List.mem_append_right _ List.mem_cons_self
  have waited := paced.1 15000000000 (by decide) (by decide) asked
  exact ⟨failures, asked, waited⟩

end Stream

end ClusterDirectory
