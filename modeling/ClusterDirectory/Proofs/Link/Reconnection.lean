import ClusterDirectory.Proofs.Link.Delivery

/-!
# Connections one after the other

A publisher has some bytes for each connection and closes it after them. However the bytes are cut,
and whenever they are sent and read, the results of reading are those of each connection alone, in
order (`results_of_connections`): the payloads of its frames, and then the reason why there is no
further one. What is left of a connection that cannot be read any further is never read.
-/

namespace ClusterDirectory.Link

structure Exchange where
  link : Link
  script : List Transmission

namespace Exchange

inductive Step
  | send
  | delay (nanoseconds : Nat)
  | advance (nanoseconds : Nat)
  | read
  deriving DecidableEq

def settled : Result → List Result
  | .pending => []
  | r => [r]

theorem settled_of_ne {r : Result} (ended : r ≠ .pending) : settled r = [r] := by
  cases r with
  | message payload => rfl
  | failed f => rfl
  | pending => exact absurd rfl ended

def step (x : Exchange) : Step → Exchange × List Result
  | .send =>
      match x.script with
      | [] => (x, [])
      | t :: ts => (⟨x.link.send t, ts⟩, [])
  | .delay n => ({ x with link := x.link.delay n }, [])
  | .advance n => ({ x with link := x.link.advance n }, [])
  | .read =>
      (⟨x.link.read.link, x.link.unsent x.link.read.result x.script⟩, settled x.link.read.result)

def run (x : Exchange) : List Step → Exchange × List Result
  | [] => (x, [])
  | s :: steps =>
      let (x, first) := x.step s
      let (x, more) := run x steps
      (x, first ++ more)

theorem run_append (x : Exchange) (ss ts : List Step) :
    x.run (ss ++ ts) = (((x.run ss).1.run ts).1, (x.run ss).2 ++ ((x.run ss).1.run ts).2) := by
  induction ss generalizing x with
  | nil => rfl
  | cons s ss ih => simp only [List.cons_append, run, ih, List.append_assoc]

theorem length_afterClose (ts : List Transmission) : (afterClose ts).length ≤ ts.length := by
  induction ts with
  | nil => exact Nat.le_refl _
  | cons t ts ih =>
      rw [afterClose, List.length_cons]
      split <;> omega

theorem length_unsent (l : Link) (r : Result) (script : List Transmission) :
    (l.unsent r script).length ≤ script.length := by
  have shorter := length_afterClose script
  cases r with
  | failed f =>
      rw [unsent]
      split
      · exact Nat.le_refl _
      · exact shorter
  | message payload => exact Nat.le_refl _
  | pending => exact Nat.le_refl _

theorem length_script_step (x : Exchange) (s : Step) :
    (x.step s).1.script.length ≤ x.script.length - if s == .send then 1 else 0 := by
  cases s with
  | send => cases script : x.script <;> simp [step, script]
  | delay _ | advance _ => simp [step]
  | read => simpa [step] using length_unsent x.link x.link.read.result x.script

theorem length_script_run (x : Exchange) (steps : List Step) :
    (x.run steps).1.script.length ≤ x.script.length - steps.count .send := by
  induction steps generalizing x with
  | nil => exact Nat.le_refl _
  | cons s steps ih =>
      have first := length_script_step x s
      have rest : (x.run (s :: steps)).1.script.length ≤
          (x.step s).1.script.length - steps.count .send := ih (x.step s).1
      rw [List.count_cons]
      omega

section

variable {address : String} {x : Exchange} {coming : List (List UInt8)}

theorem step_results (h : x.link.Carries address x.script coming) (s : Step) :
    ∃ remaining, results address coming = (x.step s).2 ++ results address remaining ∧
      (x.step s).1.link.Carries address (x.step s).1.script remaining := by
  cases s with
  | send =>
      cases script : x.script with
      | nil => exact ⟨coming, by simp [step, script], by simpa [step, script] using h⟩
      | cons t ts =>
          rw [script] at h
          exact ⟨coming, by simp [step, script], by simpa [step, script] using h.send⟩
  | delay n => exact ⟨coming, rfl, h.delay n⟩
  | advance n => exact ⟨coming, rfl, h.advance n⟩
  | read =>
      rcases h.read with ⟨pending, carries, -⟩ | ⟨remaining, first, carries, -⟩
      · refine ⟨coming, ?_, ?_⟩
        · simp [step, pending, settled]
        · simpa [step, pending, unsent] using carries
      · refine ⟨remaining, ?_, carries⟩
        have ended : x.link.read.result ≠ .pending :=
          ne_pending_of_mem_results (first ▸ List.mem_cons_self)
        rw [first, step, settled_of_ne ended]
        rfl

theorem run_results (h : x.link.Carries address x.script coming) (steps : List Step) :
    ∃ remaining, results address coming = (x.run steps).2 ++ results address remaining ∧
      (x.run steps).1.link.Carries address (x.run steps).1.script remaining := by
  induction steps generalizing x coming with
  | nil => exact ⟨coming, rfl, h⟩
  | cons s steps ih =>
      obtain ⟨middle, first, after⟩ := step_results h s
      obtain ⟨remaining, more, final⟩ := ih after
      refine ⟨remaining, ?_, final⟩
      rw [first, more, ← List.append_assoc]
      rfl

theorem run_reads (h : x.link.Carries address x.script coming) (sent : x.script = []) {n : Nat}
    (enough : (results address coming).length ≤ n) :
    (x.run (List.replicate n .read)).2 = results address coming := by
  induction n generalizing x coming with
  | zero => exact (List.length_eq_zero_iff.1 (Nat.le_zero.1 enough)).symm
  | succ n ih =>
      rcases h.read with ⟨-, -, done⟩ | ⟨remaining, first, carries, -⟩
      · cases done sent
        obtain ⟨_, all, -⟩ := run_results h (List.replicate (n + 1) .read)
        exact (List.append_eq_nil_iff.1 all.symm).1
      · have ended : x.link.read.result ≠ .pending :=
          ne_pending_of_mem_results (first ▸ List.mem_cons_self)
        have nothing : x.link.unsent x.link.read.result x.script = [] := by
          have shorter := length_unsent x.link x.link.read.result x.script
          rw [sent] at shorter ⊢
          exact List.length_eq_zero_iff.1 (Nat.le_zero.1 shorter)
        rw [first] at enough ⊢
        have rest : ((x.step .read).1.run (List.replicate n .read)).2 = results address remaining :=
          ih carries nothing (Nat.le_of_succ_le_succ enough)
        rw [List.replicate_succ, run]
        simp only [rest]
        rw [step, settled_of_ne ended]
        rfl

end

end Exchange

theorem wire_of_read_failed {l : Link} {f : Failure} (failed : l.read.result = .failed f) :
    l.read.link.wire = none :=
  Option.not_isSome_iff_eq_none.1 fun up => (read_wire l).1 up f failed

/-- At every point the results are the first of those of the connections. Once everything has been
sent, as many reads as there are results give all of them. -/
theorem results_of_connections {settings : StreamSettings} {latency : Nat} {l : Link}
    {begun : List Notice}
    (connected : connect { settings, answer := .accepted, latency } = (.ok l, begun))
    {script : List Transmission} {conns : List (List UInt8)}
    (planned : connections script = (conns, [])) (steps : List Exchange.Step) :
    ((⟨l, script⟩ : Exchange).run steps).2 <+: results settings.address conns ∧
      (script.length ≤ steps.count .send → ∀ n, (results settings.address conns).length ≤ n →
        ((⟨l, script⟩ : Exchange).run (steps ++ List.replicate n .read)).2 =
          results settings.address conns) ∧
      ∀ (k : Link) (f : Failure), k.read.result = .failed f → k.read.link.wire = none := by
  have start := Carries.of_connect connected planned
  obtain ⟨remaining, all, carries⟩ := Exchange.run_results (x := ⟨l, script⟩) start steps
  refine ⟨⟨_, all.symm⟩, fun sent n enough => ?_, fun _ _ => wire_of_read_failed⟩
  have nothing : ((⟨l, script⟩ : Exchange).run steps).1.script = [] := by
    have left := Exchange.length_script_run ⟨l, script⟩ steps
    rw [Nat.sub_eq_zero_of_le sent, Nat.le_zero, List.length_eq_zero_iff] at left
    exact left
  have fewer : (results settings.address remaining).length ≤ n := by
    have length := congrArg List.length all
    rw [List.length_append] at length
    omega
  rw [Exchange.run_append, Exchange.run_reads carries nothing fewer, ← all]

/-- Behind the first payload stands a length that is too long, with two bytes after it that are not
yet sent when it is read; of the second connection an empty payload comes, and a length without its
payload. -/
theorem results_of_two_connections :
    ∃ l begun,
      connect { settings := ⟨"publisher.local:9092", 5⟩, answer := .accepted, latency := 3 } =
        (.ok l, begun) ∧
      let script : List Transmission :=
        [⟨[1, 0x61, 0xF0, 1, 0, 0, 1], false⟩, ⟨[0, 0], true⟩, ⟨[0, 2, 0x62], true⟩]
      connections script = ([[1, 0x61, 0xF0, 1, 0, 0, 1, 0, 0], [0, 2, 0x62]], []) ∧
      ((⟨l, script⟩ : Exchange).run
          ([.send, .read, .read, .advance 7, .delay 9, .send, .send] ++ List.replicate 4 .read)).2 =
        [.message [0x61], .failed (closeFailure "publisher.local:9092" (.tooLong 16777217)),
          .message [], .failed (closeFailure "publisher.local:9092" .endsInBlock)] := by
  obtain ⟨l, begun, connected⟩ : ∃ l begun,
    connect { settings := ⟨"publisher.local:9092", 5⟩, answer := .accepted, latency := 3 } =
      (.ok l, begun) := ⟨_, _, rfl⟩
  refine ⟨l, begun, connected, ?_⟩
  intro script
  have planned : connections script =
    ([[1, 0x61, 0xF0, 1, 0, 0, 1, 0, 0], [0, 2, 0x62]], []) := rfl
  have first : Frame.next [1, 0x61, 0xF0, 1, 0, 0, 1, 0, 0] =
    .ok ([0x61], [0xF0, 1, 0, 0, 1, 0, 0]) := rfl
  have length : Frame.readLength [0xF0, 1, 0, 0, 1, 0, 0] = .ok (16777217, [0, 0]) := rfl
  have long : Frame.next [0xF0, 1, 0, 0, 1, 0, 0] = .error ⟨.tooLong 16777217, [0, 0]⟩ := by
    simp [Frame.next, length, Frame.maxPayload]
  have empty : Frame.next [0, 2, 0x62] = .ok ([], [2, 0x62]) := rfl
  have cut : Frame.next [2, 0x62] = .error ⟨.endsInBlock, []⟩ := rfl
  have all : results "publisher.local:9092" [[1, 0x61, 0xF0, 1, 0, 0, 1, 0, 0], [0, 2, 0x62]] =
      [.message [0x61], .failed (closeFailure "publisher.local:9092" (.tooLong 16777217)),
        .message [], .failed (closeFailure "publisher.local:9092" .endsInBlock)] := by
    rw [results_frame first, results_close long, results_frame empty, results_close cut]
    rfl
  refine ⟨planned, ?_⟩
  rw [← all]
  refine (results_of_connections connected planned _).2.1 (by decide) 4 ?_
  rw [all]
  decide

end ClusterDirectory.Link
