import ClusterLaunch.Proofs.Launch.Stages
import ClusterLaunch.Proofs.Submission

/-!
The commands that a launch sends. It is the submission, once, and after it the
searches of the queue for an interactive job; a launch that ends before the
submission, and a preview, send nothing.
-/

namespace ClusterLaunch

theorem QueueSearch.getLast?_command (job : String) :
    (command job).toList.getLast? = some 'A' := by
  have hend : " -o %A".toList.getLast? = some 'A' := by decide
  unfold command
  rw [String.toList_append, List.getLast?_append, hend, Option.some_or]

namespace Submission

theorem getLast?_batch (c : Container) (job : Job) (options : String) :
    (batch c job options).toList.getLast? = some '"' := by
  have hend : "\"".toList.getLast? = some '"' := by decide
  unfold batch
  rw [String.toList_append, List.getLast?_append, hend, Option.some_or]

theorem getLast?_interactive (c : Container) (job : Job) (options capture : String) :
    (interactive c job options capture).toList.getLast? = some '&' := by
  rw [interactive_eq_detached, getLast?_detached]

/-- A submission is never a command that asks the queue: they end otherwise. -/
theorem command_compose_ne (mode : Mode) (c : Container) (job : Job) (options lead : String)
    (moment : Moment) (tag : Tag) (name : String) :
    (compose mode c job options lead moment tag).command ≠ QueueSearch.command name := by
  intro heq
  have hlast := QueueSearch.getLast?_command name
  rw [← heq] at hlast
  cases mode with
  | batch =>
      rw [compose, getLast?_batch] at hlast
      cases hlast
  | interactive =>
      rw [compose, getLast?_interactive] at hlast
      cases hlast

end Submission

namespace Launcher

variable {σ : Type} {l : Launcher σ} {draws : Draws} {r : Request} {c : Container}
  {failure : Failure} {refusal : Refusal} {output : String} {state after : σ}

@[simp] theorem commands_closing (r : Request) (answer : Except StageFailure Watch) :
    (closing r answer).commands = [] := by
  cases answer <;> rfl

@[simp] theorem commands_handOver (r : Request) (job : Job) (receipt : Receipt) (id : String) :
    (handOver r job receipt id).2.commands = [] := by
  cases h : Text.isBlankText id.toList with
  | true => simp [handOver_of_blank r job receipt h]
  | false => simp [handOver_of_not_blank r job receipt h]

/-- A preview sends nothing. -/
@[simp] theorem commands_preview (l : Launcher σ) (draws : Draws) (r : Request) :
    (l.preview draws r).2.commands = [] := by
  cases l.begins r with
  | rejected hrun => simp [preview_of_not_isRun l draws hrun]
  | unbuilt hrun hc => simp [preview_of_unbuilt draws hrun hc]
  | built hrun hc => simp [preview_of_built draws hrun hc]

/-- How often the queue may be asked after a submission: for no job but an interactive
one that was accepted and is searched for, and for that as often as the search says. -/
structure Searches (l : Launcher σ) (r : Request) (p : Preview) (state : σ) (n : Nat) : Prop where
  refused : ∀ refusal, (l.transport.run p.submission.command state).1 = .error refusal → n = 0
  batch : r.order.mode = .batch → n = 0
  absent : l.finder = .absent → n = 0
  fixed : ∀ id, l.finder = .fixed id → n = 0
  queue : ∀ output search, (l.transport.run p.submission.command state).1 = .ok output →
    r.order.mode = .interactive → l.finder = .queue search → 1 ≤ n ∧ n ≤ max search.attempts 1

theorem Searches.zero {p : Preview}
    (h : ∀ output search, (l.transport.run p.submission.command state).1 = .ok output →
      r.order.mode = .interactive → l.finder ≠ .queue search) : l.Searches r p state 0 where
  refused _ _ := rfl
  batch _ := rfl
  absent _ := rfl
  fixed _ _ := rfl
  queue output search haccepted hmode hfinder := absurd hfinder (h output search haccepted hmode)

theorem Searches.of_queue {p : Preview} {search : QueueSearch} {n : Nat}
    (haccepted : (l.transport.run p.submission.command state).1 = .ok output)
    (hmode : r.order.mode = .interactive) (hfinder : l.finder = .queue search)
    (hpos : 1 ≤ n) (hle : n ≤ search.attempts) : l.Searches r p state n where
  refused _ hrefused := nomatch haccepted.symm.trans hrefused
  batch hbatch := nomatch hmode.symm.trans hbatch
  absent habsent := nomatch hfinder.symm.trans habsent
  fixed _ hfixed := nomatch hfinder.symm.trans hfixed
  queue _ other _ _ hother := by
    obtain rfl : search = other := JobFinder.queue.inj (hfinder.symm.trans hother)
    exact ⟨hpos, Nat.le_trans hle (Nat.le_max_left _ _)⟩

/-! What is sent once the submission has been accepted. -/

theorem followUp_of_batch (l : Launcher σ) (r : Request) (p : Preview) (output : String)
    (state : σ) (hmode : p.submission.mode = .batch) (hjob : p.job.mode = .batch) :
    (l.followUp r p output state).trail.commands = [] ∧
      (l.followUp r p output state).state = state := by
  cases h : Acknowledgment.jobId? output with
  | none => simp [followUp_of_unread l r p state hmode h]
  | some id => simp [followUp_of_acknowledged l r p state hmode hjob h]

/-- When the queue is asked, the search is all that is sent. -/
theorem followUp_of_queue (r : Request) (p : Preview) (output : String) (state : σ)
    {search : QueueSearch} (hmode : p.submission.mode = .interactive)
    (hjob : p.job.mode = .interactive) (h : l.finder = .queue search) :
    let found := search.find l.transport r.deployment p.job.name state
    (l.followUp r p output state).trail.commands = found.trail.commands ∧
      (l.followUp r p output state).state = found.state := by
  cases hfound : (search.find l.transport r.deployment p.job.name state).answer with
  | error failure => simp [followUp_of_unlisted r p output state hmode hjob h hfound]
  | ok id =>
      have hblank := QueueSearch.not_isBlankText_of_find hfound
      simp [followUp_of_listed r p output state hmode hjob h hfound hblank]

/-- An accepted submission is followed by the searches that it allows. -/
theorem followUp_sends (l : Launcher σ) (r : Request) (p : Preview)
    (hmodes : p.submission.mode = p.job.mode) (hasked : p.job.mode = r.order.mode)
    (hrun : l.transport.run p.submission.command state = (.ok output, after)) :
    let done := l.followUp r p output after
    ∃ n, done.trail.commands = List.replicate n (QueueSearch.command p.job.name) ∧
      done.state = l.transport.afterAll done.trail.commands after ∧ l.Searches r p state n := by
  cases hjob : p.job.mode with
  | batch =>
      obtain ⟨hcommands, hstate⟩ :=
        followUp_of_batch l r p output after (hmodes.trans hjob) hjob
      have hbatch : r.order.mode = .batch := hasked.symm.trans hjob
      refine ⟨0, hcommands, ?_, .zero fun _ _ _ hmode => nomatch hbatch.symm.trans hmode⟩
      rw [hcommands, hstate]
      rfl
  | interactive =>
      have hmode := hmodes.trans hjob
      cases hfinder : l.finder with
      | absent =>
          rw [followUp_of_absent r p output after hmode hjob hfinder]
          exact ⟨0, rfl, rfl, .zero fun _ _ _ _ hqueue => nomatch hfinder.symm.trans hqueue⟩
      | fixed id =>
          have hhanded := commands_handOver r p.job ⟨none, p.submission.capture.toList⟩ id
          rw [followUp_of_fixed r p output after hmode hjob hfinder]
          refine ⟨0, hhanded, ?_, .zero fun _ _ _ _ hqueue => nomatch hfinder.symm.trans hqueue⟩
          rw [hhanded]
          rfl
      | queue search =>
          obtain ⟨hcommands, hstate⟩ := followUp_of_queue r p output after hmode hjob hfinder
          obtain ⟨n, hpos, hle, hsent, hafter⟩ :=
            search.find_commands l.transport r.deployment p.job.name after
          have haccepted : (l.transport.run p.submission.command state).1 = .ok output :=
            congrArg Prod.fst hrun
          refine ⟨n, hcommands.trans hsent, ?_,
            .of_queue haccepted (hasked.symm.trans hjob) hfinder hpos hle⟩
          rw [hstate, hcommands]
          exact hafter

/-! The submission and what follows it. -/

theorem submit_sends (l : Launcher σ) (r : Request) (p : Preview) (state : σ)
    (hmodes : p.submission.mode = p.job.mode) (hasked : p.job.mode = r.order.mode) :
    let done := l.submit r p state
    ∃ n, done.trail.commands =
        p.submission.command :: List.replicate n (QueueSearch.command p.job.name) ∧
      done.state = l.transport.afterAll done.trail.commands state ∧ l.Searches r p state n := by
  cases hrun : l.transport.run p.submission.command state with
  | mk answer after =>
      cases answer with
      | error refusal =>
          have hrefused : (l.transport.run p.submission.command state).1 = .error refusal :=
            congrArg Prod.fst hrun
          rw [submit_of_refused r p hrun]
          refine ⟨0, by simp, by simp [Transport.afterAll, hrun], .zero ?_⟩
          exact fun _ _ haccepted => nomatch hrefused.symm.trans haccepted
      | ok output =>
          obtain ⟨n, hsent, hstate, hsearches⟩ := l.followUp_sends r p hmodes hasked hrun
          rw [submit_of_accepted r p hrun]
          refine ⟨n, by simp [hsent], ?_, hsearches⟩
          simpa [Transport.afterAll, hrun] using hstate

/-- What follows a submission is never the submission again. -/
theorem count_submission (l : Launcher σ) (draws : Draws) (r : Request) (c : Container) (n : Nat) :
    let p := l.assemble draws r c
    (p.submission.command :: List.replicate n (QueueSearch.command p.job.name)).count
      p.submission.command = 1 := by
  intro p
  have hne : p.submission.command ≠ QueueSearch.command p.job.name :=
    Submission.command_compose_ne _ _ _ _ _ _ _ _
  have hlater : (List.replicate n (QueueSearch.command p.job.name)).count
      p.submission.command = 0 :=
    List.count_eq_zero.mpr fun hmem => hne (List.eq_of_mem_replicate hmem)
  rw [List.count_cons_self, hlater]

/-! The launch as a whole. -/

theorem launch_sends_nothing (counters : Counters) (state : σ) {early : StageFailure}
    (h : (l.preview draws r).1 = .error early) :
    let done := (l.launch draws r counters state).1
    done.trail.commands = [] ∧ done.state = state := by
  cases l.begins r with
  | rejected hrun => simp [launch_of_not_isRun l draws counters state hrun]
  | unbuilt hrun hc =>
      simp [launch_of_isRun l draws counters state hrun, stages_of_unbuilt draws state hrun hc]
  | built hrun hc =>
      rw [preview_of_built draws hrun hc] at h
      cases h

theorem launch_sends (draws : Draws) (counters : Counters) (state : σ)
    (hrun : Operation.isRun r.operation = true) (hc : (l.container r).1 = .ok c) :
    let p := l.assemble draws r c
    let done := (l.launch draws r counters state).1
    ∃ n, done.trail.commands =
        p.submission.command :: List.replicate n (QueueSearch.command p.job.name) ∧
      done.state = l.transport.afterAll done.trail.commands state ∧ l.Searches r p state n := by
  have hsubmit := l.submit_sends r (l.assemble draws r c) state (by simp) (by simp)
  rw [launch_of_isRun l draws counters state hrun, stages_of_built draws state hrun hc]
  simpa using hsubmit

/-- The commands of a launch. None are sent unless the operation is the one that is
carried out and its container can be built. Then the composed command is sent first and
never again, and the queue is asked after the job as often as `Searches` allows. Nothing
else reaches the transport. A preview sends nothing. -/
theorem commands_launch (l : Launcher σ) (draws : Draws) (r : Request) (counters : Counters)
    (state : σ) :
    let done := (l.launch draws r counters state).1
    let sent := done.trail.commands
    (l.preview draws r).2.commands = [] ∧
      done.state = l.transport.afterAll sent state ∧
      (Operation.isRun r.operation = false → sent = []) ∧
      (∀ failure, (l.container r).1 = .error failure → sent = []) ∧
      (∀ c, Operation.isRun r.operation = true → (l.container r).1 = .ok c →
        let p := l.assemble draws r c
        (l.preview draws r).1 = .ok p ∧ sent.count p.submission.command = 1 ∧
          ∃ n, sent = p.submission.command :: List.replicate n (QueueSearch.command p.job.name) ∧
            l.Searches r p state n) := by
  intro done sent
  cases hp : (l.preview draws r).1 with
  | error early =>
      obtain ⟨hsent, hstate⟩ := launch_sends_nothing counters state hp
      refine ⟨commands_preview l draws r, ?_, fun _ => hsent, fun _ _ => hsent, ?_⟩
      · rw [show sent = [] from hsent]
        exact hstate
      · intro c hrun hc
        rw [preview_of_built draws hrun hc] at hp
        cases hp
  | ok p =>
      obtain ⟨hrun, c, hc, rfl⟩ := preview_eq_ok hp
      obtain ⟨n, hsent, hstate, hsearches⟩ := launch_sends draws counters state hrun hc
      refine ⟨commands_preview l draws r, hstate, ?_, ?_, ?_⟩
      · intro hnot
        cases hrun.symm.trans hnot
      · intro failure hother
        cases hc.symm.trans hother
      · intro other _ hother
        obtain rfl : c = other := Except.ok.inj (hc.symm.trans hother)
        refine ⟨rfl, ?_, n, hsent, hsearches⟩
        rw [show sent = _ from hsent]
        exact count_submission l draws r c n

end Launcher

end ClusterLaunch
