import ClusterLaunch.Proofs.Launch.Stages

/-!
How a launch can end. There are ten ways, told apart by the operation, the container,
the answers of the transport, the mode, and what an interactive job's id comes from.
One of them always applies, never two, and it fixes the answer of the launch.
-/

namespace ClusterLaunch

namespace Launcher

variable {σ : Type}

/-- The ways in which a launch can end. -/
inductive Ending
  | rejected
  | unbuilt
  | refused
  | unread
  | acknowledged
  | absent
  | blank
  | given
  | listed
  | unlisted
  deriving DecidableEq, Repr

def Ending.stage? : Ending → Option Stage
  | .rejected => some .validateOperation
  | .unbuilt => some .buildContainer
  | .refused => some .submitCommand
  | .unread => some .interpretOutput
  | .absent | .blank => some .buildWatch
  | .unlisted => some .retrieveJobId
  | .acknowledged | .given | .listed => none

/-- What an accepted command leads to: when an ending applies, and with which answer.
The command has printed `output` and left the transport in `state`. -/
inductive Follows (l : Launcher σ) (r : Request) (p : Preview) (output : String) (state : σ) :
    Ending → Except StageFailure Watch → Prop
  | unread (hmode : p.job.mode = .batch) (hread : Acknowledgment.jobId? output = none) :
      Follows l r p output state .unread
        (.error ⟨.interpretOutput, .unreadableAcknowledgment (Receipt.bare output)⟩)
  | acknowledged {id : String} (hmode : p.job.mode = .batch)
      (hread : Acknowledgment.jobId? output = some id) :
      Follows l r p output state .acknowledged (.ok ⟨r.deployment, id, p.job.poll⟩)
  | absent (hmode : p.job.mode = .interactive) (hfinder : l.finder = .absent) :
      Follows l r p output state .absent (.error ⟨.buildWatch, .missingJobId⟩)
  | blank {id : String} (hmode : p.job.mode = .interactive) (hfinder : l.finder = .fixed id)
      (hblank : Text.isBlankText id.toList = true) :
      Follows l r p output state .blank (.error ⟨.buildWatch, .missingJobId⟩)
  | given {id : String} (hmode : p.job.mode = .interactive) (hfinder : l.finder = .fixed id)
      (hblank : Text.isBlankText id.toList = false) :
      Follows l r p output state .given (.ok ⟨r.deployment, id, p.job.poll⟩)
  | listed {search : QueueSearch} {k : Nat} {id : String} (hmode : p.job.mode = .interactive)
      (hfinder : l.finder = .queue search) (hk : k < search.attempts)
      (hlisted : QueueSearch.ListedAt l.transport p.job.name state k id) :
      Follows l r p output state .listed (.ok ⟨r.deployment, id, p.job.poll⟩)
  | unlisted {search : QueueSearch} {reason : String} (hmode : p.job.mode = .interactive)
      (hfinder : l.finder = .queue search)
      (hmissed : QueueSearch.Missed l.transport p.job.name state search.attempts)
      (hlast : QueueSearch.read (l.transport.reply (QueueSearch.command p.job.name)
        (search.attempts - 1) state) = .error reason) :
      Follows l r p output state .unlisted
        (.error ⟨.retrieveJobId, .jobNotFound p.job.name search.attempts reason⟩)

/-- When an ending applies to a launch, and with which answer. -/
inductive Ends (l : Launcher σ) (draws : Draws) (r : Request) (state : σ) :
    Ending → Except StageFailure Watch → Prop
  | rejected (hrun : Operation.isRun r.operation = false) :
      Ends l draws r state .rejected
        (.error ⟨.validateOperation, .unsupportedOperation r.operation⟩)
  | unbuilt {failure : Failure} (hrun : Operation.isRun r.operation = true)
      (hc : (l.container r).1 = .error failure) :
      Ends l draws r state .unbuilt (.error ⟨.buildContainer, failure⟩)
  | refused {c : Container} {refusal : Refusal} {after : σ}
      (hrun : Operation.isRun r.operation = true) (hc : (l.container r).1 = .ok c)
      (hsent : l.transport.run (l.assemble draws r c).submission.command state =
        (.error refusal, after)) :
      Ends l draws r state .refused (.error ⟨.submitCommand,
        .commandFailed (l.assemble draws r c).submission.command refusal⟩)
  | accepted {c : Container} {output : String} {after : σ} {ending : Ending}
      {answer : Except StageFailure Watch}
      (hrun : Operation.isRun r.operation = true) (hc : (l.container r).1 = .ok c)
      (hsent : l.transport.run (l.assemble draws r c).submission.command state =
        (.ok output, after))
      (hfollows : Follows l r (l.assemble draws r c) output after ending answer) :
      Ends l draws r state ending answer

variable {l : Launcher σ} {draws : Draws} {r : Request} {p : Preview} {output : String}
  {state : σ} {ending other : Ending} {answer result : Except StageFailure Watch}

/-! An accepted command. -/

/-- The answer that an ending gives is the one that following up gives. -/
theorem Follows.answer_eq (h : Follows l r p output state ending answer)
    (hmodes : p.submission.mode = p.job.mode) :
    (l.followUp r p output state).answer = answer := by
  cases h with
  | unread hmode hread => rw [followUp_of_unread l r p state (hmodes.trans hmode) hread]
  | acknowledged hmode hread =>
      rw [followUp_of_acknowledged l r p state (hmodes.trans hmode) hmode hread]
  | absent hmode hfinder =>
      rw [followUp_of_absent r p output state (hmodes.trans hmode) hmode hfinder]
  | blank hmode hfinder hblank =>
      rw [followUp_of_fixed r p output state (hmodes.trans hmode) hmode hfinder]
      exact congrArg Prod.fst (handOver_of_blank r p.job _ hblank)
  | given hmode hfinder hblank =>
      rw [followUp_of_fixed r p output state (hmodes.trans hmode) hmode hfinder]
      exact congrArg Prod.fst (handOver_of_not_blank r p.job _ hblank)
  | listed hmode hfinder hk hlisted =>
      have hfound := (QueueSearch.find_of_listedAt _ r.deployment hlisted hk).1
      have hblank := QueueSearch.not_isBlankText_of_read hlisted.listed
      rw [followUp_of_listed r p output state (hmodes.trans hmode) hmode hfinder hfound hblank]
  | unlisted hmode hfinder hmissed hlast =>
      obtain ⟨reason, hreason, hfound⟩ := (QueueSearch.find_of_missed _ r.deployment hmissed).1
      rw [hlast] at hreason
      cases hreason
      rw [followUp_of_unlisted r p output state (hmodes.trans hmode) hmode hfinder hfound]

theorem exists_follows (l : Launcher σ) (r : Request) (p : Preview) (output : String) (state : σ) :
    ∃ ending answer, Follows l r p output state ending answer := by
  cases hmode : p.job.mode with
  | batch =>
      cases hread : Acknowledgment.jobId? output with
      | none => exact ⟨_, _, .unread hmode hread⟩
      | some id => exact ⟨_, _, .acknowledged hmode hread⟩
  | interactive =>
      cases hfinder : l.finder with
      | absent => exact ⟨_, _, .absent hmode hfinder⟩
      | fixed id =>
          cases hblank : Text.isBlankText id.toList with
          | true => exact ⟨_, _, .blank hmode hfinder hblank⟩
          | false => exact ⟨_, _, .given hmode hfinder hblank⟩
      | queue search =>
          rcases QueueSearch.listedAt_or_missed l.transport p.job.name state search.attempts with
            ⟨k, hk, id, hlisted⟩ | hmissed
          · exact ⟨_, _, .listed hmode hfinder hk hlisted⟩
          · have hpos := search.attempts_pos
            obtain ⟨reason, hlast⟩ := hmissed (search.attempts - 1) (by omega)
            exact ⟨_, _, .unlisted hmode hfinder hmissed hlast⟩

/-- Endings exclude each other, by the mode, by where the id comes from, or by what the
transport printed. -/
theorem Follows.ending_unique (h : Follows l r p output state ending answer)
    (h' : Follows l r p output state other result) : ending = other := by
  cases h <;> cases h' <;> grind [QueueSearch.ListedAt.not_missed]

theorem Follows.stage?_eq (h : Follows l r p output state ending answer) (stage : Stage) :
    (∃ failure, answer = .error ⟨stage, failure⟩) ↔ ending.stage? = some stage := by
  cases h <;> simp [Ending.stage?, eq_comm]

/-- The id of a batch job is in its acknowledgment: it is not looked for, and never
found to be missing. -/
theorem Follows.stage?_of_batch (h : Follows l r p output state ending answer)
    (hbatch : p.job.mode = .batch) :
    ending.stage? ≠ some .retrieveJobId ∧ ending.stage? ≠ some .buildWatch := by
  cases h with
  | unread => exact ⟨nofun, nofun⟩
  | acknowledged => exact ⟨nofun, nofun⟩
  | _ hmode => cases hbatch.symm.trans hmode

theorem Follows.stage?_of_interactive (h : Follows l r p output state ending answer)
    (hinteractive : p.job.mode = .interactive) : ending.stage? ≠ some .interpretOutput := by
  cases h with
  | unread hmode => cases hinteractive.symm.trans hmode
  | _ => exact nofun

/-- An id that the queue lists is never found to be missing. -/
theorem Follows.stage?_of_queue {search : QueueSearch}
    (h : Follows l r p output state ending answer) (hqueue : l.finder = .queue search) :
    ending.stage? ≠ some .buildWatch := by
  cases h with
  | absent _ habsent => cases hqueue.symm.trans habsent
  | blank _ hfixed => cases hqueue.symm.trans hfixed
  | _ => exact nofun

/-- What goes wrong after a command was accepted does so at a stage after that. -/
theorem Follows.stage_ne {late : StageFailure}
    (h : Follows l r p output state ending (.error late)) :
    late.stage ≠ .validateOperation ∧ late.stage ≠ .buildContainer := by
  cases h <;> exact ⟨nofun, nofun⟩

theorem Follows.poll_eq {watch : Watch} (h : Follows l r p output state ending (.ok watch)) :
    watch.poll = p.job.poll := by
  cases h <;> rfl

/-! The launch. -/

theorem Ends.answer_eq (h : Ends l draws r state ending answer) (counters : Counters) :
    (l.launch draws r counters state).1.answer = answer := by
  cases h with
  | rejected hrun => rw [launch_of_not_isRun l draws counters state hrun]
  | unbuilt hrun hc =>
      rw [launch_of_isRun l draws counters state hrun, stages_of_unbuilt draws state hrun hc]
  | refused hrun hc hsent =>
      rw [launch_of_isRun l draws counters state hrun, stages_of_built draws state hrun hc,
        submit_of_refused r _ hsent]
  | accepted hrun hc hsent hfollows =>
      rw [launch_of_isRun l draws counters state hrun, stages_of_built draws state hrun hc,
        submit_of_accepted r _ hsent]
      exact hfollows.answer_eq (by simp)

theorem exists_ends (l : Launcher σ) (draws : Draws) (r : Request) (state : σ) :
    ∃ ending answer, Ends l draws r state ending answer := by
  cases l.begins r with
  | rejected hrun => exact ⟨_, _, .rejected hrun⟩
  | unbuilt hrun hc => exact ⟨_, _, .unbuilt hrun hc⟩
  | @built c hrun hc =>
      rcases hsent : l.transport.run (l.assemble draws r c).submission.command state with
        ⟨refusal | output, after⟩
      · exact ⟨_, _, .refused hrun hc hsent⟩
      · obtain ⟨ending, answer, hfollows⟩ :=
          l.exists_follows r (l.assemble draws r c) output after
        exact ⟨ending, answer, .accepted hrun hc hsent hfollows⟩

theorem Ends.ending_unique (h : Ends l draws r state ending answer)
    (h' : Ends l draws r state other result) : ending = other := by
  cases h <;> cases h' <;> grind [Follows.ending_unique]

theorem Ends.stage?_eq (h : Ends l draws r state ending answer) (stage : Stage) :
    (∃ failure, answer = .error ⟨stage, failure⟩) ↔ ending.stage? = some stage := by
  cases h with
  | accepted _ _ _ hfollows => exact hfollows.stage?_eq stage
  | _ => simp [Ending.stage?, eq_comm]

theorem Ends.stage?_of_batch (h : Ends l draws r state ending answer)
    (hbatch : r.order.mode = .batch) :
    ending.stage? ≠ some .retrieveJobId ∧ ending.stage? ≠ some .buildWatch := by
  cases h with
  | accepted _ _ _ hfollows => exact hfollows.stage?_of_batch hbatch
  | _ => exact ⟨nofun, nofun⟩

theorem Ends.stage?_of_interactive (h : Ends l draws r state ending answer)
    (hinteractive : r.order.mode = .interactive) : ending.stage? ≠ some .interpretOutput := by
  cases h with
  | accepted _ _ _ hfollows => exact hfollows.stage?_of_interactive hinteractive
  | _ => exact nofun

theorem Ends.stage?_of_queue {search : QueueSearch} (h : Ends l draws r state ending answer)
    (hqueue : l.finder = .queue search) : ending.stage? ≠ some .buildWatch := by
  cases h with
  | accepted _ _ _ hfollows => exact hfollows.stage?_of_queue hqueue
  | _ => exact nofun

/-- A job is watched as often as its request says, or else the settings. -/
theorem Ends.poll_eq {watch : Watch} (h : Ends l draws r state ending (.ok watch)) :
    watch.poll = (Job.build r l.settings.poll draws.jobTag).poll := by
  cases h with
  | accepted _ _ _ hfollows => exact hfollows.poll_eq

/-- A failure at one of the stages before the command is one of the preview. -/
theorem Ends.preview_eq {early : StageFailure} (h : Ends l draws r state ending (.error early))
    (hstage : early.stage = .validateOperation ∨ early.stage = .buildContainer) :
    (l.preview draws r).1 = .error early := by
  cases h with
  | rejected hrun => rw [preview_of_not_isRun l draws hrun]
  | unbuilt hrun hc => rw [preview_of_unbuilt draws hrun hc]
  | refused => rcases hstage with h | h <;> cases h
  | accepted _ _ _ hfollows =>
      rcases hstage with h | h
      · exact absurd h hfollows.stage_ne.1
      · exact absurd h hfollows.stage_ne.2

/-- The check of its operation is not what a launch fails at that has passed it. -/
theorem Ends.stage_ne_of_isRun {failure : StageFailure}
    (h : Ends l draws r state ending (.error failure)) (hrun : Operation.isRun r.operation = true) :
    failure.stage ≠ .validateOperation := by
  cases h with
  | rejected hnot => cases hrun.symm.trans hnot
  | accepted _ _ _ hfollows => exact hfollows.stage_ne.1
  | _ => exact nofun

theorem Ends.kind_of_unbuilt {failure : Failure}
    (h : Ends l draws r state .unbuilt (.error ⟨.buildContainer, failure⟩)) :
    failure.kind ∈ containerKinds := by
  cases h with
  | unbuilt hrun hc => exact kind_of_container hc
  | accepted _ _ _ hfollows => cases hfollows

/-- Exactly one of the ten endings applies to a launch, and it fixes the answer. A launch
fails at the stage that its ending names and succeeds if it names none. A container is
not built for one of four kinds of failure. The id of a batch job is never looked for or
found missing, that of a job that the queue is asked for is not found missing either, and
the output of an interactive job is never unreadable. -/
theorem launch_ends (l : Launcher σ) (draws : Draws) (r : Request) (counters : Counters)
    (state : σ) :
    let answer := (l.launch draws r counters state).1.answer
    ∃ ending,
      (∀ other result,
        Ends l draws r state other result ↔ other = ending ∧ result = answer) ∧
      (∀ stage, (∃ failure, answer = .error ⟨stage, failure⟩) ↔ ending.stage? = some stage) ∧
      (∀ failure, answer = .error ⟨.buildContainer, failure⟩ → failure.kind ∈ containerKinds) ∧
      (r.order.mode = .batch →
        ending.stage? ≠ some .retrieveJobId ∧ ending.stage? ≠ some .buildWatch) ∧
      (r.order.mode = .interactive → ending.stage? ≠ some .interpretOutput) ∧
      (∀ search, l.finder = .queue search → ending.stage? ≠ some .buildWatch) := by
  intro answer
  obtain ⟨ending, given, hends⟩ := l.exists_ends draws r state
  obtain rfl : given = answer := (hends.answer_eq counters).symm
  refine ⟨ending, ?_, hends.stage?_eq, ?_, hends.stage?_of_batch, hends.stage?_of_interactive,
    fun search => hends.stage?_of_queue⟩
  · intro other result
    constructor
    · intro h
      exact ⟨h.ending_unique hends, (h.answer_eq counters).symm⟩
    · rintro ⟨rfl, rfl⟩
      exact hends
  · intro failure hfailure
    have hstage : ending.stage? = some .buildContainer :=
      (hends.stage?_eq .buildContainer).mp ⟨failure, hfailure⟩
    obtain rfl : ending = .unbuilt := by
      cases ending with
      | unbuilt => rfl
      | _ => cases hstage
    rw [hfailure] at hends
    exact hends.kind_of_unbuilt

end Launcher

end ClusterLaunch
