import ClusterLaunch.Proofs.Acknowledgment
import ClusterLaunch.Proofs.Container
import ClusterLaunch.Proofs.Fallible
import ClusterLaunch.Proofs.QueueSearch

/-!
What each stage of a launch can do, one equation for every way in which it can end.
All that is proved of launches is put together from these equations; the stages
themselves are not opened again.
-/

namespace ClusterLaunch

namespace Launcher

variable {σ : Type} {l : Launcher σ} {draws : Draws} {r : Request} {c : Container}
  {failure : Failure} {refusal : Refusal} {output : String} {state after : σ}

/-- What is settled of a launch before its command: its operation is not the one that is carried
out, or its container cannot be built, or it can. -/
inductive Begins (l : Launcher σ) (r : Request) : Prop
  | rejected (hrun : Operation.isRun r.operation = false)
  | unbuilt {failure : Failure} (hrun : Operation.isRun r.operation = true)
      (hc : (l.container r).1 = .error failure)
  | built {c : Container} (hrun : Operation.isRun r.operation = true)
      (hc : (l.container r).1 = .ok c)

theorem begins (l : Launcher σ) (r : Request) : l.Begins r := by
  cases hrun : Operation.isRun r.operation with
  | false => exact .rejected hrun
  | true =>
      cases hc : (l.container r).1 with
      | error failure => exact .unbuilt hrun hc
      | ok c => exact .built hrun hc

theorem validate_of_isRun (h : Operation.isRun r.operation = true) : validate r = .ok () := by
  simp [validate, h]

theorem validate_of_not_isRun (h : Operation.isRun r.operation = false) :
    validate r = .error ⟨.validateOperation, .unsupportedOperation r.operation⟩ := by
  simp [validate, h]

/-! The preview. -/

theorem preview_of_not_isRun (l : Launcher σ) (draws : Draws)
    (h : Operation.isRun r.operation = false) :
    l.preview draws r = (.error ⟨.validateOperation, .unsupportedOperation r.operation⟩, []) := by
  simp only [preview, validate_of_not_isRun h]

theorem preview_of_unbuilt (draws : Draws) (h : Operation.isRun r.operation = true)
    (hc : (l.container r).1 = .error failure) :
    l.preview draws r = (.error ⟨.buildContainer, failure⟩, (l.container r).2) := by
  have hcontainer : l.container r = (.error failure, (l.container r).2) := Prod.ext hc rfl
  rw [preview, validate_of_isRun h, hcontainer]

theorem preview_of_built (draws : Draws) (h : Operation.isRun r.operation = true)
    (hc : (l.container r).1 = .ok c) :
    l.preview draws r = (.ok (l.assemble draws r c), (l.container r).2 ++
      Trail.ofNotices (Submission.notes (l.assemble draws r c).job.inputs)) := by
  have hcontainer : l.container r = (.ok c, (l.container r).2) := Prod.ext hc rfl
  rw [preview, validate_of_isRun h, hcontainer]

/-- What is previewed is built from the container of the request. -/
theorem preview_eq_ok {p : Preview} (h : (l.preview draws r).1 = .ok p) :
    Operation.isRun r.operation = true ∧
      ∃ c, (l.container r).1 = .ok c ∧ p = l.assemble draws r c := by
  cases l.begins r with
  | rejected hrun =>
      rw [preview_of_not_isRun l draws hrun] at h
      cases h
  | unbuilt hrun hc =>
      rw [preview_of_unbuilt draws hrun hc] at h
      cases h
  | built hrun hc =>
      rw [preview_of_built draws hrun hc] at h
      cases h
      exact ⟨hrun, _, hc, rfl⟩

@[simp] theorem job_mode_assemble (l : Launcher σ) (draws : Draws) (r : Request) (c : Container) :
    (l.assemble draws r c).job.mode = r.order.mode := rfl

@[simp] theorem submission_mode_assemble (l : Launcher σ) (draws : Draws) (r : Request)
    (c : Container) : (l.assemble draws r c).submission.mode = r.order.mode := by
  cases h : r.order.mode <;> simp [assemble, Job.build, Submission.compose, h]

/-! The launch up to the command. -/

theorem launch_of_not_isRun (l : Launcher σ) (draws : Draws) (counters : Counters) (state : σ)
    (h : Operation.isRun r.operation = false) :
    l.launch draws r counters state =
      (⟨.error ⟨.validateOperation, .unsupportedOperation r.operation⟩, state,
        [.entered (span r), .noted (rejectedNotice r), .left]⟩, counters.recordRejected) := by
  rw [launch, validate_of_not_isRun h]

theorem launch_of_isRun (l : Launcher σ) (draws : Draws) (counters : Counters) (state : σ)
    (h : Operation.isRun r.operation = true) :
    l.launch draws r counters state =
      let done := l.stages draws r state
      ({ done with
          trail := .entered (span r) :: .noted (startedNotice r) :: done.trail ++
            closing r done.answer ++ [.left] },
        tally counters.recordStarted r done.answer) := by
  rw [launch, validate_of_isRun h]

theorem stages_of_unbuilt (draws : Draws) (state : σ) (h : Operation.isRun r.operation = true)
    (hc : (l.container r).1 = .error failure) :
    l.stages draws r state =
      ⟨.error ⟨.buildContainer, failure⟩, state, (l.container r).2⟩ := by
  rw [stages, preview_of_unbuilt draws h hc]

theorem stages_of_built (draws : Draws) (state : σ) (h : Operation.isRun r.operation = true)
    (hc : (l.container r).1 = .ok c) :
    l.stages draws r state =
      let done := l.submit r (l.assemble draws r c) state
      { done with
        trail := (l.container r).2 ++
          Trail.ofNotices (Submission.notes (l.assemble draws r c).job.inputs) ++ done.trail } := by
  rw [stages, preview_of_built draws h hc]

/-! The command, and what is made of its answer. -/

theorem submit_of_refused (r : Request) (p : Preview)
    (h : l.transport.run p.submission.command state = (.error refusal, after)) :
    l.submit r p state =
      ⟨.error ⟨.submitCommand, .commandFailed p.submission.command refusal⟩, after,
        l.transport.trail p.submission.command⟩ := by
  simp only [submit, h]

theorem submit_of_accepted (r : Request) (p : Preview)
    (h : l.transport.run p.submission.command state = (.ok output, after)) :
    l.submit r p state =
      let done := l.followUp r p output after
      { done with
        trail := l.transport.trail p.submission.command ++
          .noted (commandNotice r p.submission) :: done.trail } := by
  simp only [submit, h]

/-! What is made of the answer. -/

theorem handOver_of_blank (r : Request) (job : Job) (receipt : Receipt) {id : String}
    (h : Text.isBlankText id.toList = true) :
    handOver r job receipt id = (.error ⟨.buildWatch, .missingJobId⟩, []) := by
  simp only [handOver, Watch.build, h, if_true]

theorem handOver_of_not_blank (r : Request) (job : Job) (receipt : Receipt) {id : String}
    (h : Text.isBlankText id.toList = false) :
    handOver r job receipt id = (.ok ⟨r.deployment, id, job.poll⟩,
      [.noted (jobNotice r ⟨r.deployment, id, job.poll⟩ receipt.outputs)]) := by
  simp [handOver, Watch.build, h]

theorem followUp_of_unread (l : Launcher σ) (r : Request) (p : Preview) (state : σ)
    (hmode : p.submission.mode = .batch) (h : Acknowledgment.jobId? output = none) :
    l.followUp r p output state =
      ⟨.error ⟨.interpretOutput, .unreadableAcknowledgment (Receipt.bare output)⟩, state, []⟩ := by
  rw [followUp, hmode, Receipt.interpret_batch_of_none h]

/-- An id that was acknowledged is handed over: it cannot be blank. -/
theorem followUp_of_acknowledged (l : Launcher σ) (r : Request) (p : Preview) (state : σ)
    {id : String} (hmode : p.submission.mode = .batch) (hjob : p.job.mode = .batch)
    (h : Acknowledgment.jobId? output = some id) :
    let receipt : Receipt := ⟨some id, Receipt.batchOutputs id p.job.options⟩
    l.followUp r p output state =
      ⟨.ok ⟨r.deployment, id, p.job.poll⟩, state, Trail.ofNotices receipt.notes ++
        [.noted (jobNotice r ⟨r.deployment, id, p.job.poll⟩ receipt.outputs)]⟩ := by
  have hblank := Acknowledgment.not_isBlankText_of_jobId? h
  simp only [followUp, hmode, Receipt.interpret_batch_of_some h, findId, hjob, Option.getD_some,
    handOver_of_not_blank r p.job _ hblank, List.append_nil]

theorem followUp_of_absent (r : Request) (p : Preview) (output : String) (state : σ)
    (hmode : p.submission.mode = .interactive) (hjob : p.job.mode = .interactive)
    (h : l.finder = .absent) :
    l.followUp r p output state =
      ⟨.error ⟨.buildWatch, .missingJobId⟩, state, [.noted (absentNotice p.job)]⟩ := by
  simp [followUp, hmode, Receipt.interpret_interactive, findId, hjob, h, Receipt.notes,
    Trail.ofNotices]

theorem followUp_of_fixed (r : Request) (p : Preview) (output : String) (state : σ) {id : String}
    (hmode : p.submission.mode = .interactive) (hjob : p.job.mode = .interactive)
    (h : l.finder = .fixed id) :
    let handed := handOver r p.job ⟨none, p.submission.capture.toList⟩ id
    l.followUp r p output state = ⟨handed.1, state, handed.2⟩ := by
  simp [followUp, hmode, Receipt.interpret_interactive, findId, hjob, h, Receipt.notes,
    Trail.ofNotices]

theorem followUp_of_listed (r : Request) (p : Preview) (output : String) (state : σ)
    {search : QueueSearch} {id : String}
    (hmode : p.submission.mode = .interactive) (hjob : p.job.mode = .interactive)
    (h : l.finder = .queue search)
    (hfound : (search.find l.transport r.deployment p.job.name state).answer = .ok id)
    (hblank : Text.isBlankText id.toList = false) :
    let found := search.find l.transport r.deployment p.job.name state
    l.followUp r p output state =
      ⟨.ok ⟨r.deployment, id, p.job.poll⟩, found.state, found.trail ++
        [.noted (jobNotice r ⟨r.deployment, id, p.job.poll⟩ p.submission.capture.toList)]⟩ := by
  simp [followUp, hmode, Receipt.interpret_interactive, findId, hjob, h, hfound,
    handOver_of_not_blank r p.job _ hblank, Receipt.notes, Trail.ofNotices]

theorem followUp_of_unlisted (r : Request) (p : Preview) (output : String) (state : σ)
    {search : QueueSearch}
    (hmode : p.submission.mode = .interactive) (hjob : p.job.mode = .interactive)
    (h : l.finder = .queue search)
    (hfound : (search.find l.transport r.deployment p.job.name state).answer = .error failure) :
    let found := search.find l.transport r.deployment p.job.name state
    l.followUp r p output state =
      ⟨.error ⟨.retrieveJobId, failure⟩, found.state, found.trail⟩ := by
  simp [followUp, hmode, Receipt.interpret_interactive, findId, hjob, h, hfound, Receipt.notes,
    Trail.ofNotices]

end Launcher

end ClusterLaunch
