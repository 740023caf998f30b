import ClusterLaunch.Proofs.Failure
import ClusterLaunch.Proofs.Launch.Commands
import ClusterLaunch.Shell.Route

/-!
The record of a launch. It can be told from the request, from what the transport
replied, and from the answer: the span, the start, that the command was accepted, a
warning for each query that the queue refused, and last the outcome. A preview leaves
nothing in the record. Each notice is given here field by field, as a reader of the log
relies on it.
-/

namespace ClusterLaunch

namespace Transport

variable {σ : Type} {t : Transport σ}

/-- Nothing that a transport reports of the commands it runs goes into the record. -/
def Quiet (t : Transport σ) : Prop :=
  ∀ command, ∀ notice ∈ t.notes command, Level.info.depth < notice.level.depth

theorem quiet_scripted : scripted.Quiet :=
  fun _ _ hnotice => absurd hnotice List.not_mem_nil

/-- A shell's commands are reported for debugging only. -/
theorem quiet_shell (s : Shell.Surroundings) (limit : Option Duration) (route : Shell.Route) :
    (route.transport s limit).Quiet := by
  intro command notice hnotice
  obtain rfl : notice = route.notice command := List.mem_singleton.mp hnotice
  exact (by decide : Level.info.depth < Level.debug.depth)

theorem Quiet.record_trail (h : t.Quiet) (command : String) : (t.trail command).record = [] := by
  simp [trail, Trail.record_ofNotices_eq_nil (h command)]

end Transport

namespace QueueSearch

variable {σ : Type} {t : Transport σ}

/-- The warnings of the refusals among replies, which are those to the attempts from
number `attempt` on. -/
def warnings (job : String) (attempt : Nat) (replies : List (Except Refusal String)) :
    List Notice :=
  (replies.zipIdx attempt).filterMap fun
    | (.ok _, _) => none
    | (.error refusal, number) =>
        some ⟨.warn, .queue, [("job_name", .text job), ("attempt", .number number),
          ("error", .text refusal.message), ("message", .text "squeue failed")]⟩

@[simp] theorem warnings_nil (job : String) (attempt : Nat) : warnings job attempt [] = [] := rfl

theorem warnings_cons (job : String) (attempt : Nat) (reply : Except Refusal String)
    (replies : List (Except Refusal String)) :
    warnings job attempt (reply :: replies) =
      warnings job attempt [reply] ++ warnings job (attempt + 1) replies := by
  cases reply <;> simp [warnings]

/-- Of the notices of an attempt only the warning of a refusal is recorded. -/
theorem record_notes (deployment job : String) (attempt : Nat) (reply : Except Refusal String) :
    (Trail.ofNotices (notes deployment job attempt reply)).record =
      (warnings job attempt [reply]).map .notice := by
  cases reply with
  | error refusal => rfl
  | ok output =>
      cases hlisted : listed? output with
      | none => simp [notes, hlisted, warnings, Trail.ofNotices]
      | some id => simp [notes, hlisted, warnings, Trail.ofNotices, foundNotice, Level.depth]

/-- The record of a search: one warning for each of its queries that was refused, in the
order of the attempts. -/
theorem record_seek (q : QueueSearch) (deployment job : String) (attempt more : Nat) (state : σ)
    (h : t.Quiet) :
    let done := q.seek t deployment job attempt more state
    done.trail.record =
      (warnings job attempt (t.replies done.trail.commands state)).map .notice := by
  induction more generalizing attempt state with
  | zero =>
      cases hread : read (t.run (command job) state).1 with
      | ok id =>
          simp [seek_listed q attempt 0 hread, h.record_trail, record_notes, Transport.replies]
      | error reason =>
          simp [seek_last q attempt hread, h.record_trail, record_notes, Transport.replies]
  | succ more ih =>
      cases hread : read (t.run (command job) state).1 with
      | ok id =>
          simp [seek_listed q attempt (more + 1) hread, h.record_trail, record_notes,
            Transport.replies]
      | error reason =>
          have hlater := ih (attempt + 1) (t.run (command job) state).2
          rw [seek_again q attempt more hread]
          simp [h.record_trail, record_notes, Transport.replies, hlater,
            warnings_cons job attempt _ (t.replies _ _)]

end QueueSearch

/-! Before the command. -/

theorem Submission.record_notes (inputs : List Assignment) :
    (Trail.ofNotices (notes inputs)).record = [] := by
  apply Trail.record_ofNotices_eq_nil
  intro notice hnotice
  obtain ⟨a, -, rfl⟩ := List.mem_map.mp hnotice
  exact (by decide : Level.info.depth < Level.debug.depth)

theorem Receipt.record_notes (receipt : Receipt) :
    (Trail.ofNotices receipt.notes).record = [] := by
  unfold notes
  split <;> rfl

namespace Launcher

variable {σ : Type} {l : Launcher σ} {r : Request} {p : Preview}

/-- A preview leaves nothing in the record. -/
theorem record_preview (l : Launcher σ) (draws : Draws) (r : Request) :
    (l.preview draws r).2.record = [] := by
  cases l.begins r with
  | rejected hrun => simp [preview_of_not_isRun l draws hrun]
  | unbuilt hrun hc => simp [preview_of_unbuilt draws hrun hc]
  | built hrun hc => simp [preview_of_built draws hrun hc, Submission.record_notes]

/-! The command, what follows it, and how the launch is closed. -/

@[simp] theorem record_closing_ok (r : Request) (watch : Watch) :
    (closing r (.ok watch)).record = [] := rfl

@[simp] theorem record_closing_error (r : Request) (failure : StageFailure) :
    (closing r (.error failure)).record = [.notice (failedNotice r failure)] := rfl

/-- The notice that a launch ends with, by its answer. That of a job tells the id it is
watched under, and the outputs that are read from the reply to its command, each of them
quoted. That of a failure tells the stage, the kind and the message. -/
inductive Closes (r : Request) (previewed : Except StageFailure Preview)
    (replies : List (Except Refusal String)) : Except StageFailure Watch → Notice → Prop
  | handed {p : Preview} {output : String} {receipt : Receipt} {shown : List String}
      {watch : Watch} (hpreviewed : previewed = .ok p) (hreply : replies.head? = some (.ok output))
      (hread : Receipt.interpret r.order.mode p.submission.capture output p.job.options =
        .ok receipt)
      (hshown : shown.map Text.unquoted? = receipt.outputs.map some) :
      Closes r previewed replies (.ok watch)
        ⟨.info, .lifecycle, [("event", .text "dispatch.job_submitted"),
          ("deployment_id", .text r.deployment), ("job_id", .text watch.jobId),
          ("outputs", .text ("[" ++ ", ".intercalate shown ++ "]"))]⟩
  | failed {failure : StageFailure} {stage kind : String}
      (hstage : (failure.stage, stage) ∈ Stage.words)
      (hkind : (failure.failure.kind, kind) ∈ Failure.Kind.words) :
      Closes r previewed replies (.error failure)
        ⟨.warn, .lifecycle, [("event", .text "dispatch.failed"),
          ("deployment_id", .text r.deployment), ("stage", .text stage), ("kind", .text kind),
          ("error", .text ("failed to " ++ stage ++ ": " ++ failure.failure.message))]⟩

section

variable {previewed : Except StageFailure Preview} {replies : List (Except Refusal String)}

theorem closes_failed (failure : StageFailure) :
    Closes r previewed replies (.error failure) (failedNotice r failure) :=
  .failed failure.stage.label_mem_words failure.failure.kind.label_mem_words

theorem closes_handed {output : String} {receipt : Receipt} (watch : Watch)
    (hreply : replies.head? = some (.ok output))
    (hread : Receipt.interpret r.order.mode p.submission.capture output p.job.options =
      .ok receipt) :
    Closes r (.ok p) replies (.ok watch) (jobNotice r watch receipt.outputs) := by
  have hshown : (receipt.outputs.map Text.quoted).map Text.unquoted? =
      receipt.outputs.map some := by
    rw [List.map_map]
    exact List.map_congr_left fun output _ => Text.unquoted?_quoted output
  exact .handed rfl hreply hread hshown

/-- A job that is handed over is closed with its notice, and one that is not with the failure. -/
theorem exists_closes_handOver {output : String} {receipt : Receipt} (job : Job) (id : String)
    (hreply : replies.head? = some (.ok output))
    (hread : Receipt.interpret r.order.mode p.submission.capture output p.job.options =
      .ok receipt) :
    let handed := handOver r job receipt id
    ∃ last, Closes r (.ok p) replies handed.1 last ∧
      handed.2.record ++ (closing r handed.1).record = [.notice last] := by
  cases hblank : Text.isBlankText id.toList with
  | true =>
      rw [handOver_of_blank r job receipt hblank]
      exact ⟨_, closes_failed _, rfl⟩
  | false =>
      rw [handOver_of_not_blank r job receipt hblank]
      exact ⟨_, closes_handed _ hreply hread, rfl⟩

/-- After an accepted command the record has the refusals of the queue, and the outcome. -/
theorem exists_closes_followUp {output : String} (l : Launcher σ) (state : σ)
    (hquiet : l.transport.Quiet) (hmodes : p.submission.mode = p.job.mode)
    (hasked : p.job.mode = r.order.mode) (hreply : replies.head? = some (.ok output)) :
    let done := l.followUp r p output state
    let later := l.transport.replies done.trail.commands state
    ∃ last, Closes r (.ok p) replies done.answer last ∧
      done.trail.record ++ (closing r done.answer).record =
        (QueueSearch.warnings p.job.name 1 later ++ [last]).map .notice := by
  cases hjob : p.job.mode with
  | batch =>
      have hmode := hmodes.trans hjob
      cases hread : Acknowledgment.jobId? output with
      | none =>
          rw [followUp_of_unread l r p state hmode hread]
          exact ⟨_, closes_failed _, rfl⟩
      | some id =>
          have hreceipt : Receipt.interpret r.order.mode p.submission.capture output p.job.options =
              .ok ⟨some id, Receipt.batchOutputs id p.job.options⟩ := by
            rw [← hasked, hjob, Receipt.interpret_batch_of_some hread]
          rw [followUp_of_acknowledged l r p state hmode hjob hread]
          refine ⟨_, closes_handed _ hreply hreceipt, ?_⟩
          simp [Receipt.record_notes, Transport.replies, jobNotice, notice]
  | interactive =>
      have hmode := hmodes.trans hjob
      have hreceipt : Receipt.interpret r.order.mode p.submission.capture output p.job.options =
          .ok ⟨none, p.submission.capture.toList⟩ := by
        rw [← hasked, hjob, Receipt.interpret_interactive]
      cases hfinder : l.finder with
      | absent =>
          rw [followUp_of_absent r p output state hmode hjob hfinder]
          exact ⟨_, closes_failed _, rfl⟩
      | fixed id =>
          obtain ⟨last, hcloses, hrecord⟩ := exists_closes_handOver p.job id hreply hreceipt
          rw [followUp_of_fixed r p output state hmode hjob hfinder]
          exact ⟨last, hcloses, by simpa [Transport.replies] using hrecord⟩
      | queue search =>
          have hsearch :=
            search.record_seek r.deployment p.job.name 1 (search.attempts - 1) state hquiet
          cases hfound : (search.find l.transport r.deployment p.job.name state).answer with
          | error failure =>
              rw [followUp_of_unlisted r p output state hmode hjob hfinder hfound]
              refine ⟨_, closes_failed _, ?_⟩
              simp [QueueSearch.find, hsearch]
          | ok id =>
              have hblank := QueueSearch.not_isBlankText_of_find hfound
              rw [followUp_of_listed r p output state hmode hjob hfinder hfound hblank]
              refine ⟨_, closes_handed _ hreply hreceipt, ?_⟩
              simp [QueueSearch.find, hsearch, jobNotice, notice]

end

/-- The notice that a command was accepted, if it was. -/
def acceptances (r : Request) : List String → List (Except Refusal String) → List Notice
  | command :: _, .ok _ :: _ =>
      [⟨.info, .lifecycle, [("event", .text "dispatch.command_submitted"),
        ("deployment_id", .text r.deployment),
        ("mode", .text (if r.order.mode = .batch then "batch" else "interactive")),
        ("command", .text command)]⟩]
  | _, _ => []

theorem commandNotice_eq (hmode : p.submission.mode = r.order.mode) (sent : List String)
    (output : String) (replies : List (Except Refusal String)) :
    [commandNotice r p.submission] =
      acceptances r (p.submission.command :: sent) (.ok output :: replies) := by
  cases horder : r.order.mode <;>
    simp [commandNotice, notice, acceptances, hmode, horder, Mode.name]

theorem exists_closes_submit (l : Launcher σ) (r : Request) (p : Preview) (state : σ)
    (hquiet : l.transport.Quiet) (hmodes : p.submission.mode = p.job.mode)
    (hasked : p.job.mode = r.order.mode) :
    let done := l.submit r p state
    let replies := l.transport.replies done.trail.commands state
    ∃ last, Closes r (.ok p) replies done.answer last ∧
      done.trail.record ++ (closing r done.answer).record =
        (acceptances r done.trail.commands replies ++
          QueueSearch.warnings p.job.name 1 replies.tail ++ [last]).map .notice := by
  cases hrun : l.transport.run p.submission.command state with
  | mk reply after =>
      cases reply with
      | error refusal =>
          rw [submit_of_refused r p hrun]
          refine ⟨_, closes_failed _, ?_⟩
          simp [hquiet.record_trail, Transport.replies, hrun, acceptances]
      | ok output =>
          let followed := l.followUp r p output after
          let later := l.transport.replies followed.trail.commands after
          have hreply : (Except.ok output :: later).head? = some (.ok output) := rfl
          obtain ⟨last, hcloses, hrecord⟩ :=
            exists_closes_followUp l after hquiet hmodes hasked hreply
          have hcommands : (l.submit r p state).trail.commands =
              p.submission.command :: followed.trail.commands := by
            simp [submit_of_accepted r p hrun, followed]
          have hreplies : l.transport.replies (l.submit r p state).trail.commands state =
              .ok output :: later := by
            rw [hcommands, Transport.replies, hrun]
          simp only [hreplies]
          refine ⟨last, ?_, ?_⟩
          · rwa [submit_of_accepted r p hrun]
          · rw [hcommands, ← commandNotice_eq (hmodes.trans hasked), submit_of_accepted r p hrun]
            simpa [hquiet.record_trail, commandNotice, notice] using hrecord

/-- All stages together leave in the record what the submission leaves, and the outcome. -/
theorem exists_closes_stages (l : Launcher σ) (draws : Draws) (state : σ)
    (hquiet : l.transport.Quiet) (hrun : Operation.isRun r.operation = true) :
    let done := l.stages draws r state
    let commands := done.trail.commands
    let replies := l.transport.replies commands state
    let job := Job.build r l.settings.poll draws.jobTag
    ∃ last, Closes r (l.preview draws r).1 replies done.answer last ∧
      done.trail.record ++ (closing r done.answer).record =
        (acceptances r commands replies ++ QueueSearch.warnings job.name 1 replies.tail ++
          [last]).map .notice := by
  cases l.begins r with
  | rejected hnot => cases hrun.symm.trans hnot
  | unbuilt hrun hc =>
      rw [stages_of_unbuilt draws state hrun hc]
      refine ⟨_, closes_failed _, ?_⟩
      simp [acceptances, Transport.replies]
  | @built c hrun hc =>
      obtain ⟨last, hcloses, hrecord⟩ :=
        l.exists_closes_submit r (l.assemble draws r c) state hquiet (by simp) (by simp)
      have hjob : (l.assemble draws r c).job = Job.build r l.settings.poll draws.jobTag := rfl
      rw [stages_of_built draws state hrun hc, preview_of_built draws hrun hc]
      refine ⟨last, by simpa using hcloses, ?_⟩
      simpa [Submission.record_notes, hjob] using hrecord

/-! The launch as a whole. -/

/-- The notices of a launch of `r`, by its preview, the commands that it sent, the replies to
these, and its answer: the rejection alone, if the operation is not the one that is carried
out, or the start, the acceptance of the command, a warning for each query that was
refused, and last how it was closed. -/
inductive Account (r : Request) (job : Job) (previewed : Except StageFailure Preview)
    (commands : List String) (replies : List (Except Refusal String))
    (answer : Except StageFailure Watch) : List Notice → Prop
  | rejected
      (hrun : Text.equalIgnoringAsciiCase r.operation
        "tosca.interfaces.node.lifecycle.runnable.run" = false) :
      Account r job previewed commands replies answer
        [⟨.info, .lifecycle, [("event", .text "dispatch.rejected"),
          ("deployment_id", .text r.deployment), ("operation", .text r.operation)]⟩]
  | carriedOut {last : Notice}
      (hrun : Text.equalIgnoringAsciiCase r.operation
        "tosca.interfaces.node.lifecycle.runnable.run" = true)
      (hlast : Closes r previewed replies answer last) :
      Account r job previewed commands replies answer
        (⟨.info, .lifecycle, [("event", .text "dispatch.started"),
            ("deployment_id", .text r.deployment), ("operation", .text r.operation),
            ("mode", .text (if r.order.mode = .batch then "batch" else "interactive"))]⟩ ::
          (acceptances r commands replies ++
            QueueSearch.warnings job.name 1 replies.tail ++ [last]))

theorem startedNotice_eq (r : Request) :
    startedNotice r = ⟨.info, .lifecycle, [("event", .text "dispatch.started"),
      ("deployment_id", .text r.deployment), ("operation", .text r.operation),
      ("mode", .text (if r.order.mode = .batch then "batch" else "interactive"))]⟩ := by
  cases horder : r.order.mode <;> simp [startedNotice, notice, horder, Mode.name]

theorem exists_account (l : Launcher σ) (draws : Draws) (r : Request) (counters : Counters)
    (state : σ) (hquiet : l.transport.Quiet) :
    let done := (l.launch draws r counters state).1
    let commands := done.trail.commands
    ∃ notices,
      Account r (Job.build r l.settings.poll draws.jobTag) (l.preview draws r).1 commands
        (l.transport.replies commands state) done.answer notices ∧
      done.trail.record = .span (span r) :: notices.map .notice := by
  intro done commands
  cases hrun : Operation.isRun r.operation with
  | false =>
      refine ⟨_, .rejected hrun, ?_⟩
      simp [done, launch_of_not_isRun l draws counters state hrun, rejectedNotice, notice]
  | true =>
      obtain ⟨last, hcloses, hrecord⟩ := exists_closes_stages l draws state hquiet hrun
      have hanswer : done.answer = (l.stages draws r state).answer := by
        simp [done, launch_of_isRun l draws counters state hrun]
      have hcommands : commands = (l.stages draws r state).trail.commands := by
        simp [commands, done, launch_of_isRun l draws counters state hrun]
      rw [hanswer, hcommands]
      refine ⟨_, .carriedOut hrun hcloses, ?_⟩
      rw [← startedNotice_eq, List.map_cons, ← hrecord]
      simp [done, launch_of_isRun l draws counters state hrun, startedNotice, notice]

/-- The record of a launch is its span and the notices of its account. The commands that
the account reports of are those that were sent: none, if the preview fails, or the one that
was previewed and queries for its job. A preview leaves nothing in the record. -/
theorem record_launch (l : Launcher σ) (draws : Draws) (r : Request) (counters : Counters)
    (state : σ) (hquiet : l.transport.Quiet) :
    let previewed := l.preview draws r
    let done := (l.launch draws r counters state).1
    let commands := done.trail.commands
    let job := Job.build r l.settings.poll draws.jobTag
    previewed.2.record = [] ∧
      (∃ notices,
        Account r job previewed.1 commands (l.transport.replies commands state) done.answer
          notices ∧
        done.trail.record =
          .span ⟨"slurmexec.dispatch",
            [("deployment_id", .text r.deployment), ("node_template", .text r.template)]⟩ ::
          notices.map .notice) ∧
      (∀ early, previewed.1 = .error early → commands = []) ∧
      (∀ p, previewed.1 = .ok p → ∃ n, commands = p.submission.command ::
        List.replicate n ("squeue --noheader --name=" ++ job.name ++ " -o %A")) := by
  intro previewed done commands job
  refine ⟨record_preview l draws r, exists_account l draws r counters state hquiet,
    fun early hearly => (launch_sends_nothing counters state hearly).1, fun p hp => ?_⟩
  obtain ⟨hrun, c, hc, rfl⟩ := preview_eq_ok hp
  obtain ⟨n, hsent, -, -⟩ := launch_sends draws counters state hrun hc
  exact ⟨n, hsent⟩

/-- An interactive job that the queue lists at the third attempt, after it has refused the
second: the start, the command, one warning, and the outcome. -/
theorem record_launch_listed_at_third :
    let search : QueueSearch := ⟨3, .ofMillis 0, by decide⟩
    let l : Launcher (List (Except Refusal String)) :=
      ⟨.ofCatalogue {}, .scripted, .queue search, {}⟩
    let draws : Draws := ⟨⟨0⟩, ⟨0⟩, ⟨0⟩⟩
    let r : Request := ⟨Operation.run, "dep", "Type", "Job", "tool.img", [], [], "/work",
      ⟨.interactive, { name := some "night" }, none⟩⟩
    let state : List (Except Refusal String) :=
      [.ok "", .ok "", .error ⟨"exit status 1", "busy"⟩, .ok "42"]
    let deployment := ("deployment_id", Detail.text "dep")
    let mode := ("mode", Detail.text "interactive")
    l.transport.Quiet ∧ ∃ outputs, (l.launch draws r {} state).1.trail.record =
      [.span ⟨"slurmexec.dispatch", [deployment, ("node_template", .text "Job")]⟩,
        .notice ⟨.info, .lifecycle, [("event", .text "dispatch.started"), deployment,
          ("operation", .text "tosca.interfaces.node.lifecycle.runnable.run"), mode]⟩,
        .notice ⟨.info, .lifecycle, [("event", .text "dispatch.command_submitted"), deployment,
          mode, ("command", .text ("srun --job-name=night singularity run  tool.img  > " ++
            "slurmexec_00000101-000000.000000-00000000.out &"))]⟩,
        .notice ⟨.warn, .queue, [("job_name", .text "night"), ("attempt", .number 2),
          ("error", .text "exit status 1"), ("message", .text "squeue failed")]⟩,
        .notice ⟨.info, .lifecycle, [("event", .text "dispatch.job_submitted"), deployment,
          ("job_id", .text "42"), ("outputs", .text outputs)]⟩] := by
  intro search l draws r state deployment mode
  refine ⟨Transport.quiet_scripted, ?_⟩
  obtain ⟨-, ⟨notices, haccount, hrecord⟩, -⟩ :=
    record_launch l draws r {} state Transport.quiet_scripted
  have hanswer : (l.launch draws r {} state).1.answer = .ok ⟨"dep", "42", .ofSeconds 5⟩ := by
    decide +kernel
  have hcommands : (l.launch draws r {} state).1.trail.commands =
      ("srun --job-name=night singularity run  tool.img  > " ++
        "slurmexec_00000101-000000.000000-00000000.out &") ::
      List.replicate 3 "squeue --noheader --name=night -o %A" := by
    decide +kernel
  rw [hcommands, hanswer] at haccount
  cases haccount with
  | rejected hrun => exact absurd hrun (by decide)
  | carriedOut hrun hlast =>
      cases hlast with
      | handed => exact ⟨_, hrecord⟩

end Launcher

end ClusterLaunch
