import ClusterLaunch.Proofs.Launch.Naming
import ClusterLaunch.Proofs.Outputs
import ClusterLaunch.Proofs.Submission

/-!
The text of the command that a preview puts together, and the files that are read off it.
Each part of the command comes from one place: the inputs to export, the rendered options,
the image, the command for the container. A batch job's output files are those that the
options in its command declare, and an interactive job's is the one that its command sends
the output to.
-/

namespace ClusterLaunch

namespace Launcher

variable {σ : Type} {l : Launcher σ} {draws : Draws} {r : Request} {p : Preview}

theorem submission_of_batch (l : Launcher σ) (draws : Draws) (c : Container)
    (hmode : r.order.mode = .batch) :
    (l.assemble draws r c).submission =
      ⟨.batch, Submission.batch c (Job.build r l.settings.poll draws.jobTag)
        r.order.options.render, none⟩ := by
  have hjob : (Job.build r l.settings.poll draws.jobTag).mode = .batch := hmode
  have hoptions := Job.options_build_of_batch hmode l.settings.poll draws.jobTag
  rw [assemble, hjob, hoptions, Submission.compose]

theorem submission_of_interactive (l : Launcher σ) (draws : Draws) (c : Container)
    (hmode : r.order.mode = .interactive) :
    (l.assemble draws r c).submission =
      ⟨.interactive, Submission.detached c (Job.build r l.settings.poll draws.jobTag)
        (Job.build r l.settings.poll draws.jobTag).options.render
        (CaptureName.make l.settings.lead ".out" draws.moment draws.captureTag),
        some (CaptureName.make l.settings.lead ".out" draws.moment draws.captureTag)⟩ := by
  have hjob : (Job.build r l.settings.poll draws.jobTag).mode = .interactive := hmode
  rw [assemble, hjob, Submission.compose, Submission.interactive_eq_detached]
  rfl

/-- The submission of a batch job is settled by the declarations and by the request but for
its further arguments. -/
theorem submission_congr_of_batch {τ : Type} {other : Launcher τ} (draws' : Draws)
    (arguments : List String) (hmode : r.order.mode = .batch) (hsource : other.source = l.source)
    (h : (l.preview draws r).1 = .ok p) :
    (other.preview draws' { r with arguments }).1.map Preview.submission = .ok p.submission := by
  obtain ⟨hrun, c, hc, rfl⟩ := preview_eq_ok h
  have hcontainer : other.container { r with arguments } = l.container r := by
    unfold container
    rw [hsource]
    rfl
  have hother : (other.container { r with arguments }).1 = .ok c := by rw [hcontainer, hc]
  have hpreview := other.preview_of_built draws' (r := { r with arguments }) hrun hother
  have hjob : ∀ options, Submission.batch c
      (Job.build { r with arguments } other.settings.poll draws'.jobTag) options =
        Submission.batch c (Job.build r l.settings.poll draws.jobTag) options :=
    Submission.batch_congr (by simp) (by simp) c
  rw [hpreview, Except.map, submission_of_batch other draws' c (r := { r with arguments }) hmode,
    submission_of_batch l draws c hmode, hjob]

/-- A command is its template filled in: the exports of the inputs that are not the command for
the container, the options, the image that is resolved, and the last command for the container
that is not empty. Trimming takes nothing away. Inputs under the name of the command are never
exported, all others are, in their order and each as often. A batch job has no file for its
output, and neither the further arguments nor the settings nor chance nor the clock have a part
in its command; an interactive job's output is reported to be in the one file that its command
sends it to. -/
theorem composed (l : Launcher σ) (draws : Draws) (r : Request) (p : Preview)
    (h : (l.preview draws r).1 = .ok p) :
    let exports := String.join ((r.inputs.filter fun a => a.name ≠ "exec_command").map fun a =>
      "export " ++ a.name ++ "=" ++ a.value ++ ";")
    let options := p.job.options.render
    let command := (((r.inputs.filter fun a => a.name = "exec_command" ∧ a.value ≠ "").map
      Assignment.value).getLast?).getD ""
    let verb := if command = "" then "run" else "exec"
    (p.job.inputs.Sublist r.inputs ∧
      (∀ a ∈ p.job.inputs, a.name ≠ "exec_command") ∧
      ∀ a : Assignment, a.name ≠ "exec_command" →
        p.job.inputs.count a = r.inputs.count a) ∧
    ∃ uri, (Image.resolveFrom l.source r.artifact r.image).1 = .ok uri ∧
      match r.order.mode with
      | .batch =>
          p.submission = ⟨.batch,
            "mkdir -p " ++ r.directory ++ ";cd " ++ r.directory ++ ";sbatch --wrap=\"" ++ exports ++
              "srun " ++ options ++ " singularity " ++ verb ++ " " ++ uri ++ " " ++ command ++ "\"",
            none⟩ ∧
          ∀ {τ : Type} (other : Launcher τ) (draws' : Draws) (arguments : List String),
            other.source = l.source →
              (other.preview draws' { r with arguments }).1.map Preview.submission =
                .ok p.submission
      | .interactive =>
          let capture := l.settings.lead ++
            String.ofList (draws.moment.stamp ++ '-' :: draws.captureTag.digits) ++ ".out"
          p.submission = ⟨.interactive,
            exports ++ "srun " ++ options ++ " singularity " ++ verb ++ " " ++
              " ".intercalate r.arguments ++ " " ++ uri ++ " " ++ command ++
              " > " ++ capture ++ " &", some capture⟩ ∧
          ∀ output, Receipt.interpret p.submission.mode p.submission.capture output p.job.options =
            .ok ⟨none, [capture]⟩ := by
  intro exports options command verb
  obtain ⟨-, c, hc, hp⟩ := preview_eq_ok h
  obtain ⟨huri, hexec, hverb⟩ := container_eq_ok hc
  have hcommand : c.exec = command := hexec.trans (Container.commandOf_eq r.inputs)
  have hname : c.verb.name = verb := by
    rw [hverb, hcommand]
    by_cases hempty : command = "" <;> simp [verb, hempty, Verb.name]
  have hjob : p.job = Job.build r l.settings.poll draws.jobTag := job_of_preview h
  have hexports : Assignment.exports (Job.build r l.settings.poll draws.jobTag).inputs =
      exports := by rw [Job.inputs_build]; rfl
  have hoptions : (Job.build r l.settings.poll draws.jobTag).options.render = options := by
    rw [← hjob]
  refine ⟨?_, c.uri, huri, ?_⟩
  · rw [hjob]
    exact Job.exported_build r _ _
  · cases hmode : r.order.mode with
    | batch =>
        have hsubmission := submission_of_batch l draws c hmode
        unfold Submission.batch at hsubmission
        rw [← hp, hexports, Job.directory_build, hname, hcommand,
          ← Job.options_build_of_batch hmode l.settings.poll draws.jobTag, hoptions] at hsubmission
        exact ⟨hsubmission, fun other draws' arguments hsource =>
          submission_congr_of_batch draws' arguments hmode hsource h⟩
    | interactive =>
        have hsubmission := submission_of_interactive l draws c hmode
        rw [← hp, Submission.detached, hexports, Job.arguments_build, hname, hcommand, hoptions]
          at hsubmission
        refine ⟨hsubmission, fun output => ?_⟩
        rw [hsubmission]
        rfl

/-- Of three commands for the container the last is empty and the second is run; what is
exported twice stays so, and the options, the arguments and the file have their places. -/
theorem composed_with_three_commands :
    let l : Launcher (List (Except Refusal String)) := ⟨.ofCatalogue {}, .scripted, .absent, {}⟩
    let draws : Draws := ⟨⟨0⟩, ⟨1500000⟩, ⟨255⟩⟩
    let r : Request := ⟨Operation.run, "dep", "Type", "Job", "tool.img",
      [⟨"exec_command", "ls"⟩, ⟨"A", "1"⟩, ⟨"exec_command", "run all"⟩, ⟨"A", "1"⟩,
        ⟨"exec_command", ""⟩], ["--nv", "-B /data"], "/work",
      ⟨.interactive, { name := some "night", nodes := some 2 }, none⟩⟩
    let file := "slurmexec_00000101-000001.500000-000000ff.out"
    ∃ p, (l.preview draws r).1 = .ok p ∧ p.submission = ⟨.interactive,
      "export A=1;export A=1;srun --job-name=night --nodes=2 singularity exec --nv -B /data " ++
        "tool.img run all > " ++ file ++ " &", some file⟩ := by
  intro l draws r file
  have hrun : Operation.isRun r.operation = true := by decide +kernel
  have hc : (l.container r).1 = .ok ⟨.exec, "run all", "tool.img", "tool.img"⟩ := by
    decide +kernel
  have hp : (l.preview draws r).1 = .ok (l.assemble draws r _) :=
    congrArg Prod.fst (preview_of_built draws hrun hc)
  obtain ⟨-, uri, huri, hsubmission, -⟩ := composed l draws r _ hp
  have himage : (Image.resolveFrom l.source r.artifact r.image).1 = .ok "tool.img" := by
    decide +kernel
  obtain rfl : "tool.img" = uri := Except.ok.inj (himage.symm.trans huri)
  refine ⟨_, hp, hsubmission.trans ?_⟩
  decide +kernel

/-- When no text that options set has a blank in it, the rendered options declare the files
that the options declare. So the files that are reported of a batch job are those that the
options in its command declare, or the scheduler's own when they declare none. -/
theorem declared_as_rendered (o : Options) (h : o.Unspaced) :
    (∀ other : Options, other.extra = [o.render] →
      Outputs.declared o = Outputs.declared other) ∧
    ∀ {σ : Type} (l : Launcher σ) (draws : Draws) (r : Request) (p : Preview),
      r.order.options = o → r.order.mode = .batch → (l.preview draws r).1 = .ok p →
        (∃ rest, p.submission.command =
          "mkdir -p " ++ r.directory ++ ";cd " ++ r.directory ++ ";sbatch --wrap=\"" ++
            Assignment.exports p.job.inputs ++ "srun " ++ o.render ++ " singularity " ++ rest) ∧
        ∀ output id, Acknowledgment.jobId? output = some id →
          Receipt.interpret p.submission.mode p.submission.capture output p.job.options =
            .ok ⟨some id, match Outputs.declared { extra := [o.render] } with
              | [] => ["slurm-" ++ id ++ ".out"]
              | files => files⟩ := by
  refine ⟨fun other hother => (Outputs.declared_of_extra_eq_render h hother).symm, ?_⟩
  rintro σ l draws r p rfl hmode hp
  obtain ⟨-, c, -, rfl⟩ := preview_eq_ok hp
  have hsubmission := submission_of_batch l draws c hmode
  rw [hsubmission]
  constructor
  · exact Submission.exists_batch_eq c _ _
  · intro output id hid
    have hoptions : (l.assemble draws r c).job.options = r.order.options :=
      Job.options_build_of_batch hmode _ _
    have hdeclared : Outputs.declared { extra := [r.order.options.render] } =
        Outputs.declared r.order.options := Outputs.declared_of_extra_eq_render h rfl
    rw [Receipt.interpret_batch_of_some hid, hoptions, hdeclared]
    rfl

/-- Texts that look like flags for an output are not taken for them, and a flag and its file may
stand in different texts. -/
theorem declared_as_rendered_apart :
    let o : Options :=
      { name := some "-o", memory := some "", partition := some "--output=x", nodes := some 2,
        extra := ["", " \t", "--exclusive -o", "a.log -e"] }
    o.Unspaced ∧
      o.render =
        "--job-name=-o --nodes=2 --partition=--output=x  \t --exclusive -o a.log -e" ∧
      Outputs.declared o = Outputs.declared { extra := [o.render] } ∧
      Outputs.declared o = ["a.log"] := by
  intro o
  have hspaces : o.Unspaced := by decide
  obtain ⟨hdeclared, -⟩ := declared_as_rendered o hspaces
  exact ⟨hspaces, by decide, hdeclared { extra := [o.render] } rfl, by decide⟩

end Launcher

end ClusterLaunch
