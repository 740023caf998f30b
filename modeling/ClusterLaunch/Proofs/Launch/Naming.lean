import ClusterLaunch.Proofs.Digits
import ClusterLaunch.Proofs.Launch.Commands
import ClusterLaunch.Proofs.Options

/-!
The name of an interactive job. The scheduler is told it by the options of the command,
and is asked for it by the search of the queue; both take it from the one name of the
job, so a job is never looked up under the name of another.
-/

namespace ClusterLaunch

theorem QueueSearch.command_injective {a b : String} (h : command a = command b) : a = b := by
  unfold command at h
  exact (String.append_right_inj _).mp ((String.append_left_inj _).mp h)

namespace Job

variable {r : Request} {tag other : Tag}

/-- The name that a request asks for. None is as good as an empty one. -/
def asked (r : Request) : String :=
  r.order.options.name.getD ""

theorem nameOf_eq (r : Request) (tag : Tag) :
    nameOf r tag = if asked r = "" then madeName r tag else asked r := by
  unfold nameOf givenName? asked
  cases r.order.options.name with
  | none => rfl
  | some name => by_cases h : name = "" <;> simp [Option.filter, h]

theorem madeName_of_interactive (h : r.order.mode = .interactive) (tag : Tag) :
    madeName r tag = r.deployment ++ "-" ++ r.template ++ "-" ++ String.ofList tag.digits := by
  rw [madeName, h]

/-- Every job has a name. -/
theorem nameOf_ne_empty (r : Request) (tag : Tag) : nameOf r tag ≠ "" := by
  rw [nameOf_eq]
  split
  · cases hmode : r.order.mode <;> simp [madeName, hmode]
  · assumption

/-- Names that are made for the same request are of one length. -/
theorem length_madeName (h : r.order.mode = .interactive) (tag other : Tag) :
    (madeName r tag).length = (madeName r other).length := by
  simp [madeName_of_interactive h, Tag.digits_length]

/-- Names that are made with different tags are different. -/
theorem madeName_injective (hmode : r.order.mode = .interactive)
    (h : madeName r tag = madeName r other) : tag = other := by
  rw [madeName_of_interactive hmode, madeName_of_interactive hmode] at h
  exact Tag.digits_injective (String.ofList_injective ((String.append_right_inj _).mp h))

/-- Nothing in the options of a job but the name differs from what is asked for. -/
theorem options_build (r : Request) (poll : Duration) (tag : Tag) :
    ({ (build r poll tag).options with name := r.order.options.name } : Options) =
      r.order.options := by
  cases h : r.order.mode <;> simp [build, optionsOf, h]

theorem options_build_of_batch (h : r.order.mode = .batch) (poll : Duration) (tag : Tag) :
    (build r poll tag).options = r.order.options := by
  simp [build, optionsOf, h]

theorem name_options_build (h : r.order.mode = .interactive) (poll : Duration) (tag : Tag) :
    (build r poll tag).options.name = some (build r poll tag).name := by
  simp [build, optionsOf, h]

end Job

namespace Submission

/-- The options of an interactive job stand between its exports and what is run. -/
theorem exists_interactive_eq (c : Container) (job : Job) (options capture : String) :
    ∃ tail, interactive c job options capture =
      Assignment.exports job.inputs ++ "srun " ++ options ++ " " ++ tail := by
  have hblank : " singularity " = " " ++ "singularity " := by decide
  refine ⟨"singularity " ++ c.verb.name ++ " " ++ " ".intercalate job.arguments ++ " " ++ c.uri ++
    " " ++ c.exec ++ " > " ++ capture ++ " &", ?_⟩
  simp only [interactive_eq_detached, detached, hblank, String.append_assoc]

/-- The command of a job whose options have its name: the exports, and then the name. -/
theorem exists_interactive_of_name (c : Container) {job : Job} (capture : String)
    (h : job.options.name = some job.name) (hne : job.name ≠ "") :
    ∃ tail, interactive c job job.options.render capture =
      Assignment.exports job.inputs ++ "srun --job-name=" ++ job.name ++ " " ++ tail := by
  have hlead : "srun --job-name=" = "srun " ++ "--job-name=" := by decide
  obtain ⟨tail, htail⟩ := exists_interactive_eq c job job.options.render capture
  rw [htail, Options.render_of_name h hne, hlead]
  split
  · exact ⟨tail, by simp only [String.append_assoc, String.append_empty]⟩
  · exact ⟨({ job.options with name := none } : Options).render ++ " " ++ tail,
      by simp only [String.append_assoc]⟩

/-- Commands with different names of one length are different. -/
theorem name_eq_of_append_eq {lead name other tail rest : String}
    (hlength : name.length = other.length)
    (h : lead ++ name ++ " " ++ tail = lead ++ other ++ " " ++ rest) : name = other := by
  have hlists := congrArg String.toList h
  simp only [String.toList_append, List.append_assoc, List.append_right_inj] at hlists
  have hlengths : name.toList.length = other.toList.length := by
    simpa only [String.length_toList] using hlength
  exact String.toList_inj.mp (List.append_inj_left hlists hlengths)

end Submission

namespace Launcher

variable {σ : Type} {l : Launcher σ} {draws other : Draws} {r : Request}

/-- The job of a preview is the one that is built from the request. -/
theorem job_of_preview {p : Preview} (h : (l.preview draws r).1 = .ok p) :
    p.job = Job.build r l.settings.poll draws.jobTag := by
  obtain ⟨-, c, -, rfl⟩ := preview_eq_ok h
  rfl

/-- The command of an interactive job begins with the exports and the name of the job. -/
theorem exists_command_eq {p : Preview} (hmode : r.order.mode = .interactive)
    (h : (l.preview draws r).1 = .ok p) :
    ∃ tail, p.submission.command =
      Assignment.exports p.job.inputs ++ "srun --job-name=" ++ p.job.name ++ " " ++ tail := by
  obtain ⟨-, c, -, rfl⟩ := preview_eq_ok h
  have hjob : (l.assemble draws r c).job.mode = .interactive := hmode
  have hname := Job.name_options_build hmode l.settings.poll draws.jobTag
  have hcommand := Submission.exists_interactive_of_name c
    (CaptureName.make l.settings.lead CaptureName.outputEnding draws.moment draws.captureTag)
    hname (Job.nameOf_ne_empty r draws.jobTag)
  rw [show (l.assemble draws r c).submission.command = _ from ?_]
  · exact hcommand
  · simp only [assemble] at hjob ⊢
    rw [hjob, Submission.compose]

/-- What a launch sends is the command of its preview, or asks the queue after its job. -/
theorem mem_commands_launch {counters : Counters} {state : σ} {command : String}
    (h : command ∈ (l.launch draws r counters state).1.trail.commands) :
    ∃ p, (l.preview draws r).1 = .ok p ∧
      (command = p.submission.command ∨ command = QueueSearch.command p.job.name) := by
  cases hp : (l.preview draws r).1 with
  | error early =>
      rw [(launch_sends_nothing counters state hp).1] at h
      cases h
  | ok p =>
      obtain ⟨hrun, c, hc, rfl⟩ := preview_eq_ok hp
      obtain ⟨n, hsent, -, -⟩ := launch_sends draws counters state hrun hc
      rw [hsent] at h
      rcases List.mem_cons.mp h with hfirst | hlater
      · exact ⟨_, rfl, .inl hfirst⟩
      · exact ⟨_, rfl, .inr (List.eq_of_mem_replicate hlater)⟩

/-- A submission is never a query of the queue. -/
theorem command_ne_query {p : Preview} (h : (l.preview draws r).1 = .ok p) (name : String) :
    p.submission.command ≠ QueueSearch.command name := by
  obtain ⟨-, c, -, rfl⟩ := preview_eq_ok h
  exact Submission.command_compose_ne _ _ _ _ _ _ _ _

/-- Launches of one request without a name have no command in common if their tags differ. -/
theorem commands_disjoint (counters counters' : Counters) (state state' : σ)
    (hmode : r.order.mode = .interactive) (hasked : Job.asked r = "")
    (htags : draws.jobTag ≠ other.jobTag) :
    (l.launch draws r counters state).1.trail.commands.Disjoint
      (l.launch other r counters' state').1.trail.commands := by
  intro command hfirst hsecond
  obtain ⟨p, hp, hcommand⟩ := mem_commands_launch hfirst
  obtain ⟨p', hp', hcommand'⟩ := mem_commands_launch hsecond
  have hname : p.job.name = Job.madeName r draws.jobTag := by
    rw [job_of_preview hp]
    exact (Job.nameOf_eq r _).trans (if_pos hasked)
  have hname' : p'.job.name = Job.madeName r other.jobTag := by
    rw [job_of_preview hp']
    exact (Job.nameOf_eq r _).trans (if_pos hasked)
  have hne : p.job.name ≠ p'.job.name := by
    rw [hname, hname']
    exact fun heq => htags (Job.madeName_injective hmode heq)
  rcases hcommand with rfl | rfl
  · rcases hcommand' with heq | heq
    · obtain ⟨tail, htail⟩ := exists_command_eq hmode hp
      obtain ⟨tail', htail'⟩ := exists_command_eq hmode hp'
      have hinputs : p.job.inputs = p'.job.inputs := by
        rw [job_of_preview hp, job_of_preview hp']
        rfl
      have hlength : p.job.name.length = p'.job.name.length := by
        rw [hname, hname']
        exact Job.length_madeName hmode _ _
      rw [htail, htail', hinputs] at heq
      exact hne (Submission.name_eq_of_append_eq hlength heq)
    · exact command_ne_query hp _ heq
  · rcases hcommand' with heq | heq
    · exact command_ne_query hp' _ heq.symm
    · exact hne (QueueSearch.command_injective heq)

/-- The name under which an interactive job is submitted is the one under which it is looked
up. It is never empty: it is the name that is asked for, or one made of the deployment, the
node and the eight digits of a tag. It is set in the options and rendered first among them,
the command has it right after the exports, and every query asks for it. Launches of one
request without a name have different names, and no command in common, when their tags are
different. Nothing else in the options differs from what is asked for, and for a batch job
nothing at all. -/
theorem submitted_as_queried (l : Launcher σ) (draws : Draws) (r : Request) (counters : Counters)
    (state : σ) :
    let job := Job.build r l.settings.poll draws.jobTag
    let others := ({ job.options with name := none } : Options).render
    let sent := (l.launch draws r counters state).1.trail.commands
    (∀ p, (l.preview draws r).1 = .ok p → p.job = job) ∧
      ({ job.options with name := r.order.options.name } : Options) = r.order.options ∧
      match r.order.mode with
      | .batch => job.options = r.order.options
      | .interactive =>
          job.name ≠ "" ∧ job.options.name = some job.name ∧
          job.name = (if Job.asked r = "" then
            r.deployment ++ "-" ++ r.template ++ "-" ++ String.ofList draws.jobTag.digits
            else Job.asked r) ∧
          draws.jobTag.digits.length = 8 ∧
          (∀ c ∈ draws.jobTag.digits, c ∈ "0123456789abcdef".toList) ∧
          job.options.render =
            "--job-name=" ++ job.name ++ (if others = "" then "" else " " ++ others) ∧
          (match (l.preview draws r).1 with
          | .error _ => sent = []
          | .ok _ => ∃ tail n, sent =
              (Assignment.exports job.inputs ++ "srun --job-name=" ++ job.name ++ " " ++ tail) ::
                List.replicate n ("squeue --noheader --name=" ++ job.name ++ " -o %A")) ∧
          (∀ (other : Draws) (counters' : Counters) (state' : σ),
            Job.asked r = "" → draws.jobTag ≠ other.jobTag →
              job.name ≠ (Job.build r l.settings.poll other.jobTag).name ∧
              sent.Disjoint (l.launch other r counters' state').1.trail.commands) := by
  intro job others sent
  refine ⟨fun p => job_of_preview, Job.options_build r _ _, ?_⟩
  cases hmode : r.order.mode with
  | batch => exact Job.options_build_of_batch hmode _ _
  | interactive =>
      have hne : job.name ≠ "" := Job.nameOf_ne_empty r draws.jobTag
      have hname : job.options.name = some job.name := Job.name_options_build hmode _ _
      refine ⟨hne, hname, ?_, draws.jobTag.digits_length, fun _ => Tag.mem_digits,
        Options.render_of_name hname hne, ?_, ?_⟩
      · rw [← Job.madeName_of_interactive hmode]
        exact Job.nameOf_eq r draws.jobTag
      · cases hp : (l.preview draws r).1 with
        | error early => exact (launch_sends_nothing counters state hp).1
        | ok p =>
            obtain ⟨tail, htail⟩ := exists_command_eq hmode hp
            obtain ⟨hrun, c, hc, rfl⟩ := preview_eq_ok hp
            obtain ⟨n, hsent, -, -⟩ := launch_sends draws counters state hrun hc
            rw [htail] at hsent
            exact ⟨tail, n, hsent⟩
      · intro other counters' state' hasked htags
        refine ⟨?_, commands_disjoint counters counters' state state' hmode hasked htags⟩
        intro heq
        have hmade : Job.nameOf r draws.jobTag = Job.nameOf r other.jobTag := heq
        rw [Job.nameOf_eq, Job.nameOf_eq, if_pos hasked, if_pos hasked] at hmade
        exact htags (Job.madeName_injective hmode hmade)

end Launcher

end ClusterLaunch
