import ClusterLaunch.Proofs.Lines
import ClusterLaunch.Submission

/-!
The parts of a submission. The inputs of a request are parted by their name: one that is the
command for the container is never exported, and of those the last that is not empty is run;
all others are exported, in their order. The command of an interactive job begins and ends
with characters that are not blank, whatever its parts are.
-/

namespace ClusterLaunch

/-- The command that the inputs give is the last under its name that is not empty. -/
theorem Container.commandOf_eq (inputs : List Assignment) :
    commandOf inputs = (((inputs.filter fun a =>
      a.name = Assignment.commandName ∧ a.value ≠ "").map Assignment.value).getLast?).getD "" := by
  have hsame : (fun a : Assignment => decide (a.name = Assignment.commandName ∧ a.value ≠ "")) =
      fun a => decide (a.name = Assignment.commandName) && !a.value.isEmpty := by
    funext a
    by_cases hvalue : a.value = "" <;> simp [hvalue]
  unfold commandOf
  rw [← List.head?_filter, List.filter_reverse, List.head?_reverse, List.getLast?_map, hsame]
  cases (inputs.filter _).getLast? <;> rfl

namespace Job

@[simp] theorem inputs_build (r : Request) (poll : Duration) (tag : Tag) :
    (build r poll tag).inputs = r.inputs.filter fun a => a.name ≠ Assignment.commandName := rfl

@[simp] theorem directory_build (r : Request) (poll : Duration) (tag : Tag) :
    (build r poll tag).directory = r.directory := rfl

@[simp] theorem arguments_build (r : Request) (poll : Duration) (tag : Tag) :
    (build r poll tag).arguments = r.arguments := rfl

/-- The inputs that are exported are those of the request that are not the command for the
container, in their order and each as often. -/
theorem exported_build (r : Request) (poll : Duration) (tag : Tag) :
    (build r poll tag).inputs.Sublist r.inputs ∧
      (∀ a ∈ (build r poll tag).inputs, a.name ≠ Assignment.commandName) ∧
      ∀ a : Assignment, a.name ≠ Assignment.commandName →
        (build r poll tag).inputs.count a = r.inputs.count a := by
  refine ⟨List.filter_sublist, fun a ha => ?_, fun a ha => ?_⟩
  · simpa using (List.mem_filter.mp ha).2
  · exact List.count_filter (by simpa using ha)

end Job

namespace Submission

/-- The parts of an interactive job's command begin with an export or with `srun`. -/
theorem head?_detached (c : Container) (job : Job) (options capture : String) :
    (detached c job options capture).toList.head? = some 'e' ∨
      (detached c job options capture).toList.head? = some 's' := by
  unfold detached Assignment.exports
  cases job.inputs with
  | nil => simp
  | cons input inputs => simp

theorem getLast?_detached (c : Container) (job : Job) (options capture : String) :
    (detached c job options capture).toList.getLast? = some '&' := by
  have hend : " &".toList.getLast? = some '&' := by decide
  unfold detached
  rw [String.toList_append, List.getLast?_append, hend, Option.some_or]

/-- Trimming takes nothing away from the command of an interactive job. -/
theorem interactive_eq_detached (c : Container) (job : Job) (options capture : String) :
    interactive c job options capture = detached c job options capture := by
  have hhead : ∀ d ∈ (detached c job options capture).toList.head?, Text.isBlank d = false := by
    rcases head?_detached c job options capture with hfirst | hfirst
    all_goals
      rw [hfirst]
      rintro d ⟨⟩
      decide
  have hlast : ∀ d ∈ (detached c job options capture).toList.getLast?,
      Text.isBlank d = false := by
    rw [getLast?_detached]
    rintro d ⟨⟩
    decide
  rw [interactive, Text.trimmed, Text.trim, Text.strip_eq_self hhead hlast, String.ofList_toList]

/-- Of a job only its directory and its inputs go into a batch command. -/
theorem batch_congr {job other : Job} (hdirectory : job.directory = other.directory)
    (hinputs : job.inputs = other.inputs) (c : Container) (options : String) :
    batch c job options = batch c other options := by
  unfold batch
  rw [hdirectory, hinputs]

/-- The options of a batch job stand between its exports and what is run. -/
theorem exists_batch_eq (c : Container) (job : Job) (options : String) :
    ∃ rest, batch c job options =
      "mkdir -p " ++ job.directory ++ ";cd " ++ job.directory ++ ";sbatch --wrap=\"" ++
        Assignment.exports job.inputs ++ "srun " ++ options ++ " singularity " ++ rest := by
  refine ⟨c.verb.name ++ " " ++ c.uri ++ " " ++ c.exec ++ "\"", ?_⟩
  unfold batch
  simp only [String.append_assoc]

end Submission

end ClusterLaunch
