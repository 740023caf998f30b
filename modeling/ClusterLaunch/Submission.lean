import ClusterLaunch.CaptureName
import ClusterLaunch.Container
import ClusterLaunch.Job
import ClusterLaunch.Text.Blank
import ClusterLaunch.Trail

/-!
The command that submits a job. It is put together from its parts as they are:
nothing in it is quoted or escaped. A batch job is wrapped and handed over from
its directory; an interactive one is detached, with its output in a file.
-/

namespace ClusterLaunch

def Assignment.exports (inputs : List Assignment) : String :=
  String.join (inputs.map fun a => "export " ++ a.name ++ "=" ++ a.value ++ ";")

structure Submission where
  mode : Mode
  command : String
  /-- The file that the output goes to, for an interactive job. -/
  capture : Option String
  deriving DecidableEq, Repr

namespace Submission

/-- What the names of captured outputs begin with, unless the settings say so. -/
def defaultLead : String := "slurmexec_"

/-- The command of a batch job. The further arguments have no place in it. -/
def batch (c : Container) (job : Job) (options : String) : String :=
  "mkdir -p " ++ job.directory ++ ";cd " ++ job.directory ++ ";sbatch --wrap=\"" ++
    Assignment.exports job.inputs ++ "srun " ++ options ++ " singularity " ++ c.verb.name ++ " " ++
    c.uri ++ " " ++ c.exec ++ "\""

/-- The parts of the command of an interactive job, put together. -/
def detached (c : Container) (job : Job) (options capture : String) : String :=
  Assignment.exports job.inputs ++ "srun " ++ options ++ " singularity " ++ c.verb.name ++ " " ++
    " ".intercalate job.arguments ++ " " ++ c.uri ++ " " ++ c.exec ++ " > " ++ capture ++ " &"

/-- The command of an interactive job, trimmed as a whole. -/
def interactive (c : Container) (job : Job) (options capture : String) : String :=
  Text.trimmed (detached c job options capture)

/-- The submission of a job; the moment and the tag go into the name of its output. -/
def compose (mode : Mode) (c : Container) (job : Job) (options lead : String) (moment : Moment)
    (tag : Tag) : Submission :=
  match mode with
  | .batch => ⟨.batch, batch c job options, none⟩
  | .interactive =>
      let capture := CaptureName.make lead CaptureName.outputEnding moment tag
      ⟨.interactive, interactive c job options capture, some capture⟩

def notes (inputs : List Assignment) : List Notice :=
  inputs.map fun a => {
    level := .debug
    reporter := .command
    fields := [("message", .text ("Add env var with key:" ++ Text.quoted a.name ++
      " and value:" ++ Text.quoted a.value))] }

end Submission

end ClusterLaunch
