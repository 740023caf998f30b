import ClusterLaunch.CommandLine.Result
import ClusterLaunch.Log.Line

/-!
The program as a whole: from its arguments and the world around it to the status
that it ends with and to what it writes. Arguments that say nothing to do end it
with the status two, a task that fails with the status one.
-/

namespace ClusterLaunch.CommandLine

def programName : String := "slurmexec"

def versionText : String := programName ++ " 0.3.1\n"

/-- How the program is used. -/
def usage : String :=
  String.join (["Usage: slurmexec [-v] [--json] TASK", "",
    "Tasks:",
    "  resolve-image IMAGE [--repository-url ADDRESS]",
    "  compose -r FILE [--repositories FILE]",
    "  dispatch -r FILE [--repositories FILE] [--ssh DESTINATION]",
    "  help [TASK]", "",
    "Options:",
    "  -v, --verbose  log more",
    "      --json     log lines as JSON",
    "  -h, --help     show this text",
    "  -V, --version  show the version"].map (· ++ "\n"))

/-- The variable that holds the destination of dispatches without one of their own. -/
def destinationVariable : String := "SLURMEXEC_SSH"

def variableNames : List String :=
  [Settings.pollVariable, Settings.leadVariable, Settings.attemptsVariable, Settings.pauseVariable,
   Settings.timeoutVariable, destinationVariable] ++ Log.Filter.variableNames

/-- What a run of the program leaves. -/
structure Run (σ : Type) where
  status : Nat
  /-- The lines of the log, which come before the output, and whether they are JSON. -/
  lines : List Log.Line := []
  json : Bool := false
  output : String := ""
  errors : String := ""
  state : σ

variable {σ : Type}

def Stop.run (stop : Stop) (state : σ) : Run σ :=
  match stop with
  | .misuse => { status := 2, errors := usage, state }
  | .help => { status := 0, output := usage, state }
  | .version => { status := 0, output := versionText, state }

def Invocation.run (w : World σ) (i : Invocation) (state : σ) : Run σ :=
  let done := i.task.carryOut w state
  let filter := Log.Filter.ofVariables w.environment (if i.verbose then .debug else .info)
  let lines := Log.Line.ofTrail filter none done.trail
  match done.answer with
  | .ok output => { status := 0, lines, json := i.json, output, state := done.state }
  | .error complaint =>
      { status := 1, lines, json := i.json, errors := complaint.text, state := done.state }

def Run.text (m : Moment) (r : Run σ) : String :=
  String.join (r.lines.map (Log.Line.write r.json m)) ++ r.output

def run (w : World σ) (arguments : List String) (state : σ) : Run σ :=
  match Invocation.ofArguments (w.environment destinationVariable) arguments with
  | .error stop => stop.run state
  | .ok invocation => invocation.run w state

end ClusterLaunch.CommandLine
