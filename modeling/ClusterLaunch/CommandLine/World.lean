import ClusterLaunch.CommandLine.Complaint
import ClusterLaunch.Files
import ClusterLaunch.Launcher

/-!
What the program has around it: variables, files, and transports to the cluster.
Everything a launch needs is read in a fixed order before anything is sent: the
request, the settings, the declarations.
-/

namespace ClusterLaunch.CommandLine

structure World (σ : Type) where
  environment : String → Option String
  files : Files
  /-- The transport to a destination, or to this machine, with a limit on how long a
  command may take. -/
  transport : (destination : Option String) → (limit : Option Duration) → Transport σ
  draws : Draws

/-- What a launch needs. -/
structure Supplies where
  request : Request
  settings : Settings
  declarations : Declarations

namespace World

variable {σ : Type}

def request (w : World σ) (path : String) : Except Complaint Request :=
  match w.files.text path with
  | .error fault => .error ⟨"Failed to read request " ++ path, [fault.message]⟩
  | .ok text =>
      (Request.ofText text).mapError fun fault => ⟨"Invalid request " ++ path, [fault.message]⟩

def settings (w : World σ) : Except Complaint Settings :=
  (Settings.ofVariables w.environment).mapError fun failure =>
    ⟨"Invalid slurmexec configuration", failure.message :: failure.causes⟩

/-- Reads the declarations in a file; without a file nothing is declared. -/
def declarations (w : World σ) : Option String → Except Complaint Declarations
  | none => .ok {}
  | some path =>
      (w.files.declarations path).mapError fun fault =>
        ⟨"Failed to load repositories from " ++ path, fault.messages⟩

/-- Reads all that a launch needs. -/
def supplies (w : World σ) (request : String) (declarations : Option String) :
    Except Complaint Supplies := do
  let request ← w.request request
  let settings ← w.settings
  let declarations ← w.declarations declarations
  return ⟨request, settings, declarations⟩

def launcher (w : World σ) (s : Supplies) (destination : Option String) : Launcher σ where
  source := .ofCatalogue (.ofDeclarations s.declarations)
  transport := w.transport destination s.settings.timeout
  finder := .queue (.ofSettings s.settings)
  settings := s.settings

end World

def Supplies.notes (s : Supplies) (path : Option String) : Trail :=
  Trail.ofNotices (path.toList.map s.declarations.notice)

end ClusterLaunch.CommandLine
