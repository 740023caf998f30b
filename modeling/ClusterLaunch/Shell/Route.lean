import ClusterLaunch.Shell.Evaluation
import ClusterLaunch.Transport

/-!
Commands that are run by a program: the shell of the machine itself, or a
connection to another one. The machine is the state that a transport carries from
one command to the next; a command that takes too long is given up, whatever it
has printed by then.
-/

namespace ClusterLaunch.Shell

/-- What programs are started with. -/
structure Surroundings where
  /-- The path of the directory. -/
  directory : List Char
  environment : List (String × String)

/-- The directories that are searched for programs unless a variable says so. -/
def usualPlaces : List String :=
  ["/usr/local/sbin", "/usr/local/bin", "/usr/sbin", "/usr/bin", "/sbin", "/bin"]

namespace Machine

def shells : List String := ["sh", "dash", "bash", "rbash"]

/-- A machine with its programs, its devices, and few files. -/
def usual : Machine :=
  let directory (s : Storage) (path : String) : Storage :=
    (s.ensureWay (Storage.parts (octets path))).1
  let file (s : Storage) (path text : String) : Storage :=
    s.place (octets path) { node := .file (Content.ofText (octets text)) }
  let link (s : Storage) (path target : String) : Storage :=
    s.place (octets path) { node := .link (octets target), mode := 0o777 }
  let node (s : Storage) (path : String) (node : Node) : Storage :=
    s.place (octets path) { node, mode := 0o666 }
  let s := ["/boot", "/dev", "/etc", "/home", "/media", "/mnt", "/opt", "/proc", "/root", "/run",
    "/srv", "/sys", "/tmp", "/usr/bin", "/usr/lib", "/usr/local/bin", "/usr/local/sbin",
    "/usr/sbin", "/usr/share", "/var/tmp", "/dev/fd"].foldl directory Storage.empty
  let s := ["bin", "sbin", "lib"].foldl (fun s name => link s ("/" ++ name) ("usr/" ++ name)) s
  let s := [("null", Device.void), ("zero", .zeros), ("full", .full), ("random", .chance),
    ("urandom", .chance)].foldl (fun s (name, kind) => node s ("/dev/" ++ name) (.device kind)) s
  let s := [("stdin", 0), ("stdout", 1), ("stderr", 2)].foldl
    (fun s (name, number) => node s ("/dev/" ++ name) (.own number)) s
  let s := (List.range 10).foldl
    (fun s number => node s ("/dev/fd/" ++ Text.decimal number) (.own number)) s
  let s := file s "/etc/passwd" "root:x:0:0:root:/root:/bin/bash\n"
  let s := file s "/etc/hostname" "localhost\n"
  let programs := shells ++ installed.map Prod.fst
  let s := programs.foldl (fun s name =>
    s.place (octets ("/usr/bin/" ++ name)) { node := .program name, mode := 0o755 }) s
  { storage := s }

def withFile (m : Machine) (path text : List Char) (runnable : Bool) : Machine :=
  let mode := if runnable then 0o755 else 0o644
  { m with storage := m.storage.place path { node := .file (Content.ofText text), mode } }

def withDirectory (m : Machine) (path : List Char) : Machine :=
  { m with storage := (m.storage.ensureWay (Storage.parts path)).1 }

end Machine

/-- How a program ended, how long that took, and what it wrote. -/
structure Outcome where
  /-- None if it never ends. -/
  ending : Option Ending
  millis : Nat
  output : List Char
  errors : List Char

/-- How deep the calls may go before a program has no room for them. -/
def depth : Nat := 60000

/-- How many steps a program may take before it counts as endless. -/
def steps : Nat := 2500000

/-- How much may be written for whoever started the program. -/
def answerQuota : Nat := 4000000

def Surroundings.places (s : Surroundings) : String :=
  (s.environment.lookup "PATH").getD (":".intercalate usualPlaces)

/-- Starts a program and waits until it has ended and no process in the background
can write for it any more; gives the reason if it cannot be started. -/
def Surroundings.execute (s : Surroundings) (name : String) (arguments : List String)
    (m : Machine) : Except String Outcome × Machine :=
  let m := m.withDirectory s.directory
  let place := match m.storage.find Storage.root s.directory with
    | .ok id => id
    | .error _ => Storage.root
  let m := { m with streams := #[], opened := #[], underway := [], steps }
  let (m, output) := m.openStream [] (some answerQuota)
  let (m, errors) := m.openStream [] (some answerQuota)
  let (m, input) := m.openStream []
  let leading (number stream : Nat) : Opened :=
    { goal := .stream stream, reads := number == 0, writes := number != 0 }
  let (m, inputChannel) := m.openGoal (leading 0 input)
  let (m, outputChannel) := m.openGoal (leading 1 output)
  let (m, errorChannel) := m.openGoal (leading 2 errors)
  let channels := [(2, errorChannel), (1, outputChannel), (0, inputChannel)]
  let (m, id) := m.begin 1
  let p : Process :=
    { id, root := id, name := octets name, channels, place, directory := s.directory
      bindings := s.environment.map fun (name, value) =>
        (octets name, { value := some (.text (octets value)), exported := true }) }
  let words := (name :: arguments).map octets
  if arguments.any fun a => a.contains '\x00' then (.error "nul byte found in provided data", m)
  else match m.storage.search place (octets s.places) (octets name) with
    | .error .denied => (.error "Permission denied (os error 13)", m)
    | .error _ => (.error "No such file or directory (os error 2)", m)
    | .ok path =>
        let start := m.clock
        let program : Act Unit := do
          let t ← Evaluation.execute path words depth
          Act.setStatus (if t.isMissing then 127 else 126)
        let (ended, after) := program.run.run ⟨m, p⟩
        let status := after.process.status % 256
        let ending := match ended with
          | .ok () | .error .leave | .error .mistake => some (Ending.done status)
          | .error (.killed signal) => some (.killed signal)
          | .error _ => none
        let m := after.machine
        let text (stream : Nat) : List Char := m.streamText stream
        let ends := [output, errors].map fun stream =>
          ((m.streams[stream]?).map Stream.ended).getD 0
        let stop := ends.foldl max m.clock
        (.ok ⟨ending, stop - start, text output, text errors⟩, { m with clock := stop })

/-- The way that commands go. -/
inductive Route
  /-- The shell of the machine itself. -/
  | here
  /-- A connection to another machine. -/
  | through (destination : String)
  deriving DecidableEq, Repr

namespace Route

def ofDestination : Option String → Route
  | none => .here
  | some destination => .through destination

def program : Route → String
  | .here => "sh"
  | .through _ => "ssh"

/-- The arguments of the program. A connection asks nothing of anyone. -/
def arguments (command : String) : Route → List String
  | .here => ["-c", command]
  | .through destination => ["-o", "BatchMode=yes", destination, command]

/-- The notice of a command before it is run. -/
def notice (route : Route) (command : String) : Notice where
  level := .debug
  reporter := .transport
  fields := [("program", .text route.program), ("command", .text command),
    ("message", .text "Running command")]

/-- Whether a program was not done in time. Without a limit it always is. -/
def isLate (limit : Option Duration) (o : Outcome) : Bool :=
  match limit, o.ending with
  | none, _ => false
  | some _, none => true
  | some limit, _ => limit.millis ≤ o.millis

def answer (limit : Option Duration) (o : Outcome) : Except Refusal String :=
  if isLate limit o then
    let millis := (limit.map Duration.millis).getD 0
    .error ⟨"command timed out after " ++ Text.decimal millis ++ "ms", ""⟩
  else
    let failed (status : String) : Except Refusal String :=
      .error ⟨"command exited with status " ++ status, shown o.output ++ shown o.errors⟩
    match o.ending with
    | some (.done 0) => .ok (shown o.output)
    | some (.done status) => failed (Text.decimal status)
    | _ => failed "signal"

/-- The transport along a route, with a limit on how long a command may take. -/
def transport (s : Surroundings) (limit : Option Duration) (route : Route) : Transport Machine where
  run command m :=
    match s.execute route.program (route.arguments command) m with
    | (.error reason, m) =>
        (.error ⟨"failed to spawn " ++ route.program ++ ": " ++ reason, ""⟩, m)
    | (.ok outcome, m) => (answer limit outcome, m)
  notes command := [route.notice command]

end Route

end ClusterLaunch.Shell
