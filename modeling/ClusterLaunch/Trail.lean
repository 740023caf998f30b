import ClusterLaunch.Duration
import ClusterLaunch.Failure
import ClusterLaunch.Request

/-!
What an activity does, step by step. A trail lists its steps in the order in
which they happen: what was asked of the declarations, which commands were sent,
how long it paused, and what it reported. Every account of an activity, be it the
commands it sent or the lines of its log, is a view of its trail.
-/

namespace ClusterLaunch

/-- How much a report matters, from most to least. -/
inductive Level
  | error
  | warn
  | info
  | debug
  | trace
  deriving DecidableEq, Repr

namespace Level

def all : List Level := [.error, .warn, .info, .debug, .trace]

def name : Level → String
  | .error => "ERROR"
  | .warn => "WARN"
  | .info => "INFO"
  | .debug => "DEBUG"
  | .trace => "TRACE"

/-- How many levels matter more. -/
def depth : Level → Nat
  | .error => 0
  | .warn => 1
  | .info => 2
  | .debug => 3
  | .trace => 4

end Level

/-- The parts that report, each with a path of its own in the log. -/
inductive Reporter
  | catalogue
  | image
  | command
  | transport
  | acknowledgment
  | queue
  | lifecycle
  | launcher
  | counters
  | program
  deriving DecidableEq, Repr

/-- The path by which a filter of the log knows a reporter. -/
def Reporter.path : Reporter → String
  | .catalogue => "deploy_state::static_store"
  | .image => "slurmexec_core::image"
  | .command => "slurmexec_core::command"
  | .transport => "slurmexec_core::transport"
  | .acknowledgment => "slurmexec_core::output"
  | .queue => "slurmexec_core::job_id"
  | .lifecycle => "slurmexec_core::obs"
  | .launcher => "slurmexec_core::dispatch"
  | .counters => "slurmexec_core::metrics"
  | .program => "slurmexec"

/-- A value in a report. -/
inductive Detail
  | text (value : String)
  | number (value : Nat)
  deriving DecidableEq, Repr

structure Notice where
  level : Level
  reporter : Reporter
  fields : List (String × Detail)
  deriving DecidableEq, Repr

/-- A stretch of an activity that the notices in it are filed under. -/
structure Span where
  name : String
  fields : List (String × Detail)
  deriving DecidableEq, Repr

/-- What is asked of the declarations. -/
inductive Query
  | artifact (key : ArtifactKey)
  | registry (deployment name : String)
  deriving DecidableEq, Repr

inductive Step
  | asked (query : Query)
  | sent (command : String)
  | paused (length : Duration)
  | noted (notice : Notice)
  | entered (span : Span)
  | left
  deriving DecidableEq, Repr

namespace Step

@[simp] def command? : Step → Option String
  | .sent command => some command
  | _ => none

@[simp] def query? : Step → Option Query
  | .asked query => some query
  | _ => none

@[simp] def pause? : Step → Option Duration
  | .paused length => some length
  | _ => none

end Step

abbrev Trail := List Step

namespace Trail

/-- The trail of an activity that only reports. -/
def ofNotices (notices : List Notice) : Trail :=
  notices.map .noted

def commands (trail : Trail) : List String :=
  trail.filterMap Step.command?

def queries (trail : Trail) : List Query :=
  trail.filterMap Step.query?

def pauses (trail : Trail) : List Duration :=
  trail.filterMap Step.pause?

/-- The longest pause: thirty years, in milliseconds. -/
def longestPause : Nat := 30 * 365 * 86400000

def elapsed (trail : Trail) : Nat :=
  trail.pauses.foldr (fun length total => min length.millis longestPause + total) 0

/-- The notices that matter at least as much as `level`. -/
def notices (level : Level) (trail : Trail) : List Notice :=
  trail.filterMap fun
    | .noted notice => if notice.level.depth ≤ level.depth then some notice else none
    | _ => none

/-- An entry of the record that is kept of every launch. -/
inductive Entry
  | span (span : Span)
  | notice (notice : Notice)
  deriving DecidableEq, Repr

/-- The record: the spans that were entered and the notices down to `info`. -/
def record (trail : Trail) : List Entry :=
  trail.filterMap fun
    | .entered span => some (.span span)
    | .noted notice => if notice.level.depth ≤ Level.info.depth then some (.notice notice) else none
    | _ => none

@[simp] theorem commands_nil : commands [] = [] := rfl

@[simp] theorem queries_nil : queries [] = [] := rfl

@[simp] theorem pauses_nil : pauses [] = [] := rfl

@[simp] theorem commands_cons (step : Step) (trail : Trail) :
    commands (step :: trail) = step.command?.toList ++ commands trail := by
  cases step <;> rfl

@[simp] theorem queries_cons (step : Step) (trail : Trail) :
    queries (step :: trail) = step.query?.toList ++ queries trail := by
  cases step <;> rfl

@[simp] theorem pauses_cons (step : Step) (trail : Trail) :
    pauses (step :: trail) = step.pause?.toList ++ pauses trail := by
  cases step <;> rfl

@[simp] theorem commands_append (a b : Trail) : commands (a ++ b) = commands a ++ commands b :=
  List.filterMap_append

@[simp] theorem queries_append (a b : Trail) : queries (a ++ b) = queries a ++ queries b :=
  List.filterMap_append

@[simp] theorem pauses_append (a b : Trail) : pauses (a ++ b) = pauses a ++ pauses b :=
  List.filterMap_append

/-- Notices send nothing. -/
@[simp] theorem commands_ofNotices (notices : List Notice) : commands (ofNotices notices) = [] := by
  simp [commands, ofNotices, List.filterMap_eq_nil_iff]

/-- Notices ask nothing. -/
@[simp] theorem queries_ofNotices (notices : List Notice) : queries (ofNotices notices) = [] := by
  simp [queries, ofNotices, List.filterMap_eq_nil_iff]

/-- Notices do not pause. -/
@[simp] theorem pauses_ofNotices (notices : List Notice) : pauses (ofNotices notices) = [] := by
  simp [pauses, ofNotices, List.filterMap_eq_nil_iff]

@[simp] theorem record_append (a b : Trail) : record (a ++ b) = record a ++ record b :=
  List.filterMap_append

@[simp] theorem record_nil : record [] = [] := rfl

@[simp] def recorded? : Step → Option Entry
  | .entered span => some (.span span)
  | .noted notice => if notice.level.depth ≤ Level.info.depth then some (.notice notice) else none
  | _ => none

@[simp] theorem record_cons (step : Step) (trail : Trail) :
    record (step :: trail) = (recorded? step).toList ++ record trail := by
  cases step with
  | noted notice =>
      by_cases h : notice.level.depth ≤ Level.info.depth <;> simp [record, h]
  | _ => rfl

/-- Notices that matter less than `info` leave nothing in the record. -/
theorem record_ofNotices_eq_nil {notices : List Notice}
    (h : ∀ notice ∈ notices, Level.info.depth < notice.level.depth) :
    record (ofNotices notices) = [] := by
  rw [record, ofNotices, List.filterMap_map, List.filterMap_eq_nil_iff]
  intro notice hnotice
  exact if_neg (Nat.not_le_of_lt (h notice hnotice))

end Trail

/-- What an activity leaves: its answer, the state it brought about, and its trail. -/
structure Done (σ ε α : Type) where
  answer : Except ε α
  state : σ
  trail : Trail

end ClusterLaunch
