import ClusterLaunch.Counters
import ClusterLaunch.Image
import ClusterLaunch.Operation
import ClusterLaunch.QueueSearch
import ClusterLaunch.Receipt
import ClusterLaunch.Watch

/-!
Launching what a request asks for. The stages run in a fixed order and end with
the first failure: the operation is checked, the container is built, the command
is sent, once, what it printed is read, an interactive job's id is looked up, and
the watch on the job is handed over. A preview goes as far as the command and
sends nothing.
-/

namespace ClusterLaunch

/-- How the id of an interactive job is found. -/
inductive JobFinder
  | absent
  | fixed (id : String)
  | queue (search : QueueSearch)

/-- What a launch takes from chance and from the clock. -/
structure Draws where
  jobTag : Tag
  moment : Moment
  captureTag : Tag
  deriving DecidableEq, Repr

structure Launcher (σ : Type) where
  source : Source
  transport : Transport σ
  finder : JobFinder
  settings : Settings

/-- Everything that is known before a command is sent. -/
structure Preview where
  job : Job
  container : Container
  submission : Submission
  deriving DecidableEq, Repr

def validate (r : Request) : Except StageFailure Unit :=
  if Operation.isRun r.operation then .ok ()
  else .error ⟨.validateOperation, .unsupportedOperation r.operation⟩

namespace Launcher

variable {σ : Type}

def container (l : Launcher σ) (r : Request) : Except Failure Container × Trail :=
  if r.image.isEmpty then (.error .missingImage, [])
  else match Image.resolveFrom l.source r.artifact r.image with
    | (.error failure, trail) => (.error failure, trail)
    | (.ok uri, trail) => (Container.ofRequest r uri, trail)

/-- What is known once the container is built. -/
def assemble (l : Launcher σ) (draws : Draws) (r : Request) (container : Container) : Preview :=
  let job := Job.build r l.settings.poll draws.jobTag
  ⟨job, container, Submission.compose job.mode container job job.options.render l.settings.lead
    draws.moment draws.captureTag⟩

/-- Puts the command together without sending it. -/
def preview (l : Launcher σ) (draws : Draws) (r : Request) : Except StageFailure Preview × Trail :=
  match validate r with
  | .error failure => (.error failure, [])
  | .ok _ =>
      match l.container r with
      | (.error failure, trail) => (.error ⟨.buildContainer, failure⟩, trail)
      | (.ok container, trail) =>
          let p := l.assemble draws r container
          (.ok p, trail ++ Trail.ofNotices (Submission.notes p.job.inputs))

/-! What a launch reports. -/

def notice (level : Level) (event : String) (r : Request) (fields : List (String × Detail)) :
    Notice :=
  ⟨level, .lifecycle, ("event", .text event) :: ("deployment_id", .text r.deployment) :: fields⟩

def span (r : Request) : Span :=
  ⟨"slurmexec.dispatch",
    [("deployment_id", .text r.deployment), ("node_template", .text r.template)]⟩

def rejectedNotice (r : Request) : Notice :=
  notice .info "dispatch.rejected" r [("operation", .text r.operation)]

def startedNotice (r : Request) : Notice :=
  notice .info "dispatch.started" r
    [("operation", .text r.operation), ("mode", .text r.order.mode.name)]

def commandNotice (r : Request) (s : Submission) : Notice :=
  notice .info "dispatch.command_submitted" r
    [("mode", .text s.mode.name), ("command", .text s.command)]

def jobNotice (r : Request) (w : Watch) (outputs : List String) : Notice :=
  notice .info "dispatch.job_submitted" r
    [("job_id", .text w.jobId), ("outputs", .text (Text.quotedList outputs))]

def failedNotice (r : Request) (f : StageFailure) : Notice :=
  notice .warn "dispatch.failed" r [("stage", .text f.stage.label),
    ("kind", .text f.failure.kind.label), ("error", .text f.message)]

def absentNotice (job : Job) : Notice :=
  ⟨.debug, .launcher,
    [("job_name", .text job.name), ("message", .text "No job ID lookup configured")]⟩

/-! The stages after the command is put together. -/

/-- Finds the id of a job: that of a batch job is in its receipt. -/
def findId (l : Launcher σ) (r : Request) (job : Job) (receipt : Receipt) (state : σ) :
    Done σ StageFailure String :=
  match job.mode with
  | .batch => ⟨.ok (receipt.jobId.getD ""), state, []⟩
  | .interactive =>
      match l.finder with
      | .absent => ⟨.error ⟨.buildWatch, .missingJobId⟩, state, [.noted (absentNotice job)]⟩
      | .fixed id => ⟨.ok id, state, []⟩
      | .queue search =>
          let found := search.find l.transport r.deployment job.name state
          { found with answer := found.answer.mapError fun failure => ⟨.retrieveJobId, failure⟩ }

/-- Hands the job over, once its id is known. -/
def handOver (r : Request) (job : Job) (receipt : Receipt) (id : String) :
    Except StageFailure Watch × Trail :=
  match Watch.build r.deployment id job.poll with
  | .error failure => (.error ⟨.buildWatch, failure⟩, [])
  | .ok watch => (.ok watch, [.noted (jobNotice r watch receipt.outputs)])

def followUp (l : Launcher σ) (r : Request) (p : Preview) (output : String) (state : σ) :
    Done σ StageFailure Watch :=
  match Receipt.interpret p.submission.mode p.submission.capture output p.job.options with
  | .error failure => ⟨.error ⟨.interpretOutput, failure⟩, state, []⟩
  | .ok receipt =>
      let read := Trail.ofNotices receipt.notes
      let found := l.findId r p.job receipt state
      match found.answer with
      | .error failure => ⟨.error failure, found.state, read ++ found.trail⟩
      | .ok id =>
          let (answer, trail) := handOver r p.job receipt id
          ⟨answer, found.state, read ++ found.trail ++ trail⟩

def submit (l : Launcher σ) (r : Request) (p : Preview) (state : σ) : Done σ StageFailure Watch :=
  let command := p.submission.command
  let sent := l.transport.trail command
  match l.transport.run command state with
  | (.error refusal, after) =>
      ⟨.error ⟨.submitCommand, .commandFailed command refusal⟩, after, sent⟩
  | (.ok output, after) =>
      let done := l.followUp r p output after
      { done with trail := sent ++ .noted (commandNotice r p.submission) :: done.trail }

def stages (l : Launcher σ) (draws : Draws) (r : Request) (state : σ) :
    Done σ StageFailure Watch :=
  match l.preview draws r with
  | (.error failure, trail) => ⟨.error failure, state, trail⟩
  | (.ok p, trail) =>
      let done := l.submit r p state
      { done with trail := trail ++ done.trail }

/-- How a launch is counted by its outcome. -/
def tally (c : Counters) (r : Request) : Except StageFailure Watch → Counters
  | .ok _ => c.recordSubmitted r.order.mode
  | .error failure => c.recordFailure failure.stage

def closing (r : Request) : Except StageFailure Watch → Trail
  | .ok _ => []
  | .error failure => [.noted (Counters.failureNotice failure), .noted (failedNotice r failure)]

def launch (l : Launcher σ) (draws : Draws) (r : Request) (counters : Counters) (state : σ) :
    Done σ StageFailure Watch × Counters :=
  match validate r with
  | .error failure =>
      (⟨.error failure, state, [.entered (span r), .noted (rejectedNotice r), .left]⟩,
        counters.recordRejected)
  | .ok _ =>
      let done := l.stages draws r state
      ({ done with
          trail := .entered (span r) :: .noted (startedNotice r) :: done.trail ++
            closing r done.answer ++ [.left] },
        tally counters.recordStarted r done.answer)

end Launcher

end ClusterLaunch
