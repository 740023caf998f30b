import ClusterLaunch.CommandLine.Arguments
import ClusterLaunch.CommandLine.World
import ClusterLaunch.Document.Job

/-!
Carrying out a task. A task either prints its result, all at once, or complains
and prints nothing; its trail shows what it did on the way.
-/

namespace ClusterLaunch.CommandLine

variable {σ : Type}

def Complaint.ofStage (context : String) (failure : StageFailure) : Complaint :=
  ⟨context, failure.message :: failure.causes⟩

def adHocName : String := "cli"

/-- The registry that an address on the command line stands for. -/
def originOf : Option String → Image.Origin
  | none => {}
  | some address => ⟨some adHocName, some address⟩

def printed (json : Json) : String :=
  json.pretty ++ "\n"

def previewSummary (p : Preview) : Json :=
  .object [("command", .text p.submission.command), ("image_uri", .text p.container.uri),
    ("mode", .text p.submission.mode.name), ("redirect_file", Json.ofText p.submission.capture)]

def watchSummary (w : Watch) : Json :=
  .object [("deployment_id", .text w.deployment), ("job_id", .text w.jobId),
    ("poll_interval_secs", .number w.poll.seconds.toNat)]

def launchedNotice (w : Watch) : Notice where
  level := .info
  reporter := .program
  fields := [("job_id", .text w.jobId), ("message", .text "Job submitted")]

/-- Says which image a cluster would pull. -/
def resolveImage (image : String) (address : Option String) (state : σ) : Done σ Complaint String :=
  let origin := originOf address
  { answer := match Image.resolve image origin with
      | .ok uri => .ok (uri ++ "\n")
      | .error failure =>
          let context := "Failed to resolve image " ++ Text.quoted image
          .error ⟨context, failure.message :: failure.causes⟩
    state
    trail := Trail.ofNotices (Image.notes image origin) }

def composeCommand (w : World σ) (request : String) (declarations : Option String) (state : σ) :
    Done σ Complaint String :=
  match w.supplies request declarations with
  | .error complaint => ⟨.error complaint, state, []⟩
  | .ok s =>
      let (answer, trail) := (w.launcher s none).preview w.draws s.request
      { answer := match answer with
          | .ok p => .ok (printed (previewSummary p))
          | .error failure => .error (.ofStage "Failed to compose command" failure)
        state
        trail := s.notes declarations ++ trail }

/-- Launches a request. The counters are reported whatever has come of it. -/
def dispatchRequest (w : World σ) (request : String) (declarations destination : Option String)
    (state : σ) : Done σ Complaint String :=
  match w.supplies request declarations with
  | .error complaint => ⟨.error complaint, state, []⟩
  | .ok s =>
      let (done, counters) := (w.launcher s destination).launch w.draws s.request {} state
      let trail := s.notes declarations ++ done.trail ++ Trail.ofNotices counters.report
      match done.answer with
      | .ok watch =>
          ⟨.ok (printed (watchSummary watch)), done.state, trail ++ [.noted (launchedNotice watch)]⟩
      | .error failure => ⟨.error (.ofStage "Dispatch failed" failure), done.state, trail⟩

def Task.carryOut (w : World σ) (task : Task) (state : σ) : Done σ Complaint String :=
  match task with
  | .resolve image address => resolveImage image address state
  | .compose request declarations => composeCommand w request declarations state
  | .dispatch request declarations destination =>
      dispatchRequest w request declarations destination state

end ClusterLaunch.CommandLine
