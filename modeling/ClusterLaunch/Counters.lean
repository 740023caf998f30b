import ClusterLaunch.Trail

/-!
What has become of the requests so far. A request for another operation is
counted as rejected and not as a launch; a launch ends in a submission, counted
by its mode, or in a failure, counted by its stage. Counts have 64 bits and start
again at zero after the last.
-/

namespace ClusterLaunch

structure Counters where
  rejected : UInt64 := 0
  started : UInt64 := 0
  batch : UInt64 := 0
  interactive : UInt64 := 0
  failuresAt : Stage → UInt64 := fun _ => 0

namespace Counters

def recordRejected (c : Counters) : Counters :=
  { c with rejected := c.rejected + 1 }

def recordStarted (c : Counters) : Counters :=
  { c with started := c.started + 1 }

def recordSubmitted (c : Counters) : Mode → Counters
  | .batch => { c with batch := c.batch + 1 }
  | .interactive => { c with interactive := c.interactive + 1 }

def recordFailure (c : Counters) (stage : Stage) : Counters :=
  { c with failuresAt := fun s => if s = stage then c.failuresAt s + 1 else c.failuresAt s }

def submitted (c : Counters) : Mode → UInt64
  | .batch => c.batch
  | .interactive => c.interactive

def failures (c : Counters) : UInt64 :=
  (Stage.all.map c.failuresAt).foldr (· + ·) 0

def summary (c : Counters) : Notice where
  level := .info
  reporter := .counters
  fields := [("metric", .text "dispatch"), ("operations_rejected", .number c.rejected.toNat),
    ("dispatches_started", .number c.started.toNat),
    ("batch_jobs_submitted", .number (c.submitted .batch).toNat),
    ("interactive_jobs_submitted", .number (c.submitted .interactive).toNat),
    ("failures", .number c.failures.toNat)]

def stageNotice (c : Counters) (stage : Stage) : Notice where
  level := .info
  reporter := .counters
  fields := [("metric", .text "dispatch_failures"), ("stage", .text stage.label),
    ("failures", .number (c.failuresAt stage).toNat)]

/-- The report: the summary, and a notice for every stage with failures. -/
def report (c : Counters) : List Notice :=
  c.summary :: (Stage.all.filter fun stage => 0 < c.failuresAt stage).map c.stageNotice

def failureNotice (f : StageFailure) : Notice where
  level := .trace
  reporter := .counters
  fields := [("stage", .text f.stage.label), ("kind", .text f.failure.kind.label),
    ("message", .text "dispatch failure counted")]

end Counters

end ClusterLaunch
