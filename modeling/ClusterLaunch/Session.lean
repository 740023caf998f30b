import ClusterLaunch.Launcher

/-!
A launcher at work. It is asked for previews, for launches and for reports of its
counters, in any order; the transport and the counters are as the errand before
left them. What came of every errand is kept, with the steps that it took.
-/

namespace ClusterLaunch

/-- What a launcher is asked for. -/
inductive Errand
  | preview (draws : Draws) (request : Request)
  | launch (draws : Draws) (request : Request)
  | flush
  deriving DecidableEq, Repr

/-- What came of an errand. -/
inductive Deed
  | previewed (request : Request) (answer : Except StageFailure Preview) (trail : Trail)
  | launched (request : Request) (answer : Except StageFailure Watch) (trail : Trail)
  | flushed (notices : List Notice)

/-- What is carried from one errand to the next. -/
structure Session (σ : Type) where
  state : σ
  counters : Counters

namespace Session

variable {σ : Type}

def serve (l : Launcher σ) (s : Session σ) : Errand → Session σ × Deed
  | .preview draws r =>
      let (answer, trail) := l.preview draws r
      (s, .previewed r answer trail)
  | .launch draws r =>
      let (done, counters) := l.launch draws r s.counters s.state
      (⟨done.state, counters⟩, .launched r done.answer done.trail)
  | .flush => (s, .flushed s.counters.report)

/-- Does one errand after the other. -/
def run (l : Launcher σ) (s : Session σ) : List Errand → Session σ × List Deed
  | [] => (s, [])
  | errand :: errands =>
      let (next, deed) := s.serve l errand
      let (last, deeds) := run l next errands
      (last, deed :: deeds)

end Session

end ClusterLaunch
