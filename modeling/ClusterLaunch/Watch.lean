import ClusterLaunch.Duration
import ClusterLaunch.Failure
import ClusterLaunch.Text.Blank

/-!
What is handed over to whoever watches a job until it ends. The job has an id,
which is not blank.
-/

namespace ClusterLaunch

structure Watch where
  deployment : String
  jobId : String
  poll : Duration
  deriving DecidableEq, Repr

def Watch.build (deployment jobId : String) (poll : Duration) : Except Failure Watch :=
  if Text.isBlankText jobId.toList then .error .missingJobId
  else .ok ⟨deployment, jobId, poll⟩

end ClusterLaunch
