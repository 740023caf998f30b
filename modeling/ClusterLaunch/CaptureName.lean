import ClusterLaunch.Moment
import ClusterLaunch.Tag

/-!
Names of the files that output is captured in. Names made at different moments
sort as the moments do, and names made at the same moment differ by their tags.
-/

namespace ClusterLaunch.CaptureName

def make (lead ending : String) (moment : Moment) (tag : Tag) : String :=
  lead ++ String.ofList (moment.stamp ++ '-' :: tag.digits) ++ ending

def outputEnding : String := ".out"

end ClusterLaunch.CaptureName
