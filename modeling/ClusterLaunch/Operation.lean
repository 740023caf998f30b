import ClusterLaunch.Text.Lowercase

/-!
The one operation that is carried out. Its name is recognised whatever the case
of its letters `A` to `Z`; no other letters are folded.
-/

namespace ClusterLaunch.Operation

def run : String := "tosca.interfaces.node.lifecycle.runnable.run"

/-- Whether a name is that of the operation. -/
def isRun (name : String) : Bool :=
  Text.equalIgnoringAsciiCase name run

end ClusterLaunch.Operation
