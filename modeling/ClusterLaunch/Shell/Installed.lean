import ClusterLaunch.Shell.Utility.Calculation
import ClusterLaunch.Shell.Utility.Columns
import ClusterLaunch.Shell.Utility.Difference
import ClusterLaunch.Shell.Utility.Digest
import ClusterLaunch.Shell.Utility.Editor
import ClusterLaunch.Shell.Utility.Encoding
import ClusterLaunch.Shell.Utility.Fields
import ClusterLaunch.Shell.Utility.Finding
import ClusterLaunch.Shell.Utility.Joining
import ClusterLaunch.Shell.Utility.Lines
import ClusterLaunch.Shell.Utility.Match
import ClusterLaunch.Shell.Utility.Order
import ClusterLaunch.Shell.Utility.Places
import ClusterLaunch.Shell.Utility.Programs
import ClusterLaunch.Shell.Utility.Rows
import ClusterLaunch.Shell.Utility.Time

/-!
The programs that are installed.
-/

namespace ClusterLaunch.Shell

open Utility

def installed : List (String × Utility) :=
  [("cat", cat), ("head", head), ("tail", tail), ("tee", tee), ("yes", yes), ("seq", seq),
   ("wc", wc), ("nl", nl), ("tac", tac), ("rev", rev), ("cut", cut), ("tr", tr), ("paste", paste),
   ("fold", fold), ("expand", expand), ("unexpand", unexpand), ("comm", comm), ("join", join),
   ("uniq", uniq), ("sort", sort),
   ("grep", grep), ("egrep", egrep), ("fgrep", fgrep), ("sed", sed), ("awk", awk), ("mawk", awk),
   ("expr", expr), ("factor", factor),
   ("chmod", chmod), ("mkdir", mkdir), ("rmdir", rmdir), ("rm", rm), ("touch", touch), ("mv", mv),
   ("cp", cp), ("ln", ln), ("mktemp", mktemp), ("link", link), ("unlink", unlink),
   ("truncate", truncate), ("basename", basename), ("dirname", dirname),
   ("readlink", readlink), ("realpath", realpath), ("ls", ls), ("stat", stat), ("find", finder),
   ("base64", base64), ("base32", base32), ("od", od), ("dd", dd), ("md5sum", digests .md5),
   ("sha1sum", digests .sha1), ("sha224sum", digests .sha224), ("sha256sum", digests .sha256),
   ("sha384sum", digests .sha384), ("sha512sum", digests .sha512), ("cksum", cksum), ("cmp", cmp),
   ("diff", diff), ("sleep", sleep), ("timeout", timeout),
   ("date", date), ("env", env), ("printenv", printenv), ("nohup", nohup), ("nice", nice),
   ("setsid", setsid), ("stdbuf", stdbuf), ("which", which), ("xargs", xargs), ("true", success),
   ("false", failure), ("sync", success), ("echo", ofBuiltin Builtin.echo .wide),
   ("printf", ofBuiltin Builtin.printf .plain), ("test", ofBuiltin (Builtin.test false) .plain),
   ("[", ofBuiltin (Builtin.test true) .plain), ("pwd", ofBuiltin Builtin.pwd .plain),
   ("kill", killUtility), ("uname", uname), ("hostname", hostname), ("whoami", whoami),
   ("id", identity), ("groups", groups), ("logname", logname), ("arch", arch),
   ("nproc", nproc), ("tty", tty)]

end ClusterLaunch.Shell
