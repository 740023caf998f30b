import ClusterLaunch.Request
import ClusterLaunch.Text.Blank

/-!
The files that a job's flags send its output to. The flags are read word by word;
a flag may hold its file, after an equals sign or at once, or be followed by it.
-/

namespace ClusterLaunch.Outputs

open Text

def bareFlags : List String := ["-o", "-e", "--output", "--error"]

def joinedFlags : List String := ["--output=", "--error=", "-o", "-e"]

def joined? (word : List Char) : Option (List Char) :=
  (joinedFlags.findSome? fun flag => afterLead? flag.toList word).filter fun file => !file.isEmpty

def ofWords : List (List Char) → List (List Char)
  | [] => []
  | [last] => if bareFlags.any (·.toList == last) then [] else (joined? last).toList
  | word :: next :: rest =>
      if bareFlags.any (·.toList == word) then next :: ofWords rest
      else (joined? word).toList ++ ofWords (next :: rest)

def declared (options : Options) : List String :=
  (ofWords (options.extra.flatMap fun flag => words flag.toList)).map String.ofList

end ClusterLaunch.Outputs
