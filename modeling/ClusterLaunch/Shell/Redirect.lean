import ClusterLaunch.Shell.Expansion

/-!
Redirections: where the channels of a command lead. All words are expanded first;
then the files are opened one after the other, and the first that cannot be opened
keeps the command from being run.
-/

namespace ClusterLaunch.Shell

/-- A redirection once its words are expanded. -/
inductive Lead
  | open (number : Nat) (direction : Direction) (path : List Char)
  | copy (number source : Nat)
  | close (number : Nat)
  | text (number : Nat) (content : List Char)

namespace Lead

open Act

def digit? (text : List Char) : Option Nat :=
  match text with
  | [c] => if Text.isDigit c then some (c.toNat - 48) else none
  | _ => none

def ofRedirection (output : Expansion.Output) (r : Redirection) : Act (List Lead) := do
  match r with
  | .file number direction target =>
      return [.open number direction (← Expansion.text output target)]
  | .duplicate number target =>
      let text ← Expansion.text output target
      let wide ← isWide
      let source? := if wide then Text.readNumeral? 10 text else digit? text
      match text, source? with
      | ['-'], _ => return [.close number]
      | _, some source => return [.copy number source]
      | _, none =>
          if wide then
            if number == 1 then return [.open 1 .write text, .copy 2 1]
            else fail (text ++ octets ": ambiguous redirect") 1
          else fail (octets "Syntax error: Bad fd number")
  | .document number id =>
      let w := ((← process).documents.lookup id).getD []
      return [.text number (Glyph.text (← Expansion.pieces output false Expansion.depth w))]
  | .line number word => return [.text number ((← Expansion.text output word) ++ ['\n'])]

/-- Why a file could not be opened, in the words of the shell. -/
def reason (direction : Direction) (t : Trouble) : List Char :=
  if t.isMissing then
    octets (if direction == .read then "No such file" else "Directory nonexistent")
  else t.text

def failOpen {α : Type} (direction : Direction) (path : List Char) (t : Trouble) : Act α := do
  if ← isWide then
    let message := if t == .exists then octets "cannot overwrite existing file" else t.text
    fail (path ++ octets ": " ++ message) 1
  else
    let verb := if direction == .read then "cannot open " else "cannot create "
    fail (octets verb ++ path ++ octets ": " ++ reason direction t)

/-- Whether a file may not be written over. -/
def isSpared (path : List Char) : Act Bool := do
  let p ← process
  if !p.has "noclobber" then return false
  return match (← storage).find? p.place path with
    | some entry => entry.isRegular
    | none => false

def apply (l : Lead) : Act Unit := do
  match l with
  | .open number direction path =>
      if direction == .write && (← isSpared path) then failOpen direction path .exists
      match ← openPath path direction with
      | .ok index => setChannel number index
      | .error t => failOpen direction path t
  | .copy number source =>
      match (← process).channels.lookup source with
      | some index => setChannel number index
      | none =>
          if ← isWide then fail (numeral source ++ octets ": Bad file descriptor") 1
          else fail (numeral source ++ octets ": Bad file descriptor")
  | .close number => closeChannel number
  | .text number content =>
      let (m, stream) := (← machine).openStream content
      modifyMachine fun _ => m
      setChannel number (← openGoal { goal := .stream stream })

def follow (output : Expansion.Output) (redirections : List Redirection) : Act Unit := do
  let leads ← redirections.mapM (ofRedirection output)
  leads.flatten.forM apply

/-- The same, but a file that cannot be opened ends nothing; gives whether all went well. -/
def tryFollow (output : Expansion.Output) (redirections : List Redirection) : Act Bool := do
  if redirections.isEmpty then return true
  let leads ← redirections.mapM (ofRedirection output)
  try
    leads.flatten.forM apply
    return true
  catch
    | .mistake => return false
    | e => throw e

end Lead

end ClusterLaunch.Shell
