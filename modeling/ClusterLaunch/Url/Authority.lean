import ClusterLaunch.Text.Blank
import ClusterLaunch.Url.Host

/-!
The host and the port that an address names. An address is read as browsers read
it: blanks around it and line breaks inside it do not count, the schemes of the
web need no slashes, and a port that a scheme has anyway is not kept. Names and
passwords in front of the host, and whatever follows the port, have no part in
the authority.
-/

namespace ClusterLaunch.Url

open Text

structure Authority where
  host : Host
  port : Option Nat
  deriving DecidableEq, Repr

def Authority.write (a : Authority) : List Char :=
  a.host.write ++ match a.port with
    | some port => ':' :: numeral 10 port
    | none => []

/-- How a scheme's addresses are read. -/
inductive Scheme
  /-- A scheme of the web, with the port that it has anyway. -/
  | web (port : Nat)
  | file
  | other
  deriving DecidableEq, Repr

namespace Scheme

def web? : List (String × Nat) :=
  [("http", 80), ("https", 443), ("ws", 80), ("wss", 443), ("ftp", 21)]

def ofName (name : String) : Scheme :=
  if name = "file" then .file
  else match web?.lookup name with
    | some port => .web port
    | none => .other

/-- Whether a backslash counts as a slash. -/
def isSpecial : Scheme → Bool
  | .other => false
  | _ => true

def port? : Scheme → Option Nat
  | .web port => some port
  | _ => none

end Scheme

/-- The characters of an address that count. -/
def significant (text : List Char) : List Char :=
  (strip (· ≤ ' ') text).filter fun c => !(c == '\t' || c == '\n' || c == '\r')

def isLetter (c : Char) : Bool :=
  ('a' ≤ c && c ≤ 'z') || ('A' ≤ c && c ≤ 'Z')

/-- The name of a scheme in lower case, and what follows its colon. -/
def scheme? (text : List Char) : Option (String × List Char) := do
  let inName (c : Char) : Bool := isLetter c || isDigit c || c == '+' || c == '-' || c == '.'
  guard ((text.head?.map isLetter).getD false)
  match text.dropWhile inName with
  | ':' :: rest => some (String.ofList ((text.takeWhile inName).map Char.toLower), rest)
  | _ => none

def endsAuthority (special : Bool) (c : Char) : Bool :=
  c == '/' || c == '?' || c == '#' || (special && c == '\\')

/-- What stands before the last `@` of the authority, if there is one, and what
follows it. -/
def credentials (special : Bool) (text : List Char) : Option (List Char) × List Char :=
  let authority := before (endsAuthority special) text
  if authority.contains '@' then
    let host := (authority.reverse.takeWhile (· != '@')).reverse
    let held := authority.take (authority.length - host.length - 1)
    (some held, text.drop (held.length + 1))
  else (none, text)

/-- The characters of a host, up to a colon that is not between brackets. -/
def hostText (special inBrackets : Bool) : List Char → List Char
  | [] => []
  | c :: rest =>
      if endsAuthority special c || (c == ':' && !inBrackets) then []
      else c :: hostText special (c == '[' || (inBrackets && c != ']')) rest

/-- The port that follows a host; one that the scheme has anyway is left out. -/
def port (scheme : Scheme) (text : List Char) : Except Fault (Option Nat) :=
  match text with
  | ':' :: rest =>
      let digits := rest.takeWhile isDigit
      let value := digitsValue digits
      let ends := match rest.dropWhile isDigit with
        | [] => true
        | c :: _ => endsAuthority true c
      if !ends || 65535 < value then .error .invalidPort
      else if digits.isEmpty || scheme.port? == some value then .ok none
      else .ok (some value)
  | _ => .ok none

/-- The authority at the beginning of a text, or none if it names no host. -/
def authority? (scheme : Scheme) (text : List Char) : Except Fault (Option Authority) := do
  let (held, rest) := credentials scheme.isSpecial text
  if held == some [] && (rest.head?.map (endsAuthority scheme.isSpecial)).getD false then
    throw .emptyHost
  let name := hostText scheme.isSpecial false rest
  let after := rest.drop name.length
  if scheme.isSpecial then
    if name.isEmpty then throw .emptyHost
    return some ⟨← Host.ofWeb name, ← port scheme after⟩
  else
    let host ← Host.ofOther name
    if host.isEmpty then
      let hasCredentials := match held with
        | none | some [] | some [':'] => false
        | some _ => true
      if after.head? == some ':' || hasCredentials then throw .emptyHost
      return none
    return some ⟨host, ← port scheme after⟩

/-! Addresses of files. -/

/-- A letter with a colon or a bar names a drive. -/
def isDrive : List Char → Bool
  | [c, mark] => isLetter c && (mark == ':' || mark == '|')
  | _ => false

/-- Whether the first segment of a path names a drive; `depth` segments are in
front of `segments`, and those with one dot or two are resolved. -/
def opensWithDrive (depth : Nat) : List (List Char) → Bool
  | [] => false
  | segment :: rest =>
      let shown := String.ofList (segment.map Char.toLower)
      if [".", "%2e"].contains shown then opensWithDrive depth rest
      else if ["..", ".%2e", "%2e.", "%2e%2e"].contains shown then opensWithDrive (depth - 1) rest
      else (depth == 0 && isDrive segment) || opensWithDrive (depth + 1) rest

/-- The host of a file. This machine has no name, and neither has one on which
the path names a drive. -/
def fileHost? (text : List Char) : Except Fault (Option Authority) := do
  let isSlash (c : Char) : Bool := c == '/' || c == '\\'
  match text with
  | a :: b :: rest =>
      if !(isSlash a && isSlash b) then return none
      let name := before (endsAuthority true) rest
      if name.isEmpty || isDrive name then return none
      let host ← Host.ofWeb name
      let path := before (fun c => c == '?' || c == '#') (rest.drop name.length)
      if host == .domain "localhost".toList then return none
      if opensWithDrive 0 ((pieces isSlash path).drop 1) then return none
      return some ⟨host, none⟩
  | _ => return none

def authority (url : List Char) : Except Fault Authority := do
  let some (name, rest) := scheme? (significant url) | throw .relative
  let found ← match Scheme.ofName name with
    | .file => fileHost? rest
    | .web port => authority? (.web port) (rest.dropWhile fun c => c == '/' || c == '\\')
    | .other =>
        match afterLead? ['/', '/'] rest with
        | some rest => authority? .other rest
        | none => pure none
  match found with
  | some authority => return authority
  | none => throw .noHost

end ClusterLaunch.Url
