import ClusterLaunch.Shell.Format
import ClusterLaunch.Shell.Pattern
import ClusterLaunch.Shell.Utility.Lines
import ClusterLaunch.Shell.Utility.Time

/-!
Utilities about files and directories: listing, making, moving and removing them,
and taking paths apart.
-/

namespace ClusterLaunch.Shell.Utility

open Act

def beside (directory name : List Char) : List Char :=
  if directory.getLast? == some '/' then directory ++ name else directory ++ '/' :: name

/-- Carries on with each operand; gives the worst status. -/
def eachOperand (operands : List (List Char)) (act : List Char → Act Nat) : Act Nat :=
  operands.foldlM (fun status operand => do return max status (← act operand)) 0

/-! Modes. -/

def modeText (mode : Nat) : List Char :=
  (List.range 9).map fun i =>
    let bit := 8 - i
    if (mode >>> bit) &&& 1 == 0 then '-' else ['x', 'w', 'r'].getD (bit % 3) '-'

def kindLetter (e : Entry) : Char :=
  match e.node with
  | .directory _ _ => 'd'
  | .link _ => 'l'
  | .device _ => 'c'
  | .own _ => 'p'
  | _ => '-'

/-- A mode changed as letters say, such as `u+x,go-w`. Where no one is named, what the mask
takes away stays as it is. -/
def changedMode? (directory : Bool) (mode : Nat) (text : List Char) (mask : Nat := 0) :
    Option Nat :=
  match Text.readNumeral? 8 text with
  | some n => if n ≤ 0o7777 then some n else none
  | none =>
      (Text.pieces (· == ',') text).foldlM (fun mode clause =>
        let who := clause.takeWhile fun c => "ugoa".toList.contains c
        match clause.drop who.length with
        | sign :: letters =>
            if !(['+', '-', '='] : List Char).contains sign ||
                !(letters.all fun c => "rwxXst".toList.contains c) then none
            else
              let places := if who.isEmpty || who.contains 'a' then ['u', 'g', 'o'] else who
              let bits := letters.foldl (fun bits c => bits ||| (match c with
                | 'r' => 4
                | 'w' => 2
                | 'x' => 1
                | 'X' => if directory || mode &&& 0o111 != 0 then 1 else 0
                | _ => 0)) 0
              some (places.foldl (fun (mode : Nat) place =>
                let shift := if place == 'u' then 6 else if place == 'g' then 3 else 0
                let kept := if who.isEmpty then 0o7777 ^^^ mask else 0o7777
                let changed := (bits <<< shift) &&& kept
                match sign with
                | '+' => mode ||| changed
                | '-' => mode &&& (0o7777 ^^^ changed)
                | _ => (mode &&& (0o7777 ^^^ ((7 <<< shift) &&& kept))) ||| changed) mode)
        | [] => none) mode

def modeShown (mode : Nat) : List Char :=
  Text.padded 8 4 mode ++ octets " (" ++ modeText mode ++ [')']

def entriesBelow (s : Storage) : Nat → List Char → Nat → List (List Char × Nat)
  | 0, path, id => [(path, id)]
  | fuel + 1, path, id =>
      (path, id) :: (s.names id).flatMap fun (name, child) =>
        entriesBelow s fuel (beside path name) child

def chmod : Utility := fun call => do
  -- a mode may begin with the sign of an option
  let isMode (a : List Char) : Bool :=
    a.head? == some '-' && 1 < a.length && (a.drop 1).all fun c => "rwxXst".toList.contains c
  let (modes, others) := call.arguments.partition isMode
  withOptions
    { letters := "Rfvc"
      long := [("recursive", 'R'), ("verbose", 'v'), ("silent", 'f'), ("quiet", 'f'),
        ("changes", 'c')] }
    { call with arguments := others } fun given operands => do
      match modes ++ operands with
      | [] => lacking call
      | [mode] => misused call (octets "missing operand after " ++ quoted mode)
      | mode :: names =>
          if (changedMode? false 0 mode).isNone then
            misused call (octets "invalid mode: " ++ quoted mode)
          else eachOperand names fun name => do
            match ← find name with
            | .error t =>
                if has given 'f' then return 1
                fail call (octets "cannot access " ++ quoted name ++ octets ": " ++ t.text)
            | .ok (id, _) =>
                let s ← storage
                let mask := (← process).mask
                let all := if has given 'R' then entriesBelow s 64 name id else [(name, id)]
                let changed (e : Entry) : Nat :=
                  (changedMode? e.isDirectory e.mode mode mask).getD e.mode
                setStorage (all.foldl (fun s (_, id) => s.modify id fun e =>
                  { e with mode := changed e }) s)
                all.forM fun (path, id) => do
                  match s.at? id with
                  | none => pure ()
                  | some e =>
                      let next := changed e
                      if next != e.mode && (has given 'v' || has given 'c') then
                        print (octets "mode of " ++ quoted path ++ octets " changed from " ++
                          modeShown e.mode ++ octets " to " ++ modeShown next ++ ['\n'])
                      else if has given 'v' then
                        print (octets "mode of " ++ quoted path ++ octets " retained as " ++
                          modeShown next ++ ['\n'])
                return 0

/-! Making and removing. -/

def makeDirectory (path : List Char) (mode : Nat) : Act (Except Trouble Unit) := do
  match ← spot path with
  | .error t => return .error t
  | .ok { entry := some _, .. } => return .error .exists
  | .ok spot =>
      let mode := mode &&& (0o777 ^^^ (← process).mask)
      let _ ← addEntry spot.parent spot.name { node := .directory spot.parent [], mode }
      return .ok ()

def steps (path : List Char) : List (List Char) :=
  let names := (Text.pieces (· == '/') path).filter fun n => !n.isEmpty
  let lead := if path.head? == some '/' then ['/'] else []
  (List.range names.length).map fun i =>
    lead ++ ['/'].intercalate (names.take (i + 1))

def mkdir : Utility := fun call =>
  withOptions
    { letters := "pm:vZ", long := [("parents", 'p'), ("mode", 'm'), ("verbose", 'v')] } call
    fun given names => do
      let wanted := (last? given 'm').map fun text => (text, changedMode? true 0o777 text)
      let mode := (wanted.bind Prod.snd).getD 0o777
      let told (path : List Char) : Act Unit := do
        if has given 'v' then
          print (call.name ++ octets ": created directory " ++ quoted path ++ ['\n'])
      let wrong (path : List Char) (t : Trouble) : Act Nat :=
        fail call (octets "cannot create directory " ++ quoted path ++ octets ": " ++ t.text)
      if names.isEmpty then lacking call
      else if (wanted.map fun (_, mode) => mode.isNone).getD false then
        fail call (octets "invalid mode " ++ quoted ((wanted.map Prod.fst).getD []))
      else eachOperand names fun name => do
        if has given 'p' then
          if name.isEmpty then return ← wrong name .missing
          let way := steps name
          iterate (fun (way : List (List Char)) => do
            match way with
            | [] => return .inr 0
            | step :: rest =>
                match ← find step with
                | .ok (_, entry) =>
                    if entry.isDirectory then return .inl rest
                    return .inr (← wrong (if rest.isEmpty then name else step)
                      (if rest.isEmpty then .exists else .notDirectory))
                | .error t =>
                    if !t.isMissing then return .inr (← wrong step t)
                    match ← makeDirectory step mode with
                    | .ok () => told step; return .inl rest
                    | .error t => return .inr (← wrong step t)) (way.length + 1) way
        else
          match ← makeDirectory name mode with
          | .ok () => told name; return 0
          | .error t => wrong name t

def rmdir : Utility := fun call =>
  withOptions
    { letters := "pvi"
      long := [("parents", 'p'), ("ignore-fail-on-non-empty", 'i'), ("verbose", 'v')] } call
    fun given names => do
      if names.isEmpty then lacking call
      else
        let one (what : String) (name : List Char) : Act (Option Nat) := do
          let wrong (t : Trouble) : Act (Option Nat) := do
            if t == .notEmpty && has given 'i' then return some 0
            return some (← fail call (octets ("failed to remove " ++ what) ++ quoted name ++
              octets ": " ++ t.text))
          if has given 'v' then
            print (call.name ++ octets ": removing directory, " ++ quoted name ++ ['\n'])
          match ← find name false, ← spot name false with
          | .ok (id, entry), .ok spot =>
              if !entry.isDirectory then wrong .notDirectory
              else if !((← storage).names id).isEmpty then wrong .notEmpty
              else
                setStorage ((← storage).unname spot.parent (← clock) spot.name)
                return none
          | .error t, _ | _, .error t => wrong t
        eachOperand names fun name => do
          match ← one "" name with
          | some status => return status
          | none =>
              if !has given 'p' then return 0
              iterate (fun (above : List (List Char)) => do
                match above with
                | [] => return .inr 0
                | path :: rest =>
                    match ← one "directory " path with
                    | none => return .inl rest
                    | some status => return .inr status) (name.length + 1)
                ((steps name).reverse.drop 1)

/-- Asks a question; whether the answer is yes. -/
def agreed (question : List Char) : Act Bool := do
  emit 2 question
  match ← readLine 0 with
  | .ok ('y' :: _) | .ok ('Y' :: _) => return true
  | _ => return false

def kindName (e : Entry) : String :=
  match e.node with
  | .directory _ _ => "directory"
  | .link _ => "symbolic link"
  | .device _ => "character special file"
  | .own _ => "fifo"
  | _ => if e.size == 0 then "regular empty file" else "regular file"

/-- Removes an entry and what is below it; asks first if that is wanted. -/
def removeTree (call : Call) (asks tells : Bool) : Nat → List Char → Spot → Nat → Act Nat
  | 0, _, _, _ => return 1
  | fuel + 1, path, place, id => do
      match (← storage).at? id with
      | none => return 0
      | some e =>
          let names := (← storage).names id
          let asked (what : String) : Act Bool :=
            if asks then agreed (call.name ++ octets (": " ++ what) ++ quoted path ++ octets "? ")
            else pure true
          if e.isDirectory && !names.isEmpty then
            if !(← asked "descend into directory ") then return 0
          let status ← names.foldlM (fun status (name, child) => do
            return max status (← removeTree call asks tells fuel (beside path name)
              ⟨id, name, some child⟩ child)) 0
          if !((← storage).names id).isEmpty then
            if asks && status == 0 then
              return ← fail call (octets "cannot remove " ++ quoted path ++
                octets ": Directory not empty")
            return status
          if !(← asked ("remove " ++ kindName e ++ " ")) then return status
          setStorage ((← storage).unname place.parent (← clock) place.name)
          if tells then
            print (octets (if e.isDirectory then "removed directory " else "removed ") ++
              quoted path ++ ['\n'])
          return status

def rm : Utility := fun call =>
  withOptions
    { letters := "firRdvI"
      long := [("force", 'f'), ("recursive", 'r'), ("dir", 'd'), ("verbose", 'v'),
        ("interactive", 'i')]
      lenient := ["interactive"] } call
    fun given names => do
      let forced := has given 'f'
      let deep := has given 'r' || has given 'R'
      if names.isEmpty && !forced then lacking call
      else eachOperand names fun name => do
        let wrong (t : Trouble) : Act Nat :=
          fail call (octets "cannot remove " ++ quoted name ++ octets ": " ++ t.text)
        let last := baseName name
        match ← find name false, ← spot name false with
        | .ok (id, entry), .ok spot =>
            if entry.isDirectory then
              if !deep && !(has given 'd' && ((← storage).names id).isEmpty) then
                return ← wrong (if has given 'd' then .notEmpty else .isDirectory)
              if last == ['.'] || last == ['.', '.'] then
                return ← fail call
                  (octets "refusing to remove '.' or '..' directory: skipping " ++ quoted name)
              if id == Storage.root then
                return ← fail call (octets ("it is dangerous to operate recursively on '/'\n") ++
                  call.name ++ octets ": use --no-preserve-root to override this failsafe")
            let asks := (given.filter fun (c, _) => c == 'i' || c == 'f').getLast?.map Prod.fst
            removeTree call (asks == some 'i') (has given 'v') 64 name spot id
        | .error t, _ | _, .error t =>
            if forced && t.isMissing then return 0
            wrong t

/-- The second that is written as a year, a month, a day, an hour and a minute in two digits each,
with seconds behind a point; the year may have four digits, or be this one. -/
def stamped? (text : List Char) : Option Nat :=
  let front := text.takeWhile (· != '.')
  let seconds := (text.drop front.length).drop 1
  let digits := if front.length == 8 then octets "2024" ++ front
    else if front.length == 10 then
      (octets (if Nat.ble 69 (Text.digitsValue (front.take 2)) then "19" else "20")) ++ front
    else front
  let part (start count : Nat) : List Char := (digits.drop start).take count
  if digits.length == 12 && digits.all Text.isDigit then
    secondOf? (part 0 4 ++ '-' :: part 4 2 ++ '-' :: part 6 2 ++ ' ' :: part 8 2 ++ ':' ::
      part 10 2 ++ (if seconds.isEmpty then [] else ':' :: seconds))
  else none

def touch : Utility := fun call =>
  withOptions
    { letters := "acmd:t:r:h"
      long := [("no-create", 'c'), ("date", 'd'), ("reference", 'r'), ("time", 'x')] } call
    fun given names => do
      let now ← clock
      let since (second : Option Nat) : Except (List Char) Int := match second with
        | some second => .ok (((second : Int) - clockStart) * 1000)
        | none => .error (octets "invalid date format ")
      let time : Except (List Char) Int ←
        match last? given 'd', last? given 't', last? given 'r' with
        | some text, _, _ =>
            if text == octets "now" then pure (.ok (now : Int))
            else pure ((since (secondOf? text)).mapError (· ++ quoted text))
        | none, some text, _ => pure ((since (stamped? text)).mapError (· ++ quoted text))
        | none, none, some path =>
            match ← find path with
            | .ok (_, entry) => pure (.ok entry.changed)
            | .error t =>
                pure (.error (octets "failed to get attributes of " ++ quoted path ++
                  octets ": " ++ t.text))
        | none, none, none => pure (.ok (now : Int))
      match time with
      | .error reason => fail call reason
      | .ok time =>
      if names.isEmpty then misused call (octets "missing file operand")
      else eachOperand names fun name => do
        let set (id : Nat) : Act Unit :=
          modifyMachine fun m =>
            { m with storage := m.storage.modify id fun e => { e with changed := time } }
        let refused (t : Trouble) : Act Nat :=
          fail call (octets "cannot touch " ++ quoted name ++ octets ": " ++ t.text)
        match ← spot name with
        | .ok { entry := some id, .. } =>
            set id
            return 0
        | .ok _ =>
            if has given 'c' then return 0
            match ← openPath name .append with
            | .ok _ =>
                match ← find name with
                | .ok (id, _) => set id
                | .error _ => pure ()
                return 0
            | .error t => refused t
        | .error t => if has given 'c' && t.isMissing then return 0 else refused t

/-! Moving, copying, linking. -/

/-- The operands as sources and the paths that they go to, or what is wrong. -/
def destinations (call : Call) (given : Given) (operands : List (List Char)) :
    Act (Option (List (List Char × List Char))) := do
  let into (directory : List Char) (sources : List (List Char)) : List (List Char × List Char) :=
    sources.map fun s => (s, beside directory (baseName s))
  match last? given 't', operands with
  | _, [] =>
      let _ ← misused call (octets "missing file operand")
      return none
  | some directory, sources => return some (into directory sources)
  | none, [only] =>
      let _ ← misused call (octets "missing destination file operand after " ++ quoted only)
      return none
  | none, _ =>
      let target := (operands.getLast?).getD []
      let sources := operands.dropLast
      let found ← find target
      match found with
      | .ok (_, entry) =>
          if entry.isDirectory && !has given 'T' then return some (into target sources)
          if 1 < sources.length then
            let _ ← fail call (octets "target " ++ quoted target ++ octets ": Not a directory")
            return none
          return some (sources.map fun s => (s, target))
      | .error _ =>
          if 1 < sources.length then
            let _ ← fail call
              (octets "target " ++ quoted target ++ octets ": No such file or directory")
            return none
          return some (sources.map fun s => (s, target))

def mv : Utility := fun call =>
  withOptions
    { letters := "finut:Tv"
      long := [("force", 'f'), ("no-clobber", 'n'), ("target-directory", 't'), ("verbose", 'v'),
        ("no-target-directory", 'T')] } call fun given operands => do
    match ← destinations call given operands with
    | none => return 1
    | some pairs =>
        pairs.foldlM (fun status (source, target) => do
          match ← find source false, ← spot source false, ← spot target false with
          | .ok (id, entry), .ok start, .ok finish =>
              let s ← storage
              if finish.entry == some id then
                return ← fail call (quoted source ++ octets " and " ++ quoted target ++
                  octets " are the same file")
              let own := s.way id
              let isBelow := (s.way finish.parent).take own.length == own
              if entry.isDirectory && isBelow then
                return ← fail call (octets "cannot move " ++ quoted source ++
                  octets " to a subdirectory of itself, " ++ quoted target)
              if finish.entry.isSome && has given 'n' then return status
              match finish.entry.bind s.at? with
              | some old =>
                  if old.isDirectory && !entry.isDirectory then
                    return ← fail call (octets "cannot overwrite directory " ++ quoted target ++
                      octets " with non-directory")
                  if !old.isDirectory && entry.isDirectory then
                    return ← fail call (octets "cannot overwrite non-directory " ++
                      quoted target ++ octets " with directory " ++ quoted source)
              | none => pure ()
              let now ← clock
              let s := (s.unname start.parent now start.name).name finish.parent now finish.name id
              let s := s.modify id fun e => match e.node with
                | .directory _ names => { e with node := .directory finish.parent names }
                | _ => e
              setStorage s
              if has given 'v' then
                print (octets "renamed " ++ quoted source ++ octets " -> " ++ quoted target ++
                  ['\n'])
              return status
          | .error t, _, _ | _, .error t, _ =>
              fail call (octets "cannot stat " ++ quoted source ++ octets ": " ++ t.text)
          | _, _, .error t =>
              fail call (octets "cannot move " ++ quoted source ++ octets " to " ++ quoted target ++
                octets ": " ++ t.text)) 0

/-- Copies an entry and all below it to a place. -/
def copyTree (s : Storage) (now : Nat) : Nat → Nat → Nat → List Char → Storage
  | 0, _, _, _ => s
  | fuel + 1, id, parent, name =>
      match s.at? id with
      | none => s
      | some e =>
          match e.node with
          | .directory _ names =>
              let (s, copy) := match (s.names parent).lookup name with
                | some old => if s.isDirectory old then (s, old)
                    else s.add parent now name { e with node := .directory parent [] }
                | none => s.add parent now name { e with node := .directory parent [] }
              names.foldl (fun s (child, childId) => copyTree s now fuel childId copy child) s
          | .file content =>
              match (s.names parent).lookup name with
              | some old => s.write old now fun _ => content
              | none => (s.add parent now name { e with version := 0 }).1
          | _ => (s.add parent now name e).1

def cp : Utility := fun call =>
  withOptions
    { letters := "rRapfinut:TvdLPHs"
      long := [("recursive", 'r'), ("archive", 'a'), ("force", 'f'), ("no-clobber", 'n'),
        ("target-directory", 't'), ("verbose", 'v'), ("no-target-directory", 'T'),
        ("preserve", 'p')]
      lenient := ["preserve"] } call fun given operands => do
    match ← destinations call given operands with
    | none => return 1
    | some pairs =>
        let deep := has given 'r' || has given 'R' || has given 'a'
        pairs.foldlM (fun status (source, target) => do
          match ← find source (!deep), ← spot target with
          | .ok (id, entry), .ok finish =>
              let s ← storage
              if entry.isDirectory && !deep then
                return ← fail call (octets "-r not specified; omitting directory " ++ quoted source)
              if finish.entry == some id then
                return ← fail call (quoted source ++ octets " and " ++ quoted target ++
                  octets " are the same file")
              if finish.entry.isSome && has given 'n' then return status
              match finish.entry.bind s.at? with
              | some old =>
                  if old.isDirectory && !entry.isDirectory then
                    return ← fail call (octets "cannot overwrite directory " ++ quoted target ++
                      octets " with non-directory")
                  if !old.isDirectory && entry.isDirectory then
                    return ← fail call (octets "cannot overwrite non-directory " ++
                      quoted target ++ octets " with directory " ++ quoted source)
              | none => pure ()
              let own := s.way id
              if entry.isDirectory && (s.way finish.parent).take own.length == own then
                return ← fail call (octets "cannot copy a directory, " ++ quoted source ++
                  octets ", into itself, " ++ quoted target)
              if has given 'v' then
                let sources := entriesBelow s 64 source id
                let targets := sources.map fun (path, _) => target ++ path.drop source.length
                (sources.zip targets).forM fun ((path, _), copy) =>
                  print (quoted path ++ octets " -> " ++ quoted copy ++ ['\n'])
              match entry.node, finish.entry with
              | .device _, _ | .own _, _ =>
                  -- what a device gives is copied, not the device
                  match ← contents source with
                  | .ok text =>
                      match ← openPath target .write with
                      | .ok index =>
                          setChannel fileChannel index
                          emit fileChannel text
                          return status
                      | .error t => blame call target t; return 1
                  | .error t => blame call source t; return 1
              | .file _, some old =>
                  match (s.at? old).map Entry.node with
                  | some (.device _) | some (.own _) =>
                      match ← contents source, ← openPath target .write with
                      | .ok text, .ok index =>
                          setChannel fileChannel index
                          emit fileChannel text
                          return status
                      | _, _ => return 1
                  | _ =>
                      setStorage (copyTree s (← clock) 64 id finish.parent finish.name)
                      return status
              | _, _ =>
                  setStorage (copyTree s (← clock) 64 id finish.parent finish.name)
                  return status
          | .error t, _ =>
              fail call (octets "cannot stat " ++ quoted source ++ octets ": " ++ t.text)
          | _, .error t =>
              fail call (octets "cannot create regular file " ++ quoted target ++ octets ": " ++
                t.text)) 0

def ln : Utility := fun call =>
  withOptions
    { letters := "sfnvirt:T"
      long := [("symbolic", 's'), ("force", 'f'), ("no-dereference", 'n'), ("verbose", 'v')] } call
    fun given operands => do
      let soft := has given 's'
      let pairs ← match operands with
        | [only] => pure (some [(only, beside ['.'] (baseName only))])
        | _ => destinations call given operands
      match pairs with
      | none => return 1
      | some pairs =>
          let kind := if soft then "symbolic link " else "hard link "
          pairs.foldlM (fun status (source, target) => do
            match ← spot target false with
            | .error t =>
                fail call (octets ("failed to create " ++ kind) ++ quoted target ++ octets ": " ++
                  t.text)
            | .ok finish =>
                if finish.entry.isSome && !has given 'f' then
                  return ← fail call (octets ("failed to create " ++ kind) ++ quoted target ++
                    octets ": File exists")
                let told (sign : String) : Act Unit := do
                  if has given 'v' then
                    print (quoted target ++ octets sign ++ quoted source ++ ['\n'])
                if soft then
                  let _ ← addEntry finish.parent finish.name { node := .link source, mode := 0o777 }
                  told " -> "
                  return status
                match ← find source with
                | .error t =>
                    fail call (octets "failed to access " ++ quoted source ++ octets ": " ++ t.text)
                | .ok (id, entry) =>
                    if entry.isDirectory then
                      fail call (named source ++ octets ": hard link not allowed for directory")
                    else
                      setStorage ((← storage).name finish.parent (← clock) finish.name id)
                      told " => "
                      return status) 0

/-- Gives a file another name. -/
def link : Utility := fun call =>
  withOptions { letters := "" } call fun _ operands => do
    match operands with
    | [] => lacking call
    | [only] => misused call (octets "missing operand after " ++ quoted only)
    | [source, target] =>
        let refused (t : Trouble) : Act Nat :=
          fail call (octets "cannot create link " ++ quoted target ++ octets " to " ++
            quoted source ++ octets ": " ++ t.text)
        match ← find source false, ← spot target false with
        | .ok (id, entry), .ok finish =>
            if entry.isDirectory then refused .notPermitted
            else if finish.entry.isSome then refused .exists
            else
              setStorage ((← storage).name finish.parent (← clock) finish.name id)
              return 0
        | .error t, _ | _, .error t => refused t
    | _ => misused call (octets "extra operand " ++ quoted (operands.getD 2 []))

/-- Takes a name from a file. -/
def unlink : Utility := fun call =>
  withOptions { letters := "" } call fun _ operands => do
    match operands with
    | [] => lacking call
    | [path] =>
        let refused (t : Trouble) : Act Nat :=
          fail call (octets "cannot unlink " ++ quoted path ++ octets ": " ++ t.text)
        match ← find path false, ← spot path false with
        | .ok (_, entry), .ok place =>
            if entry.isDirectory then refused .isDirectory
            else
              setStorage ((← storage).unname place.parent (← clock) place.name)
              return 0
        | .error t, _ | _, .error t => refused t
    | _ => misused call (octets "extra operand " ++ quoted (operands.getD 1 []))

def wantedSize? (text : List Char) (old : Nat) : Option Nat :=
  let (sign, digits) := match text with
    | c :: rest =>
        if ['+', '-', '<', '>', '/', '%'].contains c then (some c, rest) else (none, text)
    | [] => (none, [])
  (multiple? digits).bind fun n =>
    match sign with
    | none => some n
    | some '+' => some (old + n)
    | some '-' => some (old - n)
    | some '<' => some (min old n)
    | some '>' => some (max old n)
    | some '/' => if n == 0 then none else some (old / n * n)
    | some _ => if n == 0 then none else some ((old + n - 1) / n * n)

/-- Makes files so many octets long. -/
def truncate : Utility := fun call =>
  withOptions
    { letters := "cos:r:"
      long := [("no-create", 'c'), ("size", 's'), ("reference", 'r')] } call
    fun given names => do
      let size ← match last? given 's', last? given 'r' with
        | none, none => pure none
        | some text, _ => pure (some (.ok text))
        | none, some path =>
            match ← find path with
            | .ok (_, e) => pure (some (Except.ok (numeral e.size)))
            | .error t => pure (some (Except.error (octets "cannot stat " ++ quoted path ++
                octets ": " ++ t.text)))
      match size with
      | none => misused call (octets "you must specify either '--size' or '--reference'")
      | some (.error reason) => fail call reason
      | some (.ok text) =>
          if (wantedSize? text 0).isNone then
            fail call (octets "Invalid number: " ++ quoted text)
          else if names.isEmpty then misused call (octets "missing file operand")
          else eachOperand names fun name => do
            if has given 'c' && (← find name).toOption.isNone then return 0
            match ← openPath name .append with
            | .error t =>
                fail call
                  (octets "cannot open " ++ quoted name ++ octets " for writing: " ++ t.text)
            | .ok _ =>
                match ← find name with
                | .error _ => return 0
                | .ok (id, _) =>
                    let now ← clock
                    setStorage ((← storage).write id now fun content =>
                      let old := content.text
                      let size := (wantedSize? text old.length).getD 0
                      .ofText (old.take size ++ List.replicate (size - old.length) '\x00'))
                    return 0

def mktemp : Utility := fun call =>
  withOptions
    { letters := "dqtup:"
      long := [("directory", 'd'), ("dry-run", 'u'), ("tmpdir", 'p'), ("suffix", 's')]
      lenient := ["tmpdir"] } call fun given operands => do
    let template := operands.headD (octets "tmp.XXXXXXXXXX")
    let usual := ((← process).value? (octets "TMPDIR")).getD (octets "/tmp")
    let folder := if operands.isEmpty || has given 't' || has given 'p' then
        some (((last? given 'p').filter fun p => !p.isEmpty).getD usual)
      else none
    if (template.filter (· == 'X')).length < 3 then
      fail call (octets "too few X's in template " ++ quoted template)
    else
      let seed := (← machine).chance + 1
      modifyMachine fun m => { m with chance := seed }
      let letters := (chanceOctets template.length (seed * 7919)).map fun c =>
        Char.ofNat (97 + c.toNat % 26)
      let name := (template.zip letters).map fun (c, l) => if c == 'X' then l else c
      let path := match folder with
        | some folder => beside folder name
        | none => name
      if has given 'u' then
        print (path ++ ['\n'])
        return 0
      let made ← if has given 'd' then makeDirectory path 0o700 else do
        match ← openPath path .write with
        | .ok _ => pure (.ok ())
        | .error t => pure (.error t)
      match made with
      | .ok () => print (path ++ ['\n']); return 0
      | .error t =>
          fail call (octets (if has given 'd' then "failed to create directory via template "
            else "failed to create file via template ") ++ quoted template ++ octets ": " ++ t.text)

/-! Paths. -/

def basename : Utility := fun call =>
  withOptions
    { letters := "as:z", long := [("multiple", 'a'), ("suffix", 's'), ("zero", 'z')]
      mixed := false } call fun given names => do
    let several := has given 'a' || has given 's'
    let cut (ending name : List Char) : List Char :=
      if !ending.isEmpty && endsWith name ending && name != ending then
        name.take (name.length - ending.length)
      else name
    let mark := if has given 'z' then ['\x00'] else ['\n']
    match names with
    | [] => lacking call
    | name :: rest =>
        if several then
          print (names.flatMap fun n => cut ((last? given 's').getD []) (baseName n) ++ mark)
          return 0
        else match rest with
          | [] => print (baseName name ++ mark); return 0
          | [ending] => print (cut ending (baseName name) ++ mark); return 0
          | _ :: extra :: _ => misused call (octets "extra operand " ++ quoted extra)

/-- A path without its last name. -/
def directoryName (path : List Char) : List Char :=
  let bare := (path.reverse.dropWhile (· == '/'))
  if bare.isEmpty then (if path.isEmpty then ['.'] else ['/'])
  else
    let way := (bare.dropWhile (· != '/')).dropWhile (· == '/')
    if way.isEmpty then (if bare.contains '/' then ['/'] else ['.']) else way.reverse

def dirname : Utility := fun call =>
  withOptions { letters := "z" } call fun given names => do
    if names.isEmpty then lacking call
    else
      let mark := if has given 'z' then ['\x00'] else ['\n']
      print (names.flatMap fun n => directoryName n ++ mark)
      return 0

/-- How much of a path has to be there. -/
inductive Presence
  | all
  | allButLast
  | nothing

def plainPath (directory : List Char) (names : List (List Char)) : List Char :=
  let steps := names.foldl (fun (way : List (List Char)) name =>
    if name.isEmpty || name == ['.'] then way
    else if name == ['.', '.'] then way.drop 1 else name :: way)
    ((Text.pieces (· == '/') directory).filter fun n => !n.isEmpty).reverse
  if steps.isEmpty then ['/'] else steps.reverse.flatMap ('/' :: ·)

/-- The path of an entry without links. -/
def canonical (s : Storage) (place : Nat) (path : List Char) (presence : Presence) :
    Except Trouble (List Char) :=
  match s.spot true place path, presence with
  | .ok { entry := some id, parent, name }, _ =>
      .ok (if s.isDirectory id then s.pathOf id else beside (s.pathOf parent) name)
  | .ok _, .all => .error .missing
  | .ok { parent, name, .. }, _ => .ok (beside (s.pathOf parent) name)
  | .error t, .nothing =>
      if path.isEmpty then .error t
      else
        -- as much as there is, and then the names
        let names := (Text.pieces (· == '/') path).filter fun n => !n.isEmpty
        let start := if path.head? == some '/' then Storage.root else place
        let (here, rest) := (List.range names.length).foldl
          (fun ((here, rest) : Nat × List (List Char)) i =>
            let way := names.take (i + 1)
            match s.find start (['/'].intercalate way) true with
            | .ok id => if s.isDirectory id then (id, names.drop (i + 1)) else (here, rest)
            | .error _ => (here, rest)) (start, names)
        .ok (plainPath (s.pathOf here) rest)
  | .error t, _ => .error t

def readlink : Utility := fun call =>
  withOptions
    { letters := "femnqsvz"
      long := [("canonicalize", 'f'), ("canonicalize-existing", 'e'),
        ("canonicalize-missing", 'm'), ("no-newline", 'n'), ("verbose", 'v'), ("zero", 'z')] } call
    fun given names => do
    if names.isEmpty then lacking call
    else
      let mark := if has given 'z' then '\x00' else '\n'
      let finish := if has given 'n' && names.length == 1 then [] else [mark]
      eachOperand names fun name => do
        let s ← storage
        let p ← process
        let refused (t : Trouble) : Act Nat := do
          if has given 'v' then blame call name t
          return 1
        if has given 'f' || has given 'e' || has given 'm' then
          let presence := if has given 'm' then Presence.nothing
            else if has given 'e' then .all else .allButLast
          match canonical s p.place name presence with
          | .ok path => print (path ++ finish); return 0
          | .error t => refused t
        else
          match s.find p.place name false with
          | .ok id =>
              match (s.at? id).map Entry.node with
              | some (.link target) => print (target ++ finish); return 0
              | _ => refused .invalid
          | .error t => refused t

def relativePath (directory path : List Char) : List Char :=
  let names (p : List Char) : List (List Char) :=
    (Text.pieces (· == '/') p).filter fun n => !n.isEmpty
  let (base, way) := (names directory, names path)
  let common := ((base.zip way).takeWhile fun (a, b) => a == b).length
  let up := List.replicate (base.length - common) ['.', '.']
  match up ++ way.drop common with
  | [] => ['.']
  | steps => ['/'].intercalate steps

def realpath : Utility := fun call =>
  withOptions
    { letters := "emsqzLPR:B:"
      long := [("canonicalize-existing", 'e'), ("canonicalize-missing", 'm'), ("no-symlinks", 's'),
        ("strip", 's'), ("quiet", 'q'), ("zero", 'z'), ("logical", 'L'), ("physical", 'P'),
        ("relative-to", 'R'), ("relative-base", 'B')] } call fun given names => do
    if names.isEmpty then lacking call
    else
      let s ← storage
      let p ← process
      let presence := if has given 'm' then Presence.nothing
        else if has given 'e' then .all else .allButLast
      let whole (name : List Char) : Except Trouble (List Char) :=
        if has given 's' then
          if name.isEmpty then .error .missing
          else .ok (plainPath (if name.head? == some '/' then [] else p.directory)
            (Text.pieces (· == '/') name))
        else canonical s p.place name presence
      let base := (last? given 'R').or (last? given 'B')
      match base.map fun b => (b, whole b) with
      | some (b, .error t) => blame call b t; return 1
      | base =>
          let directory := base.bind fun (_, r) => r.toOption
          let finish := if has given 'z' then '\x00' else '\n'
          eachOperand names fun name => do
            match whole name with
            | .ok path =>
                let shown := match directory with
                  | none => path
                  | some d =>
                      let inside := path == d || begins path (shown d ++ "/") || d == ['/']
                      if has given 'R' || inside then relativePath d path else path
                print (shown ++ [finish])
                return 0
            | .error t =>
                if !has given 'q' then blame call name t
                return 1

/-! Listing. -/

def listed (s : Storage) (given : Given) (id : Nat) : List (List Char × Nat) :=
  let names := s.names id
  let dots := if has given 'a' then [(['.'], id), (['.', '.'], s.parentOf id)] else []
  let kept := dots ++ names.filter fun (name, _) =>
    has given 'a' || has given 'A' || name.head? != some '.'
  let key (id : Nat) : Int × Nat :=
    match s.at? id with
    | some e => (e.changed, e.size)
    | none => (0, 0)
  let before (a b : List Char × Nat) : Bool :=
    if has given 't' && (key a.2).1 != (key b.2).1 then decide ((key b.2).1 ≤ (key a.2).1)
    else if has given 'S' && (key a.2).2 != (key b.2).2 then Nat.ble (key b.2).2 (key a.2).2
    else !precedes b.1 a.1
  let inOrder := if has given 'U' || has given 'f' then kept else kept.mergeSort before
  if has given 'r' then inOrder.reverse else inOrder

/-- What follows a name that shows its kind. -/
def kindMark (given : Given) (e : Entry) : List Char :=
  if has given 'F' then
    if e.isDirectory then ['/'] else match e.node with
      | .link _ => ['@']
      | .own _ => ['|']
      | _ => if e.isRegular && e.isRunnable then ['*'] else []
  else if has given 'p' && e.isDirectory then ['/'] else []

/-- How many columns fit on a line, when they are filled downwards or across. -/
def columnCount (width : Nat) (down : Bool) (lengths : List Nat) : Nat :=
  let count := lengths.length
  let fits (columns : Nat) : Bool :=
    let rows := (count + columns - 1) / columns
    let widths := (lengths.mapIdx fun i n => (i, n)).foldl
      (fun (widths : Array Nat) (i, n) =>
        let column := if down then i / rows else i % columns
        let size := n + if column + 1 == columns then 0 else 2
        widths.modify column (max size)) (Array.replicate columns 3)
    decide (widths.foldl (· + ·) 0 < width)
  let most := min count (max 1 (width / 3))
  ((List.range most).filter fun i => fits (i + 1)).getLast?.elim 1 (· + 1)

/-- Blanks from one column to another, tabs where they reach. -/
def gapBetween : Nat → Nat → Nat → List Char
  | 0, _, _ => []
  | fuel + 1, start, stop =>
      if stop ≤ start then []
      else if (start + 1) / 8 < stop / 8 then
        '\t' :: gapBetween fuel (start + (8 - start % 8)) stop
      else ' ' :: gapBetween fuel (start + 1) stop

def inColumns (width : Nat) (down : Bool) (names : List (List Char)) : List (List Char) :=
  let count := names.length
  let columns := columnCount width down (names.map List.length)
  let rows := (count + columns - 1) / columns
  let cell? (row column : Nat) : Option (List Char) :=
    if down then names[column * rows + row]?
    else if column < columns then names[row * columns + column]? else none
  let widths := (List.range columns).map fun column =>
    ((List.range rows).map fun row =>
      ((cell? row column).map fun n => n.length + 2).getD 0).foldl max 3
  (List.range rows).map fun row =>
    ((List.range columns).foldl (fun ((line, start) : List Char × Nat) column =>
      let size := widths.getD column 3
      match cell? row column, cell? row (column + 1) with
      | some name, some _ =>
          (line ++ name ++ gapBetween (size + 1) (start + name.length) (start + size), start + size)
      | some name, none => (line ++ name, start + size)
      | none, _ => (line, start + size)) ([], 0)).1

/-- Names with commas between them, on lines that are not too wide. -/
def withCommas (width : Nat) (names : List (List Char)) : List (List Char) :=
  match names with
  | [] => []
  | first :: others =>
      let (lines, line) := others.foldl
        (fun ((lines, line) : List (List Char) × List Char) name =>
          if line.length + name.length + 2 < width then (lines, line ++ ',' :: ' ' :: name)
          else ((line ++ [',']) :: lines, name)) ([], first)
      (line :: lines).reverse

/-- A name as it is listed: in double quotes, or with what cannot be printed shown as marks. -/
def listedName (given : Given) (name : List Char) : List Char :=
  let escaped (c : Char) : List Char :=
    match [('\\', "\\\\"), ('\x07', "\\a"), ('\x08', "\\b"), ('\x0c', "\\f"), ('\n', "\\n"),
      ('\r', "\\r"), ('\t', "\\t"), ('\x0b', "\\v")].lookup c with
    | some text => octets text
    | none =>
        if 32 ≤ c.toNat && c.toNat < 127 then [c] else '\\' :: Text.padded 8 3 c.toNat
  if has given 'Q' then
    '"' :: name.flatMap (fun c => if c == '"' then ['\\', '"'] else escaped c) ++ ['"']
  else if has given 'b' then
    name.flatMap fun c => if c == ' ' then ['\\', ' '] else escaped c
  else if has given 'q' then
    name.map fun c => if 32 ≤ c.toNat && c.toNat < 127 then c else '?'
  else name

/-- The lines of names, in the form that is asked for last. -/
def arranged (given : Given) (names : List (List Char)) : List (List Char) :=
  let width := ((last? given 'w').bind natural?).getD 80
  let width := if width == 0 then 1000000 else width
  match (given.filter fun (c, _) => "1mCxlgno".toList.contains c).getLast?.map Prod.fst with
  | some 'm' => withCommas width names
  | some 'C' => inColumns width true names
  | some 'x' => inColumns width false names
  | _ => names

def entryLines (s : Storage) (given : Given) (all : List (List Char × Nat)) : List (List Char) :=
  let rows := all.filterMap fun (name, id) => (s.at? id).map fun e => (name, id, e)
  if has given 'l' || has given 'n' || has given 'g' || has given 'o' then
    let size (e : Entry) : List Char := numeral e.size
    let width := (rows.map fun (_, _, e) => (size e).length).foldl max 1
    let links (e : Entry) : Nat :=
      match e.node with
      | .directory _ names =>
          2 + (names.filter fun (_, child) => s.isDirectory child).length
      | _ => 1
    let linkWidth := (rows.map fun (_, _, e) => (numeral (links e)).length).foldl max 1
    rows.map fun (name, _, e) =>
      let owner := if has given 'n' then "0 0" else "root root"
      let target := match e.node with
        | .link target => octets " -> " ++ target
        | _ => []
      kindLetter e :: modeText e.mode ++ ' ' :: padLeft linkWidth (numeral (links e)) ++
        octets (" " ++ owner ++ " ") ++ padLeft width (size e) ++ octets " Jan  1 00:00 " ++
        listedName given name ++ kindMark given e ++ target
  else arranged given (rows.map fun (name, id, e) =>
    (if has given 'i' then numeral id ++ [' '] else []) ++ listedName given name ++
      kindMark given e)

/-- The parts of a listing: a directory with its entries, and those below it if `deep`. -/
def listingParts (s : Storage) (given : Given) : Nat → List Char → Nat → List (List Char × Nat)
  | 0, _, _ => []
  | fuel + 1, path, id =>
      (path, id) ::
        if has given 'R' then
          (listed s (given.filter fun (c, _) => c != 'a') id).flatMap fun (name, child) =>
            if s.isDirectory child then listingParts s given fuel (beside path name) child else []
        else []

def ls : Utility := fun call =>
  withOptions
    { letters := "aAlFpdrtSR1hiUfngomCxqbQskcuw:I:DGHLNTXBvZ"
      long := [("all", 'a'), ("almost-all", 'A'), ("classify", 'F'), ("directory", 'd'),
        ("recursive", 'R'), ("reverse", 'r'), ("color", 'G'), ("human-readable", 'h'),
        ("inode", 'i'), ("quote-name", 'Q'), ("escape", 'b'), ("hide-control-chars", 'q'),
        ("width", 'w'), ("size", 's'), ("group-directories-first", 'D')]
      lenient := ["color", "classify"]
      status := 2 } call fun given names => do
    let s ← storage
    let p ← process
    let inputs := if names.isEmpty then [['.']] else names
    let (found, status) ← inputs.foldlM
      (fun ((found, status) : List (List Char × Nat) × Nat) name => do
        match s.find p.place name (!(has given 'l' || has given 'd')) with
        | .ok id => return (found ++ [(name, id)], status)
        | .error t =>
            warn call (octets "cannot access " ++ quoted name ++ octets ": " ++ t.text)
            return (found, 2)) ([], 0)
    let found := if has given 'r' then (found.mergeSort fun a b => !precedes b.1 a.1).reverse
      else found.mergeSort fun a b => !precedes b.1 a.1
    let isListed (id : Nat) : Bool := !has given 'd' && s.isDirectory id
    let (directories, plain) := found.partition fun (_, id) => isListed id
    let first := unlines (entryLines s given plain)
    let parts := directories.flatMap fun (name, id) => listingParts s given 64 name id
    let titled := 1 < inputs.length || has given 'R'
    let texts := parts.map fun (path, id) =>
      (if titled then path ++ [':', '\n'] else []) ++
        (if has given 'l' then octets "total 0\n" else []) ++
        unlines (entryLines s given (listed s given id))
    print (['\n'].intercalate ((if first.isEmpty then [] else [first]) ++ texts))
    return status

def stat : Utility := fun call =>
  withOptions
    { letters := "c:LftP:"
      long := [("format", 'c'), ("printf", 'P'), ("dereference", 'L'), ("terse", 't'),
        ("file-system", 'f')] } call fun given names => do
    if names.isEmpty then lacking call
    else eachOperand names fun name => do
      match ← find name (has given 'L') with
      | .error t => fail call (octets "cannot statx " ++ quoted name ++ octets ": " ++ t.text)
      | .ok (id, e) =>
          let kind := match e.node with
            | .directory _ _ => "directory"
            | .link _ => "symbolic link"
            | .device _ => "character special file"
            | .own _ => "fifo"
            | _ => if e.size == 0 then "regular empty file" else "regular file"
          let place (letter : Char) : List Char :=
            match letter with
            | 'n' => name
            | 'N' => quoted name
            | 's' => numeral e.size
            | 'F' => octets kind
            | 'a' => Text.numeral 8 e.mode
            | 'A' => kindLetter e :: modeText e.mode
            | 'U' | 'G' => octets "root"
            | 'u' | 'g' => ['0']
            | 'h' => ['1']
            | 'i' => numeral id
            | 'X' | 'Y' | 'Z' => numeral (clockStart + e.changed / 1000).toNat
            | 'x' | 'y' | 'z' =>
                let millis := (clockStart * 1000 + e.changed).toNat
                shownDate (millis / 1000) (millis % 1000 * 1000000) 30
                  (octets "%Y-%m-%d %H:%M:%S.%N %z")
            | 'w' => ['-']
            | 'W' => ['0']
            | 'B' => octets "512"
            | 'b' => numeral ((e.size + 4095) / 4096 * 8)
            | 'o' => octets "4096"
            | '%' => ['%']
            | _ => ['?']
          let rec fill : List Char → List Char
            | '%' :: c :: rest => place c ++ fill rest
            | c :: rest => c :: fill rest
            | [] => []
          match last? given 'c', last? given 'P' with
          | some format, _ => print (fill format ++ ['\n'])
          | none, some format =>
              let (text, _) := Format.unescaped .wide (format.length + 1) format
              print (fill text)
          | none, none =>
              print (octets "  File: " ++ name ++ octets "\n  Size: " ++ numeral e.size ++
                octets ("\t" ++ kind ++ "\n"))
          return 0

end ClusterLaunch.Shell.Utility
