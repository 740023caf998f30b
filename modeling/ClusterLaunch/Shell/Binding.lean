import ClusterLaunch.Shell.Arithmetic
import ClusterLaunch.Shell.Channel

/-!
Giving values to variables. A variable can be fixed, and then keeps its value; one
that is changed for a while gets its old value back when the command or function
is over for which it was changed.
-/

namespace ClusterLaunch.Shell.Act

def isWide : Act Bool := return (← process).dialect == .wide

/-- Stops because a variable keeps its value. -/
def failFixed {α : Type} (name : List Char) : Act α := do
  if ← isWide then fail (name ++ octets ": readonly variable") 1
  else fail (name ++ octets ": is read only")

def failName {α : Type} (name : List Char) : Act α := do
  if ← isWide then fail ('\x60' :: name ++ octets "': not a valid identifier") 1
  else fail (name ++ octets ": bad variable name")

def wholeText (text : List Char) : Act (List Char) := do
  let p ← process
  let look (name : List Char) : Except Arithmetic.Fault Int :=
    match p.value? name with
    | some value => Arithmetic.valueOf value
    | none => .ok 0
  match Arithmetic.value ⟨p.dialect, look⟩ text with
  | .ok (n, _) => return signed n
  | .error _ => return ['0']

def taken (v : Variable) (text : List Char) : Act (List Char) := do
  let text ← if v.whole then wholeText text else pure text
  return match v.recased with
    | some 'u' => text.map Char.toUpper
    | some _ => text.map Char.toLower
    | none => text

/-- Gives a variable a value, unless it is fixed. -/
def setValue (name : List Char) (value : Value) (exports : Bool := false) : Act Unit := do
  let p ← process
  let old := (p.bound? name).getD {}
  if old.fixed then failFixed name
  let value ← match value with
    | .text text => pure (.text (← taken old text))
    | list => pure list
  -- a text for a list is its first value
  let value := match old.value, value with
    | some (.list keyed items), .text text =>
        .list keyed ((['0'], text) :: items.filter (·.1 != ['0']))
    | _, _ => value
  let exported := old.exported || exports || p.has "allexport"
  let next ← match name == octets "OPTIND", value with
    | true, .text text =>
        match Text.readNumeral? 10 text with
        | some n => pure (max 1 n)
        | none =>
            if p.dialect == .plain then fail (octets "Illegal number: " ++ text)
            pure 1
    | _, _ => pure 1
  modifyProcess fun p =>
    let p := p.setVariable name { old with value := some value, exported }
    if name == octets "OPTIND" then { p with optionIndex := next, optionPlace := none }
    else if name == octets "PATH" then { p with known := [] }
    else p

/-- Gives a variable a text, once it is known that its name can be one. -/
def assign (name text : List Char) (exports : Bool := false) : Act Unit := do
  if !isName name then failName name
  setValue name (.text text) exports

def modifyVariable (name : List Char) (f : Variable → Variable) : Act Unit := do
  if !isName name then failName name
  modifyProcess fun p => p.setVariable name (f ((p.bound? name).getD {}))

def unset (name : List Char) : Act Unit := do
  match (← process).bound? name with
  | none => pure ()
  | some v =>
      if v.fixed then failFixed name
      modifyProcess fun p => { p with bindings := p.bindings.filter (·.1 != name) }

/-- Begins to keep in mind the variables that are changed. -/
def pushSaved : Act Unit :=
  modifyProcess fun p => { p with saved := [] :: p.saved, level := p.level + 1 }

/-- Puts back the variables that were changed since there were so many levels. -/
def popSaved (levels : Nat) : Act Unit :=
  modifyProcess fun p =>
    let undone := p.saved.take (p.level - levels)
    let bindings := undone.flatten.foldl (fun (all : List (List Char × Variable)) (name, old) =>
      match old with
      | some v =>
          if (all.lookup name).isSome then
            all.map fun (n, now) => if n == name then (n, v) else (n, now)
          else all ++ [(name, v)]
      | none => all.filter (·.1 != name)) p.bindings
    let kept := p.keptOptions.takeWhile fun (level, _) => Nat.blt levels level
    { p with
      bindings
      saved := p.saved.drop (p.level - levels)
      level := min p.level levels
      options := ((kept.getLast?).map Prod.snd).getD p.options
      keptOptions := p.keptOptions.drop kept.length }

/-- Keeps the options in mind, so that they are put back with the variables. -/
def saveOptions : Act Unit :=
  modifyProcess fun p => { p with keptOptions := (p.level, p.options) :: p.keptOptions }

/-- Keeps a variable in mind, so that it gets its value back. -/
def save (name : List Char) : Act Unit :=
  modifyProcess fun p => match p.saved with
    | [] => p
    | level :: levels =>
        if level.any (·.1 == name) then p
        else { p with saved := ((name, p.bound? name) :: level) :: levels }

/-- The list that a variable is; a text is a list of one. -/
def itemsOf (v : Option Variable) : List (List Char × List Char) :=
  match v.bind Variable.value with
  | some (.list _ items) => items
  | some (.text text) => [(['0'], text)]
  | none => []

/-- Whether the indices of a list come in this order: numbers by their size. -/
def indexPrecedes (a b : List Char × List Char) : Bool :=
  match Text.readNumeral? 10 a.1, Text.readNumeral? 10 b.1 with
  | some m, some n => Nat.ble m n
  | _, _ => true

def setItem (name index text : List Char) : Act Unit := do
  let v := ((← process).bound? name).getD {}
  if v.fixed then failFixed name
  let keyed := match v.value with
    | some (.list keyed _) => keyed
    | _ => false
  let text ← taken v text
  let items := itemsOf (some v)
  let items := if items.any (·.1 == index) then
      items.map fun (i, old) => if i == index then (i, text) else (i, old)
    else items ++ [(index, text)]
  let items := if keyed then items else items.mergeSort indexPrecedes
  modifyProcess fun p => p.setVariable name { v with value := some (.list keyed items) }

end ClusterLaunch.Shell.Act
