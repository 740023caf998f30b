import ClusterLaunch.Document.Job
import ClusterLaunch.Log.Filter
import ClusterLaunch.Moment

/-!
The lines of the log: the notices of a trail that pass the filter, in order, each
with the span that it is filed under. A span that does not pass leaves its notices
without one.
-/

namespace ClusterLaunch.Log

structure Line where
  level : Level
  fields : List (String × Detail)
  span : Option Span
  deriving DecidableEq, Repr

namespace Line

def ofTrail (f : Filter) : Option Span → Trail → List Line
  | _, [] => []
  | _, .entered span :: rest => ofTrail f (if f.opens span then some span else none) rest
  | _, .left :: rest => ofTrail f none rest
  | scope, .noted notice :: rest =>
      let later := ofTrail f scope rest
      if f.passes scope notice then ⟨notice.level, notice.fields, scope⟩ :: later else later
  | scope, .asked _ :: rest => ofTrail f scope rest
  | scope, .sent _ :: rest => ofTrail f scope rest
  | scope, .paused _ :: rest => ofTrail f scope rest

def spanObject (s : Span) : Json :=
  .object (("name", .text s.name) :: s.fields.map fun (name, detail) => (name, detail.toJson))

def members (l : Line) : List (String × Json) :=
  [("level", .text l.level.name), ("fields", Detail.members l.fields)] ++
    match l.span with
    | none => []
    | some span => [("span", spanObject span), ("spans", .array [spanObject span])]

def plain (l : Line) : String :=
  let shown (fields : List (String × Detail)) : String :=
    " ".intercalate (fields.map fun (name, detail) => match detail with
      | .text value => if name == "message" then value else name ++ "=" ++ value
      | .number value => name ++ "=" ++ Text.decimal value)
  let span := match l.span with
    | none => ""
    | some s => s.name ++ "\x7b" ++ shown s.fields ++ "\x7d: "
  l.level.name ++ " " ++ span ++ shown l.fields

/-- A moment as lines show it: the date, the time of day, and the zone. -/
def clockText (m : Moment) : String :=
  let stamp := m.stamp
  let part (start count : Nat) : List Char := (stamp.drop start).take count
  String.ofList (part 0 4 ++ '-' :: part 4 2 ++ '-' :: part 6 2 ++ 'T' :: part 9 2 ++
    ':' :: part 11 2 ++ ':' :: part 13 9 ++ ['Z'])

def write (json : Bool) (m : Moment) (l : Line) : String :=
  if json then (Json.object (("timestamp", .text (clockText m)) :: l.members)).compress ++ "\n"
  else clockText m ++ " " ++ l.plain ++ "\n"

end Line

end ClusterLaunch.Log
