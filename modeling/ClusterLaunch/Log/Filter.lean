import ClusterLaunch.Log.Directive

/-!
The filter in front of the log. Of the directives that concern a reporter the most
specific one decides; within a span that a directive asks for, everything passes
that is not below the directive's level, whoever reports it.
-/

namespace ClusterLaunch.Log

structure Filter where
  directives : List Directive
  deriving DecidableEq, Repr

namespace Filter

def ofLevel (level : Level) : Filter := ⟨[{ threshold := some level }]⟩

/-- Reads directives with commas between them. Without any, only errors pass. -/
def ofText? (text : String) : Option Filter :=
  let parts := (Text.pieces (· == ',') text.toList).filter fun part => !part.isEmpty
  (parts.mapM Directive.ofText?).map fun directives =>
    if directives.isEmpty then ofLevel .error else ⟨directives⟩

/-- The variables that may hold the directives; the first one that can be read counts. -/
def variableNames : List String := ["SLURMEXEC_LOG", "RUST_LOG"]

def ofVariables (env : String → Option String) (level : Level) : Filter :=
  match variableNames.filterMap fun name => (env name).bind ofText? with
  | chosen :: _ => chosen
  | [] => ofLevel level

/-- No directive lets more pass than this. While the value of a field is asked for,
anything may turn out to pass. -/
def ceiling (f : Filter) : Threshold :=
  if f.directives.any Directive.asksForValue then some .trace
  else Threshold.maximum (f.directives.map Directive.threshold)

/-- What passes that a reporter says, in or out of spans; `fields` are those of a
notice, while a span is not asked for its fields. -/
def general (f : Filter) (path : String) (fields : Option (List (String × Detail))) : Threshold :=
  let fitting := f.directives.filter fun d =>
    d.isGeneral && d.isFor path && (fields.map d.finds).getD true
  let chosen := fitting.foldl (fun best d =>
    match best with
    | none => some d
    | some other => if d.outranks other then some d else best) none
  (chosen.map Directive.threshold).getD none

/-- Spans are about the life cycle of a launch, and of this level. -/
def spanLevel : Level := .info

def spanPath : String := Reporter.lifecycle.path

/-- The directives that no later one takes the place of. -/
def standing : List Directive → List Directive
  | [] => []
  | d :: rest => if rest.any d.isAboutSameSpans then standing rest else d :: standing rest

def within? (f : Filter) (s : Span) : Option Threshold :=
  let asking := (standing f.directives).filter fun d =>
    d.isAboutSpans && d.isFor spanPath && d.finds s.fields &&
      (d.span.map fun name => name == s.name.toList).getD true
  let agreeing := asking.filter fun d => d.agrees s.fields
  if asking.isEmpty then none
  else some (Threshold.maximum (agreeing.map Directive.threshold))

def opens (f : Filter) (s : Span) : Bool :=
  f.ceiling.passes spanLevel &&
    ((f.within? s).isSome || (f.general spanPath none).passes spanLevel)

def passes (f : Filter) (scope : Option Span) (n : Notice) : Bool :=
  f.ceiling.passes n.level &&
    (((scope.bind f.within?).getD none).passes n.level ||
      (f.general n.reporter.path (some n.fields)).passes n.level)

end Filter

end ClusterLaunch.Log
