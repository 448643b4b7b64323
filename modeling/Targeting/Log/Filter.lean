import Targeting.Log.Directive
import Targeting.Log.Record

/-!
# Log filters

A filter is made of directives. Of those that concern a record the most specific one
counts: the one with the longest target, then the one with the most fields; of equals
the last. Within a span, the directives for it let more through. A span that no
directive concerns, or that is beyond every directive, does not show.
-/

namespace Targeting.Log

def Level.verbosity : Level → Verbosity
  | .error => 1
  | .warn => 2
  | .info => 3
  | .debug => 4
  | .trace => 5

structure Span where
  name : String
  target : String
  level : Level

def Span.evaluation : Span := ⟨"evaluate", executor, .info⟩

namespace Directive

def isStatic (d : Directive) : Bool := d.span.isNone && d.fields.all (·.value.isNone)

def isDynamic (d : Directive) : Bool := d.span.isSome || !d.fields.isEmpty

def fitsTarget (d : Directive) (target : String) : Bool :=
  d.target.all fun start => start.toList.isPrefixOf target.toList

def names (d : Directive) : List String := d.fields.map (·.name)

def below (a b : Directive) : Bool :=
  let size (d : Directive) := (d.target.map fun t => t.utf8ByteSize + 1).getD 0
  if size a ≠ size b then size a < size b
  else if a.fields.length ≠ b.fields.length then a.fields.length < b.fields.length
  else a.names < b.names

/-- The most specific of the directives, the last one of equals. -/
def best? (directives : List Directive) : Option Directive :=
  directives.foldl
    (fun best d =>
      match best with
      | some other => if d.below other then some other else some d
      | none => some d)
    none

def sameScope (a b : Directive) : Bool :=
  a.target = b.target && a.span = b.span && a.fields = b.fields

/-- Keeps the last of the directives with one scope. -/
def latest : List Directive → List Directive
  | [] => []
  | d :: rest => if rest.any (·.sameScope d) then latest rest else d :: latest rest

def fitsSpan (d : Directive) (span : Span) : Bool :=
  d.fitsTarget span.target && d.span.all (· = span.name) && d.fields.isEmpty

end Directive

structure Filter where
  /-- Concern all records. -/
  static : List Directive
  /-- Concern the records within a span. -/
  dynamic : List Directive
  /-- Nothing beyond this passes. -/
  reach : Verbosity

namespace Filter

def highest (directives : List Directive) : Verbosity :=
  directives.foldl (fun level d => max level d.level) 0

/-- Without any directive errors pass. -/
def ofDirectives (directives : List Directive) : Filter :=
  let (dynamic, static) := directives.partition (·.isDynamic)
  let static := static ++ dynamic.filter (·.isStatic)
  if static.isEmpty && dynamic.isEmpty then
    let errors : Directive := ⟨none, none, [], Level.error.verbosity⟩
    ⟨[errors], [], errors.level⟩
  else
    let valued := dynamic.any fun d => d.fields.any (·.value.isSome)
    ⟨static, Directive.latest dynamic,
      if valued then everything else max (highest static) (highest dynamic)⟩

def ofText? (text : String) : Option Filter := (Directive.listOfText? text).map ofDirectives

def ofTexts : List String → Filter
  | [] => ofDirectives []
  | text :: rest => (ofText? text).getD (ofTexts rest)

def staticLevel (f : Filter) (concerns : Directive → Bool) : Verbosity :=
  ((Directive.best? (f.static.filter concerns)).map (·.level)).getD 0

def shows (f : Filter) (span : Span) : Bool :=
  span.level.verbosity ≤ f.reach &&
    (f.dynamic.any (·.fitsSpan span) ||
      span.level.verbosity ≤ f.staticLevel (·.fitsTarget span.target))

def spanLevel (f : Filter) (span : Span) : Verbosity :=
  if f.shows span then highest (f.dynamic.filter (·.fitsSpan span)) else 0

def concerns (r : Record) (d : Directive) : Bool :=
  d.fitsTarget r.target &&
    d.fields.all fun field => field.name = "message" || (r.fields.lookup field.name).isSome

def passes (f : Filter) (span : Option Span) (r : Record) : Bool :=
  r.level.verbosity ≤ f.staticLevel (concerns r) ||
    span.any fun span => r.level.verbosity ≤ f.spanLevel span

end Filter

end Targeting.Log
