import Targeting.Json.Text
import Targeting.Log.Filter

/-!
# Lines of a log

A record is written as text or as JSON, in either case with the span that it is in, if
that shows.
-/

namespace Targeting.Log

def Level.name : Level → String
  | .error => "ERROR"
  | .warn => "WARN"
  | .info => "INFO"
  | .debug => "DEBUG"
  | .trace => "TRACE"

-- ---------------------------------------------------------------------------
-- Text
-- ---------------------------------------------------------------------------

/-- Characters that could steer a terminal are written by their code points. -/
def harmlessChar (c : Char) : String :=
  if c ∈ ['\x07', '\x08', '\x0c', '\x1b', '\x7f'] then
    "\\x" ++ Text.padLeft 2 '0' (Text.hex c.toNat)
  else if '\u0080' ≤ c ∧ c ≤ '\u009f' then "\\u\x7b" ++ Text.hex c.toNat ++ "\x7d"
  else c.toString

def harmless (text : String) : String := String.join (text.toList.map harmlessChar)

def Value.written : Value → String
  | .flag b => if b then "true" else "false"
  | .number n => toString n
  | .text s => Text.quoted s
  | .shown s => s

def Record.line (r : Record) (span : Option Span) : String :=
  let spanText := match span with
    | some s => s.name ++ ": "
    | none => ""
  let fields := r.fields.map fun (name, value) => " " ++ name ++ "=" ++ value.written
  Text.padLeft 5 ' ' r.level.name ++ " " ++ spanText ++ r.target ++ ": " ++ harmless r.message ++
    String.join fields

-- ---------------------------------------------------------------------------
-- JSON
-- ---------------------------------------------------------------------------

def Value.toJson : Value → Json
  | .flag b => .bool b
  | .number n => .integer n
  | .text s | .shown s => .text s

def Span.toJson (span : Span) : Json := .object [("name", .text span.name)]

def Record.toJson (r : Record) (span : Option Span) : Json :=
  let fields := r.fields.map fun (name, value) => (name, value.toJson)
  let spans := match span with
    | some s => [("span", s.toJson), ("spans", .array [s.toJson])]
    | none => []
  .object <|
    [("level", .text r.level.name), ("fields", .object (("message", .text r.message) :: fields)),
      ("target", .text r.target)] ++ spans

-- ---------------------------------------------------------------------------
-- Logs
-- ---------------------------------------------------------------------------

structure Format where
  filter : Filter
  json : Bool

def Format.line? (format : Format) (span : Option Span) (r : Record) : Option String :=
  let shown := span.filter format.filter.shows
  if !format.filter.passes span r then none
  else if format.json then some (r.toJson shown).toText
  else some (r.line shown)

end Targeting.Log
