import Targeting.Command.Usage
import Targeting.Engine
import Targeting.Log.Line
import Targeting.Settings.Load

/-!
# The command

Reads the settings, the table of addresses if there is one, the criteria and the
request, in this order and no further than the first that fails, and prints the
decision on the request. The files are read by a reader that is given, so that a run
is a function of the arguments, the variables and the files.
-/

namespace Targeting.Command

/-- What a run leaves: its exit code, its output, and the messages beside it, each of
one line or more. -/
structure Report where
  code : Nat
  output : String
  messages : List String

-- ---------------------------------------------------------------------------
-- Failures
-- ---------------------------------------------------------------------------

inductive Part where
  | geo | criteria | request

def Part.name : Part → String
  | .geo => "geo table"
  | .criteria => "criteria"
  | .request => "request"

/-- A file that cannot be read, or whose text is not what it should be. -/
inductive Failure where
  | unreadable (part : Part) (path reason : String)
  | invalid (part : Part) (path : String) (reasons : List String)

namespace Failure

def context : Failure → String
  | .unreadable part path _ => "failed to read " ++ part.name ++ " " ++ path
  | .invalid part path _ => "invalid " ++ part.name ++ " " ++ path

def reasons : Failure → List String
  | .unreadable _ _ reason => [reason]
  | .invalid _ _ reasons => reasons

def listed : List String → List String
  | [reason] => ["    " ++ Text.setIn "    " reason]
  | reasons =>
    reasons.mapIdx fun i reason =>
      Text.padLeft 5 ' ' (toString i) ++ ": " ++ Text.setIn "       " reason

def message (f : Failure) : String :=
  String.intercalate "\n" (("Error: " ++ f.context) :: "" :: "Caused by:" :: listed f.reasons)

end Failure

-- ---------------------------------------------------------------------------
-- Reading
-- ---------------------------------------------------------------------------

section

variable {m : Type → Type} [Monad m]

def readText (read : FileReader m) (part : Part) (path : String) : ExceptT Failure m String :=
  ExceptT.mk do
    match ← read path with
    | .error fault => return .error (.unreadable part path fault.message)
    | .ok bytes =>
      match Text.ofBytes? bytes with
      | some text => return .ok text
      | none => return .error (.unreadable part path "stream did not contain valid UTF-8")

def readGeo (read : FileReader m) (path : String) : ExceptT Failure m Geo.Table := do
  let text ← readText read .geo path
  match Geo.Table.ofText text with
  | .ok table => return table
  | .error fault => throw (.invalid .geo path [fault.message text])

def readCriteria (read : FileReader m) (engine : Engine) (path : String) :
    ExceptT Failure m Tree := do
  let text ← readText read .criteria path
  match engine.compileText text with
  | .ok tree => return tree
  | .error error => throw (.invalid .criteria path (error.message :: error.source?.toList))

def readRequest (read : FileReader m) (path : String) : ExceptT Failure m Request := do
  let text ← readText read .request path
  match Request.ofText text with
  | .ok request => return request
  | .error fault => throw (.invalid .request path [fault.message text])

end

-- ---------------------------------------------------------------------------
-- Deciding
-- ---------------------------------------------------------------------------

/-- An engine without rules of its own that detects no devices. -/
def engineOf (settings : Settings) (geo : Option Geo.Table) : Engine :=
  { Engine.initial with settings, geo := geo.map Assoc.get? }

def decisionText (o : Outcome) : String :=
  Json.laidOut
    [("matched", .bool o.matched),
      ("emit_bid", .bool o.state.emitBid),
      ("bucket", match o.state.cache.bucket? with
        | some b => .integer b
        | none => .null),
      ("geo", match o.state.cache.geo? with
        | some g => .text g
        | none => .null)]

def tableLoaded (table : Geo.Table) : Log.Record :=
  ⟨.info, "splitter_eval", "static geoip table loaded", [("entries", .number table.length)]⟩

/-- The log level of the environment counts if it is well formed, then the one of the
settings. -/
def formatOf (settings : Settings) (environment : Assoc String) : Log.Format :=
  let texts := (environment.get? "RUST_LOG").toList ++ [settings.logLevel, "info"]
  ⟨Log.Filter.ofTexts texts, settings.jsonLogs⟩

def evaluate (format : Log.Format) (engine : Engine) (tree : Tree) (request : Request) : Report :=
  let o := engine.evaluate (some tree) request .fresh
  let records := o.effects.filterMap Log.ofEffect?
  ⟨0, decisionText o ++ "\n", records.filterMap (format.line? (some .evaluation))⟩

def Report.ofFailure (f : Failure) : Report := ⟨1, "", [f.message]⟩

def Report.after (messages : List String) (r : Report) : Report :=
  { r with messages := messages ++ r.messages }

section

variable {m : Type → Type} [Monad m]

def decision (read : FileReader m) (format : Log.Format) (engine : Engine) (arguments : Arguments) :
    ExceptT Failure m Report := do
  let tree ← readCriteria read engine arguments.criteria
  let request ← readRequest read arguments.request
  return evaluate format engine tree request

def settled (outcome : Except Failure Report) : Report :=
  match outcome with
  | .ok report => report
  | .error failure => .ofFailure failure

def withGeo (read : FileReader m) (format : Log.Format) (settings : Settings)
    (arguments : Arguments) : m Report := do
  match arguments.geo with
  | none => return settled (← (decision read format (engineOf settings none) arguments).run)
  | some path =>
    match ← (readGeo read path).run with
    | .error failure => return .ofFailure failure
    | .ok table =>
      let report ← (decision read format (engineOf settings (some table)) arguments).run
      return (settled report).after (format.line? none (tableLoaded table)).toList

def withSettings (read : FileReader m) (environment : Assoc String) (arguments : Arguments) :
    m Report := do
  match ← Settings.load read environment arguments.configDir with
  | .ok settings => withGeo read (formatOf settings environment) settings arguments
  | .error fault =>
    let report ← withGeo read (formatOf .initial environment) .initial arguments
    return report.after ["Failed to load config, using defaults: " ++ fault.message]

def run (read : FileReader m) (environment : Assoc String) (arguments : List String) : m Report :=
  match Arguments.parse arguments environment with
  | .ok arguments => withSettings read environment arguments
  | .error .help => return ⟨0, help environment, []⟩
  | .error refusal => return ⟨2, "", [refusal.message]⟩

end

end Targeting.Command
