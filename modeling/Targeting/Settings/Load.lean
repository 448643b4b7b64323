import Targeting.File
import Targeting.Json.Reader
import Targeting.Settings
import Targeting.Settings.KeyPath
import Targeting.Settings.Variables
import Targeting.Text.Utf8
import Targeting.Toml.Document

/-!
# Loading settings

Settings come in layers: `default.toml`, the file of the environment at hand, and the
variables. A later layer counts over an earlier one, setting by setting; without any
the initial settings hold. A file that is not there is looked for with one more ending,
and then may be JSON. Files that cannot be read say nothing.
-/

namespace Targeting.Settings

inductive Fault where
  /-- A file that is not well formed. -/
  | malformed (reason origin : String)
  | kind (found wanted key : String) (origin : Option String)
  | notRecord (found : Item) (title key : String)

def Fault.message : Fault → String
  | .malformed reason origin => reason ++ " in " ++ origin
  | .kind found wanted key origin =>
    "invalid type: " ++ found ++ ", expected " ++ wanted ++ " for key `" ++ key ++ "`" ++
      match origin with
      | some place => " in " ++ place
      | none => ""
  | .notRecord found title key =>
    "invalid type: " ++ found.described ++ ", expected struct " ++ title ++ " for key `" ++ key ++
      "`"

-- ---------------------------------------------------------------------------
-- From items
-- ---------------------------------------------------------------------------

/-- Flags and numbers are texts too. -/
def textOf (key : String) : Item → Except Fault String
  | .leaf _ (.text s) => .ok s
  | .leaf _ (.flag b) => .ok (if b then "true" else "false")
  | .leaf _ (.whole n) => .ok (toString n)
  | .leaf _ (.real x) => .ok (Decimal.plain.write x)
  | item => .error (.kind item.described "a string" key item.origin?)

def flagOfText? (text : String) : Option Bool :=
  if text ∈ ["1", "true", "on", "yes"] then some true
  else if text ∈ ["0", "false", "off", "no"] then some false
  else none

/-- Numbers are flags too, and some words in any case. -/
def flagOf (key : String) : Item → Except Fault Bool
  | .leaf _ (.flag b) => .ok b
  | .leaf _ (.whole n) => .ok (n != 0)
  | .leaf _ (.real x) => .ok (x != 0.0)
  | .leaf origin (.text s) =>
    match flagOfText? (Unicode.lower s) with
    | some b => .ok b
    | none =>
      let seen := Item.leaf origin (.text (Unicode.lower s))
      .error (.kind seen.described "a boolean" key origin)
  | item => .error (.kind item.described "a boolean" key item.origin?)

def setting {α : Type} (decode : String → Item → Except Fault α) (key : String)
    (item : Option Item) (initial : α) : Except Fault α :=
  match item with
  | some item => decode key item
  | none => .ok initial

/-- The log level and whether logs are JSON: named, or a list of the two. -/
def loggingOf (key : String) : Item → Except Fault (String × Bool)
  | .table _ entries => do
    let level ←
      setting textOf (key ++ ".log_level") (Assoc.get? entries "log_level") initial.logLevel
    let json ←
      setting flagOf (key ++ ".json_logs") (Assoc.get? entries "json_logs") initial.jsonLogs
    return (level, json)
  | .list _ items => do
    let level ← setting textOf (key ++ "[0]") items[0]? initial.logLevel
    let json ← setting flagOf (key ++ "[1]") items[1]? initial.jsonLogs
    return (level, json)
  | item => .error (.notRecord item "ObservabilityConfig" key)

def ofTable (table : Assoc Item) : Except Fault Settings := do
  let cookie ← setting textOf "visitor_cookie" (table.get? "visitor_cookie") initial.visitorCookie
  let param ←
    setting textOf "override_ip_param" (table.get? "override_ip_param") initial.overrideParam
  let header ←
    setting textOf "forwarded_for_header" (table.get? "forwarded_for_header")
      initial.forwardedHeader
  let (level, json) ←
    setting loggingOf "observability" (table.get? "observability")
      (initial.logLevel, initial.jsonLogs)
  return ⟨cookie, param, header, level, json⟩

-- ---------------------------------------------------------------------------
-- Layers
-- ---------------------------------------------------------------------------

abbrev Layer := List (String × Item)

def addLayer (root : Item) (layer : Layer) : Item :=
  layer.foldl (fun root (key, item) => item.putAt (Hop.ofKey key) root) root

def ofLayers (layers : List Layer) : Except Fault Settings :=
  ofTable (layers.foldl addLayer (.table none [])).asTable.2

def dropMark : List Nat → List Nat
  | 0xEF :: 0xBB :: 0xBF :: rest => rest
  | bytes => bytes

def Layer.ofToml (origin text : String) : Except Fault Layer :=
  match Toml.ofText? text with
  | some entries => .ok (Item.ofEntries origin entries)
  | none => .error (.malformed "TOML parse error" origin)

def Layer.ofJson (origin text : String) : Except Fault Layer :=
  match Json.ofText text Json.maxDepth with
  | .ok (.object members) => .ok (Item.ofMembers origin members)
  | .ok v =>
    let found := (Item.ofJson origin v).described
    .error (.malformed ("invalid type: " ++ found ++ ", expected a map") origin)
  | .error fault => .error (.malformed (fault.message text) origin)

-- ---------------------------------------------------------------------------
-- Files
-- ---------------------------------------------------------------------------

def fileNames (environment : Assoc String) : List String :=
  ["default.toml", (environment.get? "SPLITTER_ENV").getD "development" ++ ".toml"]

/-- The layer of a file, by the ending of its name; a name that is nothing but an ending
has none. -/
def Layer.ofFile (path : String) (bytes : List Nat) : Except Fault Layer :=
  let parts := Path.parts path
  let name := parts.getLastD ""
  let origin := String.intercalate "/" parts
  let text := Text.ofBytesLossy (dropMark bytes)
  if name = ".toml" then .ok []
  else if name.endsWith ".json" then Layer.ofJson origin text
  else Layer.ofToml origin text

def places (path : String) : List String := [path, path ++ ".toml", path ++ ".json"]

variable {m : Type → Type} [Monad m]

def readFirst (read : FileReader m) : List String → m (Except Fault Layer)
  | [] => return .ok []
  | path :: rest => do
    match ← read path with
    | .ok bytes => return Layer.ofFile path bytes
    | .error (.other _) => return .ok []
    | .error _ => readFirst read rest

def readAll (read : FileReader m) (directory : String) :
    List String → m (Except Fault (List Layer))
  | [] => return .ok []
  | name :: rest => do
    match ← readFirst read (places (Path.join directory name)) with
    | .error fault => return .error fault
    | .ok layer => return (← readAll read directory rest).map (layer :: ·)

def load (read : FileReader m) (environment : Assoc String) (directory : String) :
    m (Except Fault Settings) := do
  let files ← readAll read directory (fileNames environment)
  return do ofLayers ((← files) ++ [Variables.entries environment])

end Targeting.Settings
