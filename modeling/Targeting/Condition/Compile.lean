import Targeting.CompileError

/-!
# Compiling conditions

The JSON form of a condition. The entries of a list are compiled in order; patterns
only after all entries are known to be texts.
-/

namespace Targeting.Condition

def entries (kind : Kind) : Json → Except CompileError (List Json)
  | .array items => .ok items
  | found => .error (.notList kind found)

def text (kind : Kind) : Json → Except CompileError String
  | .text s => .ok s
  | found => .error (.notText kind found)

def texts (kind : Kind) (raw : Json) : Except CompileError (List String) := do
  (← entries kind raw).mapM (text kind)

def pattern (kind : Kind) (source : String) : Except CompileError Pattern :=
  (Pattern.compile source).mapError (.badPattern kind source)

def patterns (kind : Kind) (raw : Json) : Except CompileError (List Pattern) := do
  (← texts kind raw).mapM (pattern kind)

def record {α : Type} (kind : Kind) (shape : Shape) (ofContent : shape.Content → α) (raw : Json) :
    Except CompileError α :=
  ((shape.decode raw).mapError (.badRecord kind)).map ofContent

def records {α : Type} (kind : Kind) (shape : Shape) (ofContent : shape.Content → α)
    (raw : Json) : Except CompileError (List α) := do
  (← entries kind raw).mapM (record kind shape ofContent)

def compile : Kind → Json → Except CompileError Condition
  | .host, raw => (texts .host raw).map .host
  | .path, raw => (patterns .path raw).map .path
  | .bucket, raw => (records .bucket Bucket.Range.shape Bucket.Range.ofContent raw).map .bucket
  | .cookie, raw => (records .cookie Cookie.shape Cookie.ofContent raw).map .cookie
  | .agent, raw => (patterns .agent raw).map .agent
  | .geoip, raw => (texts .geoip raw).map .geoip
  | .device, raw =>
    (records .device Device.Criterion.shape Device.Criterion.ofContent raw).map .device
  | .visitor, raw => .ok (.visitor raw.truthy)

end Targeting.Condition
