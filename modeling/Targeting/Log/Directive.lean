import Targeting.Decimal.Read
import Targeting.Pattern
import Targeting.Text.Split
import Targeting.Unicode.Letter
import Targeting.Unicode.Space

/-!
# Log directives

A directive lets records through up to a level: `level`, `target` or `target=level`,
with the part `[span{field}]` after the target for the records within a span. Without a
level everything passes. Blanks around a directive are passed over, yet its parts are
cut out of the text at the places that they have without them.
-/

namespace Targeting.Log

/-- From `0`, nothing, and `1`, errors only, to `5`, everything. -/
abbrev Verbosity := Nat

def everything : Verbosity := 5

structure Field where
  name : String
  value : Option String
  deriving DecidableEq

structure Directive where
  target : Option String
  span : Option String
  fields : List Field
  level : Verbosity

namespace Directive

def verbosities : List (String × Verbosity) :=
  [("off", 0), ("error", 1), ("warn", 2), ("info", 3), ("debug", 4), ("trace", 5)]

def verbosity? (text : String) : Option Verbosity :=
  let digits := match text.toList with
    | '+' :: rest => rest
    | chars => chars
  if !digits.isEmpty && digits.all Decimal.isDigit then
    let n := Decimal.digitsValue digits
    if n ≤ everything then some n else none
  else verbosities.lookup (Text.lowerAscii text)

def isPlain (value : String) : Bool :=
  value = "true" || value = "false" || (Decimal.float? value).isSome

def isUnicodeWords : Pattern.Look → Bool
  | .words unicode _ => unicode
  | _ => false

/-- Whether the text is a pattern that does not ask for words beyond ASCII. -/
def isPattern (value : String) : Bool :=
  match Pattern.read value with
  | .ok node => !node.asks isUnicodeWords
  | .error _ => false

/-- A value that is no Boolean and no number is a pattern. -/
def field? (text : String) : Option Field :=
  let name := text.toList.takeWhile (· ≠ '=')
  match text.toList.drop name.length with
  | [] => some ⟨.ofList name, none⟩
  | _ :: rest =>
    let value := String.ofList (rest.takeWhile (· ≠ '='))
    if isPlain value || isPattern value then some ⟨.ofList name, some value⟩
    else none

def cut (text : List Char) (start stop : Nat) : String :=
  .ofList ((text.drop start).take (stop - start))

def levelFrom (text : List Char) (start : Nat) : Option Verbosity :=
  match text.drop start with
  | [] => some everything
  | rest => verbosity? (.ofList rest)

def isMark (c : Char) : Bool := c = '=' || c = '['

/-- From the end of a span or the target, at a place, on: a level or nothing. -/
def readLevel (text : List Char) (start : Nat) (d : Directive) : List Char → Option Directive
  | [] => some d
  | '=' :: _ => (levelFrom text (start + 1)).map fun level => { d with level }
  | _ => none

def readSpan (text : List Char) (start : Nat) (d : Directive) (rest : List Char) :
    Option Directive :=
  let name := rest.takeWhile fun c => c ≠ ']' && c ≠ '\x7b'
  let stop := start + name.length
  match rest.drop name.length with
  | ']' :: rest => readLevel text (stop + 1) { d with span := some (cut text start stop) } rest
  | '\x7b' :: rest =>
    let inner := rest.takeWhile (· ≠ '\x7d')
    let close := stop + 1 + inner.length
    match rest.drop inner.length, cut text (stop + 1) close with
    | '\x7d' :: ']' :: rest, field =>
      if field = "" then none
      else do
        let span := if name.isEmpty then none else some (cut text start stop)
        readLevel text (close + 2) { d with span, fields := [← field? field] } rest
    | _, _ => none
  | _ => none

def isStart (c : Char) : Bool := c = '-' || c = ':' || c = '_' || Unicode.isAlphanumeric c

/-- A word alone is a level if it can be one, else a target. -/
def ofWord (word : String) : Directive :=
  match verbosity? word with
  | some level => ⟨none, none, [], level⟩
  | none => ⟨some word, none, [], everything⟩

def ofText? (source : String) : Option Directive :=
  let text := source.toList
  let inner := (Unicode.trim source).toList
  let d : Directive := ⟨none, none, [], everything⟩
  match inner with
  | [] => none
  | '[' :: rest => readSpan text 1 d rest
  | first :: _ =>
    let word := inner.takeWhile (!isMark ·)
    let d := { d with target := some (cut text 0 word.length) }
    if !isStart first then none
    else
      match inner.drop word.length with
      | [] => some (ofWord source)
      | '[' :: rest => readSpan text (word.length + 1) d rest
      | rest => readLevel text word.length d rest

def listOfText? (text : String) : Option (List Directive) :=
  ((Text.split ',' text).filter (· ≠ "")).mapM ofText?

end Directive

end Targeting.Log
