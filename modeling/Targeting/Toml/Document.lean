import Targeting.Toml.Draft
import Targeting.Toml.Moment
import Targeting.Toml.Number
import Targeting.Toml.Reader

/-!
# Reading settings files

A text is a list of statements, a line each: headers, and keys with their values. The
nesting of arrays and inline tables is limited.
-/

namespace Targeting.Toml

namespace Reader

variable {α : Type}

-- ---------------------------------------------------------------------------
-- Values
-- ---------------------------------------------------------------------------

def isAtom (c : Char) : Bool := c.isAlphanum || c ∈ ['_', '-', '+', '.', ':']

def spacedTime (date : List Char) : Reader (List Char) := do
  match ← get with
  | ' ' :: c :: rest =>
    if (Moment.date? date).any (·.2.isEmpty) && Decimal.isDigit c then do
      set (c :: rest)
      return ' ' :: (← takeWhile isAtom)
    else return []
  | _ => return []

def ofAtom (atom : List Char) : Option Toml :=
  if atom = "true".toList then some (.bool true)
  else if atom = "false".toList then some (.bool false)
  else
    ((Moment.normal? atom).map .moment).or <|
      ((Number.integer? atom).map .integer).or ((Number.float? atom).map .real)

def plain : Reader Toml := do
  if ← accept ['"', '"', '"'] then .text <$> linesText '"' true
  else if ← accept ['"'] then .text <$> lineText
  else if ← accept ['\'', '\'', '\''] then .text <$> linesText '\'' false
  else if ← accept ['\''] then .text <$> literal
  else
    let atom ← takeWhile isAtom
    match ofAtom (atom ++ (← spacedTime atom)) with
    | some v => return v
    | none => failure

/-- Items with commas between them and perhaps one after the last, up to the end mark. -/
def itemsFrom (endMark : Char) (item : Reader α) : Nat → Reader (List α)
  | 0 => failure
  | steps + 1 => do
    gap
    if ← accept [endMark] then return []
    let x ← item
    gap
    if ← accept [','] then return x :: (← itemsFrom endMark item steps)
    expect endMark
    return [x]

def items (endMark : Char) (item : Reader α) : Reader (List α) := do
  itemsFrom endMark item (← steps)

def assignment (space : Reader Unit) (value : Reader Toml) : Reader (List String × Toml) := do
  let path ← key
  space
  expect '='
  space
  return (path, ← value)

def inlineTable (assignments : List (List String × Toml)) : Reader Toml :=
  match assignments.foldlM (fun entries (path, v) => Draft.define v path entries) [] with
  | some entries => return .table (Draft.finishEntries entries)
  | none => failure

/-- A value with at most so many arrays and inline tables around a part of it. -/
def value : Nat → Reader Toml
  | 0 => plain
  | depth + 1 => do
    if ← accept ['['] then .array <$> items ']' (value depth)
    else if ← accept ['\x7b'] then do inlineTable (← items '\x7d' (assignment gap (value depth)))
    else plain

end Reader

-- ---------------------------------------------------------------------------
-- Statements
-- ---------------------------------------------------------------------------

inductive Statement where
  | table (path : List String)
  /-- One more of the tables of that name. -/
  | nextTable (path : List String)
  | assign (path : List String) (v : Toml)

/-- What has been read: the whole, and the path of the table that is open. -/
structure Document where
  root : Draft.Entries
  path : List String

namespace Document

def enter (d : Document) (path : List String)
    (openIt : String → Draft.Entries → Option Draft.Entries) : Option Document :=
  match path.getLast? with
  | none => none
  | some key => do return ⟨← Draft.within path.dropLast (openIt key) d.root, path⟩

def add (d : Document) : Statement → Option Document
  | .table path => d.enter path Draft.openTable
  | .nextTable path => d.enter path Draft.openNext
  | .assign path v => do
    return { d with root := ← Draft.within d.path (Draft.define v path) d.root }

end Document

def maxDepth : Nat := 80

namespace Reader

def statement : Reader Statement := do
  if ← accept ['[', '['] then
    let path ← key
    expect ']'
    expect ']'
    return .nextTable path
  else if ← accept ['['] then
    let path ← key
    expect ']'
    return .table path
  else
    let (path, v) ← assignment blanks (value maxDepth)
    return .assign path v

def statementsFrom : Nat → Reader (List Statement)
  | 0 => failure
  | steps + 1 => do
    gap
    if (← peek).isNone then return []
    let first ← statement
    lineEnd
    return first :: (← statementsFrom steps)

def statements : Reader (List Statement) := do
  let _ ← accept ['\ufeff']
  statementsFrom (← steps)

end Reader

def ofText? (text : String) : Option (List (String × Toml)) := do
  let statements ← Reader.statements.run' text.toList
  let d ← statements.foldlM Document.add ⟨[], []⟩
  return Draft.finishEntries d.root

end Targeting.Toml
