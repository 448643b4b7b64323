import Targeting.Text.Ascii
import Targeting.Toml

/-!
# Reading the parts of a settings file

Blanks, comments, texts and keys. A reader passes over characters; what it cannot read
it does not name.
-/

namespace Targeting.Toml

abbrev Reader := StateT (List Char) Option

namespace Reader

variable {α : Type}

def peek : Reader (Option Char) := do return (← get).head?

def next : Reader Char := do
  match ← get with
  | [] => failure
  | c :: rest => do set rest; return c

def expect (c : Char) : Reader Unit := do
  if (← next) = c then pure () else failure

def accept (text : List Char) : Reader Bool := do
  let rest ← get
  if text.isPrefixOf rest then do set (rest.drop text.length); return true
  else return false

def takeWhile (p : Char → Bool) : Reader (List Char) := do
  let rest ← get
  let taken := rest.takeWhile p
  set (rest.drop taken.length)
  return taken

/-- A pass over characters is at most as long as what is left. -/
def steps : Reader Nat := do return (← get).length + 1

def passing (pass : List Char → Option (List Char)) : Reader Unit := do
  match pass (← get) with
  | some rest => set rest
  | none => failure

-- ---------------------------------------------------------------------------
-- Blanks and comments
-- ---------------------------------------------------------------------------

def isBlank (c : Char) : Bool := c = ' ' || c = '\t'

def isControl (c : Char) : Bool := c < ' ' && c ≠ '\t' || c = '\x7f'

def blanks : Reader Unit := do
  let _ ← takeWhile isBlank

/-- To the end of the line, with nothing but blanks and a comment on it. -/
def lineEndFrom (inComment : Bool) : List Char → Option (List Char)
  | [] => some []
  | '\n' :: rest => some rest
  | '\r' :: '\n' :: rest => some rest
  | c :: rest =>
    if inComment then if isControl c then none else lineEndFrom true rest
    else if isBlank c then lineEndFrom false rest
    else if c = '#' then lineEndFrom true rest
    else none

def lineEnd : Reader Unit := passing (lineEndFrom false)

/-- Over blanks, ends of lines and comments. -/
def gapFrom (inComment : Bool) : List Char → Option (List Char)
  | [] => some []
  | '\n' :: rest => gapFrom false rest
  | '\r' :: '\n' :: rest => gapFrom false rest
  | c :: rest =>
    if inComment then if isControl c then none else gapFrom true rest
    else if isBlank c then gapFrom false rest
    else if c = '#' then gapFrom true rest
    else some (c :: rest)

def gap : Reader Unit := passing (gapFrom false)

-- ---------------------------------------------------------------------------
-- Texts
-- ---------------------------------------------------------------------------

def scalar (count : Nat) : Reader Char := do
  let ds := (← get).take count
  set ((← get).drop count)
  let n := ds.foldl (fun n d => n * 16 + (Text.hexValue? d).getD 0) 0
  if ds.length = count ∧ ds.all (fun d => (Text.hexValue? d).isSome) ∧ n.isValidChar then
    return Char.ofNat n
  else failure

def escaped : Reader Char := do
  match ← next with
  | 'b' => return '\x08'
  | 't' => return '\t'
  | 'n' => return '\n'
  | 'f' => return '\x0c'
  | 'r' => return '\r'
  | 'e' => return '\x1b'
  | '"' => return '"'
  | '\\' => return '\\'
  | 'x' => scalar 2
  | 'u' => scalar 4
  | 'U' => scalar 8
  | _ => failure

def lineTextFrom : Nat → List Char → Reader String
  | 0, _ => failure
  | steps + 1, seen => do
    match ← next with
    | '"' => return .ofList seen.reverse
    | '\\' => do lineTextFrom steps ((← escaped) :: seen)
    | c => if isControl c then failure else lineTextFrom steps (c :: seen)

def lineText : Reader String := do lineTextFrom (← steps) []

def literal : Reader String := do
  let seen ← takeWhile fun c => c ≠ '\'' && !isControl c
  expect '\''
  return .ofList seen

/-- Over a quote or several: from three on the text ends, and those before the last
three, two at most, belong to it. -/
def quotesWithin (quote : Char) : Reader (Nat × Bool) := do
  let count := (← takeWhile (· = quote)).length
  if count < 3 then return (count, false)
  else if count ≤ 5 then return (count - 3, true)
  else failure

def dropLineEnds : List Char → List Char
  | '\n' :: rest | '\r' :: '\n' :: rest => dropLineEnds rest
  | c :: rest => if isBlank c then dropLineEnds rest else c :: rest
  | [] => []

/-- After a backslash at the end of a line, to the next character that is not blank;
whether the line ends here. -/
def lineJoin : Reader Bool := do
  let rest := (← get).dropWhile isBlank
  let start := match rest with
    | '\r' :: rest => rest
    | rest => rest
  match start with
  | '\n' :: rest => do
    set (dropLineEnds rest)
    return true
  | _ => return false

def linesTextFrom (quote : Char) (escapes : Bool) : Nat → List Char → Reader String
  | 0, _ => failure
  | steps + 1, seen => do
    match ← peek with
    | none => failure
    | some c =>
      if c = quote then
        let (count, ends) ← quotesWithin quote
        let seen := List.replicate count quote ++ seen
        if ends then return .ofList seen.reverse else linesTextFrom quote escapes steps seen
      else if escapes ∧ c = '\\' then
        let _ ← next
        if ← lineJoin then linesTextFrom quote escapes steps seen
        else linesTextFrom quote escapes steps ((← escaped) :: seen)
      else if ← accept ['\n'] then linesTextFrom quote escapes steps ('\n' :: seen)
      else if ← accept ['\r', '\n'] then linesTextFrom quote escapes steps ('\n' :: '\r' :: seen)
      else if isControl c then failure
      else linesTextFrom quote escapes steps ((← next) :: seen)

/-- The rest of a text over several lines, with their ends as they are; an end of line
right at its start is not part of it. -/
def linesText (quote : Char) (escapes : Bool) : Reader String := do
  if ← accept ['\r', '\n'] then pure ()
  else
    let _ ← accept ['\n']
  linesTextFrom quote escapes (← steps) []

-- ---------------------------------------------------------------------------
-- Keys
-- ---------------------------------------------------------------------------

def isBare (c : Char) : Bool := c.isAlphanum || c = '_' || c = '-'

def keyPart : Reader String := do
  match ← peek with
  | some '"' => do expect '"'; lineText
  | some '\'' => do expect '\''; literal
  | _ =>
    let name ← takeWhile isBare
    if name.isEmpty then failure else return .ofList name

def keyFrom : Nat → Reader (List String)
  | 0 => failure
  | steps + 1 => do
    blanks
    let part ← keyPart
    blanks
    if ← accept ['.'] then return part :: (← keyFrom steps) else return [part]

/-- The parts of a key are so many at most. -/
def maxParts : Nat := 80

def key : Reader (List String) := do
  let path ← keyFrom (← steps)
  if path.length ≤ maxParts then return path else failure

end Reader

end Targeting.Toml
