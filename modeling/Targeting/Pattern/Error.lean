import Targeting.Text.Ascii

/-!
# What is wrong with a pattern

A cause with the part of the pattern that it concerns, and a message that shows the
pattern with that part marked. A pattern of several lines is shown with numbered lines
between two rules.
-/

namespace Targeting.Pattern

/-- Lines and columns count characters, from one. -/
structure Point where
  line : Nat
  column : Nat
  deriving DecidableEq

def Point.first : Point := ⟨1, 1⟩

def Point.next (p : Point) (c : Char) : Point :=
  if c = '\n' then ⟨p.line + 1, 1⟩ else ⟨p.line, p.column + 1⟩

def Point.before (p q : Point) : Bool :=
  p.line < q.line || p.line = q.line && p.column ≤ q.column

structure Span where
  start : Point
  stop : Point

inductive Cause where
  | classEscape | classRangeOrder | classRangeBoundary | classUnclosed
  | decimalTooLarge | hexEmpty | hexNoScalar | hexDigit
  | escapeEnd | escapeUnknown
  | flagDangling | flagTwice | flagNegatedTwice | flagEnd | flagUnknown
  | nameTwice | nameEmpty | nameCharacter | nameEnd
  | groupUnclosed | groupUnopened | nestedTooDeep
  | countOrder | countEmpty | countUnclosed | repetitionOfNothing
  | boundaryUnclosed | boundaryUnknown | boundaryEnd
  | propertyLetter | backreference | lookAround
  | unicodeNotAllowed | notUtf8 | propertyUnknown | propertyValueUnknown

def maxNesting : Nat := 250

def Cause.message : Cause → String
  | .classEscape => "invalid escape sequence found in character class"
  | .classRangeOrder => "invalid character class range, the start must be <= the end"
  | .classRangeBoundary => "invalid range boundary, must be a literal"
  | .classUnclosed => "unclosed character class"
  | .decimalTooLarge => "decimal literal invalid"
  | .hexEmpty => "hexadecimal literal empty"
  | .hexNoScalar => "hexadecimal literal is not a Unicode scalar value"
  | .hexDigit => "invalid hexadecimal digit"
  | .escapeEnd => "incomplete escape sequence, reached end of pattern prematurely"
  | .escapeUnknown => "unrecognized escape sequence"
  | .flagDangling => "dangling flag negation operator"
  | .flagTwice => "duplicate flag"
  | .flagNegatedTwice => "flag negation operator repeated"
  | .flagEnd => "expected flag but got end of regex"
  | .flagUnknown => "unrecognized flag"
  | .nameTwice => "duplicate capture group name"
  | .nameEmpty => "empty capture group name"
  | .nameCharacter => "invalid capture group character"
  | .nameEnd => "unclosed capture group name"
  | .groupUnclosed => "unclosed group"
  | .groupUnopened => "unopened group"
  | .nestedTooDeep =>
    "exceed the maximum number of nested parentheses/brackets (" ++ toString maxNesting ++ ")"
  | .countOrder => "invalid repetition count range, the start must be <= the end"
  | .countEmpty => "repetition quantifier expects a valid decimal"
  | .countUnclosed => "unclosed counted repetition"
  | .repetitionOfNothing => "repetition operator missing expression"
  | .boundaryUnclosed =>
    "special word boundary assertion is either unclosed or contains an invalid character"
  | .boundaryUnknown =>
    "unrecognized special word boundary assertion, valid choices are: start, end, " ++
      "start-half or end-half"
  | .boundaryEnd =>
    "found either the beginning of a special word boundary or a bounded repetition on a \\b " ++
      "with an opening brace, but no closing brace"
  | .propertyLetter => "invalid Unicode character class"
  | .backreference => "backreferences are not supported"
  | .lookAround => "look-around, including look-ahead and look-behind, is not supported"
  | .unicodeNotAllowed => "Unicode not allowed here"
  | .notUtf8 => "pattern can match invalid UTF-8"
  | .propertyUnknown => "Unicode property not found"
  | .propertyValueUnknown => "Unicode property value not found"

structure Error where
  source : String
  cause : Cause
  span : Span
  /-- Another part that the first one conflicts with. -/
  other : Option Span

-- ---------------------------------------------------------------------------
-- Messages
-- ---------------------------------------------------------------------------

/-- The lines of a text, without their ends; a last line that is empty does not count. -/
def linesFrom : List Char → List Char → List (List Char)
  | [], [] => []
  | line, [] => [line.reverse]
  | line, '\n' :: rest =>
    (match line with
      | '\r' :: l => l.reverse
      | l => l.reverse) :: linesFrom [] rest
  | line, c :: rest => linesFrom (c :: line) rest

def lines (text : String) : List String := (linesFrom [] text.toList).map .ofList

def spaces (n : Nat) : String := "".pushn ' ' n

/-- Carets under the spans, which stand in order on one line; `column` is reached. -/
def carets : Nat → List Span → String
  | _, [] => ""
  | column, span :: rest =>
    let start := max column span.start.column
    let width := max 1 (span.stop.column - span.start.column)
    spaces (start - column) ++ "".pushn '^' width ++ carets (start + width) rest

def Error.spans (e : Error) : List Span :=
  match e.other with
  | none => [e.span]
  | some s => if s.start.before e.span.start then [s, e.span] else [e.span, s]

def Error.notes (e : Error) (line : Nat) : List Span :=
  e.spans.filter fun s => s.start.line = line && s.stop.line = line

/-- The pattern line by line, each with its number if there are several, and its notes. -/
def Error.shown (e : Error) (numberWidth : Nat) : Nat → List String → String
  | _, [] => ""
  | n, line :: rest =>
    let margin := if numberWidth = 0 then 4 else numberWidth + 2
    let lead :=
      if numberWidth = 0 then spaces margin
      else Text.padLeft numberWidth ' ' (toString n) ++ ": "
    let notes := match e.notes n with
      | [] => ""
      | spans => spaces margin ++ carets 1 spans ++ "\n"
    lead ++ line ++ "\n" ++ notes ++ e.shown numberWidth (n + 1) rest

def Error.longSpans (e : Error) : String :=
  let long := e.spans.filter fun s => s.start.line ≠ s.stop.line
  let words := long.map fun s =>
    "on line " ++ toString s.start.line ++ " (column " ++ toString s.start.column ++
      ") through line " ++ toString s.stop.line ++ " (column " ++ toString (s.stop.column - 1) ++
      ")"
  if words.isEmpty then "" else String.intercalate "\n" words ++ "\n"

def Error.message (e : Error) : String :=
  let chars := e.source.toList
  let ls := lines e.source
  let count := ls.length + (if chars.getLast? = some '\n' then 1 else 0)
  let width := if count ≤ 1 then 0 else (toString count).length
  let shown := e.shown width 1 ls
  let rule := "".pushn '~' 79 ++ "\n"
  "regex parse error:\n" ++
    (if chars.contains '\n' then rule ++ shown ++ rule ++ e.longSpans else shown) ++
    "error: " ++ e.cause.message

end Targeting.Pattern
