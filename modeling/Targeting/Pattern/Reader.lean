import Targeting.Pattern.Term
import Targeting.Unicode.Letter
import Targeting.Unicode.Space

/-!
# Reading patterns

From the text of a pattern to its term. In free patterns, blanks and comments between
the parts do not count.
-/

namespace Targeting.Pattern

structure Scan where
  source : String
  rest : List Char
  point : Point
  free : Bool
  names : List (String × Span)

abbrev Reader := StateT Scan (Except Error)

namespace Reader

variable {α : Type}

def failAt (cause : Cause) (span : Span) : Reader α := fun s =>
  .error ⟨s.source, cause, span, none⟩

def here : Reader Point := fun s => .ok (s.point, s)

def since (start : Point) : Reader Span := do return ⟨start, ← here⟩

def spot : Reader Span := do since (← here)

def spanNext : Reader Span := fun s =>
  .ok (⟨s.point, match s.rest with
    | [] => s.point
    | c :: _ => s.point.next c⟩, s)

def peek : Reader (Option Char) := fun s => .ok (s.rest.head?, s)

def peekSecond : Reader (Option Char) := fun s => .ok ((s.rest.drop 1).head?, s)

/-- Passes over a character; whether another one follows. -/
def bump : Reader Bool := fun s =>
  match s.rest with
  | [] => .ok (false, s)
  | c :: rest => .ok (!rest.isEmpty, { s with rest, point := s.point.next c })

def freeFrom : Bool → List Char → Point → List Char × Point
  | _, [], p => ([], p)
  | true, c :: rest, p => freeFrom (c ≠ '\n') rest (p.next c)
  | false, c :: rest, p =>
    if Unicode.isSpace c then freeFrom false rest (p.next c)
    else if c = '#' then freeFrom true rest (p.next c)
    else (c :: rest, p)

def bumpFree : Reader Unit := fun s =>
  if s.free then
    let (rest, point) := freeFrom false s.rest s.point
    .ok ((), { s with rest, point })
  else .ok ((), s)

def bumpOver : Reader Bool := do
  let _ ← bump
  bumpFree
  return (← peek).isSome

/-- The character after the next one, and after the blanks between them. The sign that
begins a comment is passed over too, once, but not the comment. -/
def peekPast : Reader (Option Char) := fun s =>
  let after := s.rest.drop 1
  let solid := after.dropWhile Unicode.isSpace
  let ahead := match solid with
    | '#' :: comment => comment.dropWhile Unicode.isSpace
    | _ => solid
  .ok (if s.free then ahead.head?.or after.head? else after.head?, s)

def stripped : List Char → List Char → Option (List Char)
  | [], rest => some rest
  | w :: word, c :: rest => if w = c then stripped word rest else none
  | _ :: _, [] => none

def bumpWord (word : String) : Reader Bool := fun s =>
  match stripped word.toList s.rest with
  | some rest =>
    .ok (true, { s with rest, point := ⟨s.point.line, s.point.column + word.length⟩ })
  | none => .ok (false, s)

def takeWhile (holds : Char → Bool) : Reader (List Char) := do
  let rec go : Nat → List Char → Reader (List Char)
    | 0, done => pure done.reverse
    | fuel + 1, done => do
      match ← peek with
      | some c =>
        if holds c then do
          let _ ← bumpOver
          go fuel (c :: done)
        else pure done.reverse
      | none => pure done.reverse
  go ((← get).rest.length + 1) []

-- ---------------------------------------------------------------------------
-- Numbers and escapes
-- ---------------------------------------------------------------------------

def isDigit (c : Char) : Bool := '0' ≤ c && c ≤ '9'

def word32 : Nat := 0xFFFFFFFF

/-- A count, between blanks; the offence is for the caller to report or to drop. -/
def decimal : Reader (Except (Cause × Span) Nat) := do
  let _ ← takeWhile Unicode.isSpace
  let start ← here
  let digits ← takeWhile isDigit
  let span ← since start
  let _ ← takeWhile Unicode.isSpace
  let n := digits.foldl (fun n d => n * 10 + (d.toNat - '0'.toNat)) 0
  return if digits.isEmpty then .error (.countEmpty, span)
    else if word32 < n then .error (.decimalTooLarge, span)
    else .ok n

def settled : Except (Cause × Span) Nat → Reader Nat
  | .ok n => pure n
  | .error (cause, span) => failAt cause span

def scalar? (digits : List Char) : Option Char := do
  let values ← digits.mapM Text.hexValue?
  let n := values.foldl (fun n d => n * 16 + d) 0
  if n < 0xD800 ∨ 0xDFFF < n ∧ n < 0x110000 then some (Char.ofNat n) else none

def hexDigits (count : Nat) : Reader (List Char) := do
  let rec go : Nat → List Char → Reader (List Char)
    | 0, done => pure done.reverse
    | left + 1, done => do
      if !done.isEmpty then
        if !(← bumpOver) then failAt .escapeEnd (← spot)
      match ← peek with
      | some c =>
        if (Text.hexValue? c).isSome then go left (c :: done)
        else failAt .hexDigit (← spanNext)
      | none => failAt .escapeEnd (← spot)
  let digits ← go count []
  let _ ← bumpOver
  return digits

def hexInBraces (brace : Point) : Reader (List Char) := do
  let rec go : Nat → List Char → Reader (List Char)
    | 0, done => pure done.reverse
    | fuel + 1, done => do
      if !(← bumpOver) then failAt .escapeEnd (← since brace)
      match ← peek with
      | some '\x7d' => pure done.reverse
      | some c =>
        if (Text.hexValue? c).isSome then go fuel (c :: done)
        else failAt .hexDigit (← spanNext)
      | none => failAt .escapeEnd (← since brace)
  go ((← get).rest.length + 1) []

def hex (start : Point) (letter : Char) : Reader Literal := do
  let count := if letter = 'x' then 2 else if letter = 'u' then 4 else 8
  if !(← bumpOver) then failAt .escapeEnd (← spot)
  let first ← here
  if (← peek) = some '\x7b' then
    let inside := first.next '\x7b'
    let digits ← hexInBraces first
    let stop ← here
    let _ ← bumpOver
    if digits.isEmpty then failAt .hexEmpty (← since first)
    match scalar? digits with
    | some c => return ⟨← since start, c, false⟩
    | none => failAt .hexNoScalar ⟨inside, stop⟩
  else
    let digits ← hexDigits count
    match scalar? digits with
    | some c => return ⟨← since start, c, letter = 'x'⟩
    | none => failAt .hexNoScalar (← since first)

def splitAt (separator : List Char) : List Char → List Char → Option (List Char × List Char)
  | _, [] => none
  | before, c :: rest =>
    match stripped separator (c :: rest) with
    | some after => some (before.reverse, after)
    | none => splitAt separator (c :: before) rest

/-- What stands in the braces, and whether it asks for all other characters. -/
def queryOf (name : List Char) : Bool × PropertyQuery :=
  let split (separator : String) := splitAt separator.toList [] name
  match split "!=", (split ":").or (split "=") with
  | some (n, v), _ => (true, .value (.ofList n) (.ofList v))
  | none, some (n, v) => (false, .value (.ofList n) (.ofList v))
  | none, none => (false, .name (.ofList name))

def inBraces : Reader (List Char) := do
  let rec go : Nat → List Char → Reader (List Char)
    | 0, done => pure done.reverse
    | fuel + 1, done => do
      if !(← bumpOver) then failAt .escapeEnd (← spot)
      match ← peek with
      | some '\x7d' => pure done.reverse
      | some c => go fuel (c :: done)
      | none => failAt .escapeEnd (← spot)
  go ((← get).rest.length + 1) []

def property (start : Point) (negated : Bool) : Reader Term := do
  if !(← bumpOver) then failAt .escapeEnd (← spot)
  match ← peek with
  | some '\x7b' => do
    let (other, query) := queryOf (← inBraces)
    let _ ← bump
    return .property (← since start) (negated != other) query
  | some '\\' => failAt .propertyLetter (← spanNext)
  | some c => do
    let _ ← bumpOver
    return .property (← since start) negated (.name c.toString)
  | none => failAt .escapeEnd (← spot)

def isMeta (c : Char) : Bool := "\\.+*?()|[]\x7b\x7d^$#&-~".toList.contains c

def isEscapable (c : Char) : Bool :=
  isMeta c || c.toNat < 128 && !c.isAlphanum && c ≠ '<' && c ≠ '>'

def boundaryKind? : String → Option Assertion
  | "start" => some .wordStart
  | "end" => some .wordEnd
  | "start-half" => some .wordStartHalf
  | "end-half" => some .wordEndHalf
  | _ => none

/-- The kind in braces after a word boundary; none if the braces hold a count. -/
def boundaryInBraces (start : Point) : Reader (Option Assertion) := do
  let isName (c : Char) : Bool := c.isAlpha || c = '-'
  let before ← get
  if !(← bumpOver) then failAt .boundaryEnd (← since start)
  let inside ← here
  if !(← peek).any isName then
    set before
    return none
  else
    let name ← takeWhile isName
    if (← peek) ≠ some '\x7d' then failAt .boundaryUnclosed (← since before.point)
    let span ← since inside
    let _ ← bump
    match boundaryKind? (.ofList name) with
    | some kind => return some kind
    | none => failAt .boundaryUnknown span

def control? : Char → Option Char
  | 'a' => some '\x07'
  | 'f' => some '\x0c'
  | 't' => some '\t'
  | 'n' => some '\n'
  | 'r' => some '\r'
  | 'v' => some '\x0b'
  | _ => none

def assertion? : Char → Option Assertion
  | 'A' => some .textStart
  | 'z' => some .textEnd
  | 'B' => some .noBoundary
  | '<' => some .wordStart
  | '>' => some .wordEnd
  | _ => none

def perl? : Char → Option (Bool × PerlClass)
  | 'd' => some (false, .digit)
  | 'D' => some (true, .digit)
  | 's' => some (false, .space)
  | 'S' => some (true, .space)
  | 'w' => some (false, .word)
  | 'W' => some (true, .word)
  | _ => none

def shortEscape (start : Point) (c : Char) : Reader Term := do
  let _ ← bump
  let span ← since start
  match perl? c, control? c, assertion? c with
  | some (negated, kind), _, _ => return .perl span negated kind
  | _, some x, _ => return .literal ⟨span, x, false⟩
  | _, _, some kind => return .assertion span kind
  | _, _, _ =>
    if isEscapable c then return .literal ⟨span, c, false⟩
    else if c = 'b' then
      if (← peek) = some '\x7b' then
        match ← boundaryInBraces start with
        | some kind => return .assertion (← since start) kind
        | none => return .assertion span .boundary
      else return .assertion span .boundary
    else failAt .escapeUnknown span

def escape : Reader Term := do
  let start ← here
  if !(← bump) then failAt .escapeEnd (← since start)
  match ← peek with
  | none => failAt .escapeEnd (← since start)
  | some c =>
    if isDigit c then failAt .backreference ⟨start, (← spanNext).stop⟩
    else if c = 'x' ∨ c = 'u' ∨ c = 'U' then return .literal (← hex start c)
    else if c = 'p' ∨ c = 'P' then property start (c = 'P')
    else shortEscape start c

-- ---------------------------------------------------------------------------
-- Classes
-- ---------------------------------------------------------------------------

def asciiClass? : String → Option (List (Nat × Nat))
  | "alnum" => some [(48, 57), (65, 90), (97, 122)]
  | "alpha" => some [(65, 90), (97, 122)]
  | "ascii" => some [(0, 127)]
  | "blank" => some [(9, 9), (32, 32)]
  | "cntrl" => some [(0, 31), (127, 127)]
  | "digit" => some [(48, 57)]
  | "graph" => some [(33, 126)]
  | "lower" => some [(97, 122)]
  | "print" => some [(32, 126)]
  | "punct" => some [(33, 47), (58, 64), (91, 96), (123, 126)]
  | "space" => some [(9, 13), (32, 32)]
  | "upper" => some [(65, 90)]
  | "word" => some [(48, 57), (65, 90), (95, 95), (97, 122)]
  | "xdigit" => some [(48, 57), (65, 70), (97, 102)]
  | _ => none

/-- A named class of ASCII characters, if one stands at the bracket; else nothing is read. -/
def namedClass? : Reader (Option ClassTerm) := fun s =>
  match s.rest with
  | '[' :: ':' :: rest =>
    let (negated, rest) := match rest with
      | '^' :: rest => (true, rest)
      | rest => (false, rest)
    let name := rest.takeWhile (· ≠ ':')
    match rest.drop name.length with
    | ':' :: ']' :: after =>
      match asciiClass? (.ofList name) with
      | some ranges =>
        let width := s.rest.length - after.length
        let point : Point := ⟨s.point.line, s.point.column + width⟩
        .ok (some (.ascii ⟨s.point, point⟩ negated ranges), { s with rest := after, point })
      | none => .ok (none, s)
    | _ => .ok (none, s)
  | _ => .ok (none, s)

def classPart : Reader Term := do
  if (← peek) = some '\\' then escape
  else
    match ← peek with
    | some c => do
      let span ← spanNext
      let _ ← bump
      return .literal ⟨span, c, false⟩
    | none => failAt .classUnclosed (← spot)

def itemOf : Term → Reader ClassTerm
  | .literal l => pure (.literal l)
  | .perl span negated kind => pure (.perl span negated kind)
  | .property span negated query => pure (.property span negated query)
  | t => failAt .classEscape t.span

def boundaryOf : Term → Reader Literal
  | .literal l => pure l
  | t => failAt .classRangeBoundary t.span

def classItem (opening : Span) : Reader ClassTerm := do
  let first ← classPart
  bumpFree
  let past ← peekPast
  match ← peek with
  | none => failAt .classUnclosed opening
  | some '-' =>
    if past = some ']' ∨ past = some '-' then itemOf first
    else
      if !(← bumpOver) then failAt .classUnclosed opening
      let last ← classPart
      let span : Span := ⟨first.span.start, last.span.stop⟩
      let first ← boundaryOf first
      let last ← boundaryOf last
      if first.char ≤ last.char then return .range span first last
      else failAt .classRangeOrder span
  | some _ => itemOf first

def unionOf (start : Point) : List ClassTerm → ClassTerm
  | [] => .empty ⟨start, start⟩
  | [item] => item
  | last :: earlier =>
    let items := (last :: earlier).reverse
    .union ⟨((items.head?.map (·.span.start)).getD start), last.span.stop⟩ items

def settle : Option (SetOperator × ClassTerm) → ClassTerm → ClassTerm
  | none, right => right
  | some (operator, left), right =>
    .operation ⟨left.span.start, right.span.stop⟩ operator left right

/-- Hyphens at the start of a class stand for themselves. -/
def leadingHyphens (start : Point) : Nat → List ClassTerm → Reader (List ClassTerm)
  | 0, done => pure done
  | fuel + 1, done => do
    if (← peek) = some '-' then
      let span ← spanNext
      if !(← bumpOver) then failAt .classUnclosed ⟨start, start⟩
      leadingHyphens start fuel (.literal ⟨span, '-', false⟩ :: done)
    else pure done

/-- The opening of a class, and what can only stand there: whether it is negated, the
hyphens, or a bracket that does not close it. -/
def classOpening : Reader (Bool × Point × List ClassTerm) := do
  let start ← here
  if !(← bumpOver) then failAt .classUnclosed (← since start)
  let negated := (← peek) == some '^'
  if negated then
    if !(← bumpOver) then failAt .classUnclosed (← since start)
  let inside ← here
  let items ← leadingHyphens start ((← get).rest.length + 1) []
  if items.isEmpty ∧ (← peek) = some ']' then
    let span ← spanNext
    if !(← bumpOver) then failAt .classUnclosed (← since start)
    return (negated, inside, [.literal ⟨span, ']', false⟩])
  else return (negated, inside, items)

mutual
def bracketed : Nat → Reader (Span × Bool × ClassTerm)
  | 0 => do failAt .classUnclosed (← spot)
  | fuel + 1 => do
    let start ← here
    let (negated, inside, items) ← classOpening
    let inner ← classRest fuel (← since start) none inside items
    let _ ← bump
    return (← since start, negated, inner)
def classRest : Nat → Span → Option (SetOperator × ClassTerm) → Point → List ClassTerm →
    Reader ClassTerm
  | 0, opening, _, _, _ => failAt .classUnclosed opening
  | fuel + 1, opening, pending, start, items => do
    let operation (operator : SetOperator) : Reader ClassTerm := do
      let _ ← bump
      let _ ← bump
      classRest fuel opening (some (operator, settle pending (unionOf start items))) (← here) []
    bumpFree
    match ← peek with
    | none => failAt .classUnclosed opening
    | some ']' => return settle pending (unionOf start items)
    | some '[' =>
      match ← namedClass? with
      | some item => classRest fuel opening pending start (item :: items)
      | none => do
        let (span, negated, inner) ← bracketed fuel
        classRest fuel opening pending start (.bracketed span negated inner :: items)
    | some c =>
      let second ← peekSecond
      if c = '&' ∧ second = some '&' then operation .intersection
      else if c = '-' ∧ second = some '-' then operation .difference
      else if c = '~' ∧ second = some '~' then operation .symmetricDifference
      else do
        let item ← classItem opening
        classRest fuel opening pending start (item :: items)
end

-- ---------------------------------------------------------------------------
-- Groups
-- ---------------------------------------------------------------------------

def flag? : Char → Option Flag
  | 'i' => some .ignoreCase
  | 'm' => some .multiLine
  | 's' => some .dotAll
  | 'U' => some .swapGreed
  | 'u' => some .unicode
  | 'R' => some .crlf
  | 'x' => some .free
  | _ => none

def signOrFlag (span : Span) (c : Char) : Reader (Option Flag) :=
  if c = '-' then return none
  else
    match flag? c with
    | some f => return some f
    | none => failAt .flagUnknown span

def note (seen : List (Option Flag × Span)) (f : Option Flag) (span : Span) :
    Reader (List (Option Flag × Span)) := fun s =>
  match seen.find? (·.1 = f) with
  | none => .ok (seen ++ [(f, span)], s)
  | some (_, earlier) =>
    let cause := if f.isNone then Cause.flagNegatedTwice else .flagTwice
    .error ⟨s.source, cause, span, some earlier⟩

def flagsFrom : Nat → List (Option Flag × Span) → Reader (List (Option Flag × Span))
  | 0, _ => do failAt .flagEnd (← spot)
  | fuel + 1, seen => do
    match ← peek with
    | none => failAt .flagEnd (← spot)
    | some c =>
      if c = ':' ∨ c = ')' then return seen
      else
        let span ← spanNext
        let seen ← note seen (← signOrFlag span c) span
        if !(← bump) then failAt .flagEnd (← spot)
        flagsFrom fuel seen

def flags : Reader FlagChange := do
  let seen ← flagsFrom ((← get).rest.length + 1) []
  match seen.getLast? with
  | some (none, span) => failAt .flagDangling span
  | _ =>
    let on := seen.takeWhile (·.1.isSome)
    return ⟨on.filterMap (·.1), (seen.drop on.length).filterMap (·.1)⟩

def isNameChar (first : Bool) (c : Char) : Bool :=
  c = '_' || Unicode.alphabetic.holds c.toNat ||
    !first && (c = '.' || c = '[' || c = ']' || Unicode.numeric.holds c.toNat)

def nameChars : Nat → List Char → Reader (List Char)
  | 0, _ => do failAt .nameEnd (← spot)
  | fuel + 1, done => do
    match ← peek with
    | none => failAt .nameEnd (← spot)
    | some '>' => return done.reverse
    | some c =>
      if isNameChar done.isEmpty c then do
        let _ ← bump
        nameChars fuel (c :: done)
      else failAt .nameCharacter (← spanNext)

def groupName : Reader Unit := do
  let start ← here
  let name : String := .ofList (← nameChars ((← get).rest.length + 1) [])
  let span ← since start
  let _ ← bump
  if name = "" then failAt .nameEmpty span
  let s ← get
  match s.names.find? (·.1 = name) with
  | some (_, earlier) => throw ⟨s.source, .nameTwice, span, some earlier⟩
  | none => set { s with names := s.names ++ [(name, span)] }

inductive Opening where
  | flags (change : FlagChange)
  | group (change : Option FlagChange)

def groupOpening : Reader Opening := do
  let whole ← spanNext
  let _ ← bump
  bumpFree
  let inside ← spot
  for ahead in ["?=", "?!", "?<=", "?<!"] do
    if ← bumpWord ahead then failAt .lookAround (← since whole.start)
  if (← bumpWord "?P<") || (← bumpWord "?<") then
    groupName
    return .group none
  else if ← bumpWord "?" then
    if (← peek).isNone then failAt .groupUnclosed whole
    let change ← flags
    let closed := (← peek) == some ')'
    let _ ← bump
    if closed then
      if change.on.isEmpty ∧ change.off.isEmpty then failAt .repetitionOfNothing inside
      return .flags change
    else return .group (some change)
  else return .group none

-- ---------------------------------------------------------------------------
-- Repetitions and the whole
-- ---------------------------------------------------------------------------

/-- A part that can be repeated, and those before it; `parts` stands reversed. -/
def repeatable (parts : List Term) : Reader (Term × List Term) := do
  match parts with
  | [] | .empty _ :: _ | .flags .. :: _ => failAt .repetitionOfNothing (← spot)
  | last :: earlier => return (last, earlier)

/-- A question mark after a repetition, which asks for the fewest turns. -/
def lazily : Reader Bool := do
  if (← peek) = some '?' then
    let _ ← bump
    return true
  else return false

def counts (start : Point) : Reader (Nat × Option Nat) := do
  if !(← bumpOver) then failAt .countUnclosed (← since start)
  let least ← decimal
  match ← peek with
  | none => failAt .countUnclosed (← since start)
  | some ',' => do
    if !(← bumpOver) then failAt .countUnclosed (← since start)
    if (← peek) = some '\x7d' then return (← settled least, none)
    else
      let least ← settled least
      return (least, some (← settled (← decimal)))
  | some _ => do
    let n ← settled least
    return (n, some n)

def counted (parts : List Term) : Reader (List Term) := do
  let start ← here
  let (last, earlier) ← repeatable parts
  let (least, most) ← counts start
  if (← peek) ≠ some '\x7d' then failAt .countUnclosed (← since start)
  let lazy ← if ← bumpOver then lazily else pure false
  let span ← since start
  if most.any (· < least) then failAt .countOrder span
  return .repetition ⟨last.span.start, span.stop⟩ least most lazy last :: earlier

def uncounted (least : Nat) (most : Option Nat) (parts : List Term) : Reader (List Term) := do
  let (last, earlier) ← repeatable parts
  let _ ← bump
  let lazy ← lazily
  return .repetition ⟨last.span.start, ← here⟩ least most lazy last :: earlier

def literal (c : Char) : Reader Term := do
  let span ← spanNext
  let _ ← bump
  return match c with
    | '.' => .dot span
    | '^' => .assertion span .lineStart
    | '$' => .assertion span .lineEnd
    | c => .literal ⟨span, c, false⟩

def concatOf (span : Span) : List Term → Term
  | [] => .empty span
  | [t] => t
  | parts => .concat span parts.reverse

/-- What is read of a group or of the whole: the finished branches and the parts of the
open one, both reversed, with the points where they begin. -/
structure Pending where
  start : Point
  branches : List Term
  branchStart : Point
  parts : List Term

def Pending.finish (p : Pending) (stop : Point) : Term :=
  let last := concatOf ⟨p.branchStart, stop⟩ p.parts
  if p.branches.isEmpty then last
  else .alternation ⟨p.start, stop⟩ (last :: p.branches).reverse

def Pending.next (p : Pending) (stop after : Point) : Pending :=
  ⟨p.start, concatOf ⟨p.branchStart, stop⟩ p.parts :: p.branches, after, []⟩

/-- Up to the end of the pattern, or of the group opened at `opening`. -/
def terms : Nat → Option Span → Pending → Reader Term
  | 0, _, p => do return p.finish (← here)
  | fuel + 1, opening, p => do
    let go (parts : List Term) : Reader Term := terms fuel opening { p with parts }
    bumpFree
    match ← peek, opening with
    | none, some span => failAt .groupUnclosed span
    | some ')', none => failAt .groupUnopened (← spanNext)
    | none, none | some ')', some _ => return p.finish (← here)
    | some '|', _ => do
      let stop ← here
      let _ ← bump
      terms fuel opening (p.next stop (← here))
    | some '(', _ => do
      let whole ← spanNext
      let outer := (← get).free
      match ← groupOpening with
      | .flags change => do
        modify fun s => { s with free := (change.find? .free).getD s.free }
        go (.flags (← since whole.start) change :: p.parts)
      | .group change => do
        modify fun s => { s with free := (change.bind (·.find? .free)).getD s.free }
        let start ← here
        let inner ← terms fuel (some whole) ⟨start, [], start, []⟩
        modify fun s => { s with free := outer }
        let _ ← bump
        go (.group (← since whole.start) change inner :: p.parts)
    | some '[', _ => do
      let (span, negated, inner) ← bracketed fuel
      go (.bracketed span negated inner :: p.parts)
    | some '?', _ => do go (← uncounted 0 (some 1) p.parts)
    | some '*', _ => do go (← uncounted 0 none p.parts)
    | some '+', _ => do go (← uncounted 1 none p.parts)
    | some '\x7b', _ => do go (← counted p.parts)
    | some '\\', _ => do go ((← escape) :: p.parts)
    | some c, _ => do go ((← literal c) :: p.parts)

end Reader

def Term.ofText (source : String) : Except Error Term := do
  let start : Scan := ⟨source, source.toList, .first, false, []⟩
  let t ← (Reader.terms (2 * source.length + 8) none ⟨.first, [], .first, []⟩).run' start
  match t.tooDeep? maxNesting with
  | some span => throw ⟨source, .nestedTooDeep, span, none⟩
  | none => return t

end Targeting.Pattern
