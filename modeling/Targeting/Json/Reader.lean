import Targeting.Json
import Targeting.Json.Fault
import Targeting.Text.Ascii

/-!
# Reading JSON texts

A reader passes over characters and keeps its byte offset, so that a fault can be
placed. Some faults are placed at the reader, others one byte ahead of it, on the
character that is the trouble. The nesting of lists and objects is limited.
-/

namespace Targeting.Json

structure Cursor where
  rest : List Char
  offset : Nat

def Cursor.ofText (text : String) : Cursor := ⟨text.toList, 0⟩

abbrev Reader := StateT Cursor (Except Fault)

namespace Reader

variable {α : Type}

def fail (cause : Cause) : Reader α := fun c => .error ⟨cause, c.offset⟩

/-- A fault on the next character, or at the end of the text. -/
def failAhead (cause : Cause) : Reader α := fun c =>
  .error ⟨cause, if c.rest.isEmpty then c.offset else c.offset + 1⟩

def peek : Reader (Option Char) := fun c => .ok (c.rest.head?, c)

def skip : Reader Unit := fun c =>
  match c.rest with
  | [] => .ok ((), c)
  | x :: rest => .ok ((), ⟨rest, c.offset + x.utf8Size⟩)

def isBlank (c : Char) : Bool := c = ' ' || c = '\n' || c = '\t' || c = '\r'

def blanksFrom : List Char → Nat → Cursor
  | [], offset => ⟨[], offset⟩
  | x :: rest, offset => if isBlank x then blanksFrom rest (offset + 1) else ⟨x :: rest, offset⟩

/-- The next character that is not blank, not passed over. -/
def peekToken : Reader (Option Char) := fun c =>
  let c := blanksFrom c.rest c.offset
  .ok (c.rest.head?, c)

def word : List Char → Reader Unit
  | [] => pure ()
  | x :: rest => do
    match ← peek with
    | none => fail .endInValue
    | some y => if x = y then do skip; word rest else failAhead .wantIdent

-- ---------------------------------------------------------------------------
-- Numbers
-- ---------------------------------------------------------------------------

def isDigit (c : Char) : Bool := '0' ≤ c && c ≤ '9'

def digits : Reader (List Char) := fun c =>
  let ds := c.rest.takeWhile isDigit
  .ok (ds, ⟨c.rest.drop ds.length, c.offset + ds.length⟩)

/-- Appends digits as long as the number stays within `limit`; also the count of those
that no longer fit. -/
def fit (limit : Nat) : Nat → List Char → Nat × Nat
  | n, [] => (n, 0)
  | n, d :: rest =>
    let m := n * 10 + (d.toNat - '0'.toNat)
    if m ≤ limit then fit limit m rest else (n, rest.length + 1)

def word64 : Nat := 0xFFFFFFFFFFFFFFFF

def word31 : Nat := 0x7FFFFFFF

def tenTo (n : Nat) : Float := Float.ofScientific 1 false n

/-- `significand * 10 ^ exponent`: the significand rounded, then scaled by one rounded
power of ten, or by two where one does not reach. -/
def scaled (significand : Nat) (exponent : Int) : Option Float :=
  let f := significand.toUInt64.toFloat
  let n := exponent.natAbs
  if 0 ≤ exponent then
    if n ≤ 308 then
      let x := f * tenTo n
      if x.isInf then none else some x
    else if significand = 0 then some 0.0 else none
  else if n ≤ 308 then some (f / tenTo n)
  else if n ≤ 616 then some (f / tenTo 308 / tenTo (n - 308))
  else some 0.0

def signed (positive : Bool) (x : Float) : Float := if positive then x else -x

def real (positive : Bool) (significand : Nat) (exponent : Int) : Reader Json :=
  match scaled significand exponent with
  | some x => pure (.real (signed positive x))
  | none => fail .numberRange

def exponentPart (positive : Bool) (significand : Nat) (exponent : Int) : Reader Json := do
  skip
  let up ← match ← peek with
    | some '+' => do skip; pure true
    | some '-' => do skip; pure false
    | _ => pure true
  match ← peek with
  | none => fail .endInValue
  | some c => if isDigit c then pure () else failAhead .badNumber
  let start ← get
  let ds ← digits
  let (size, left) := fit word31 0 ds
  if left = 0 then
    real positive significand (if up then exponent + size else exponent - size)
  else if significand ≠ 0 ∧ up then
    -- the digit that no longer fits is passed over
    throw ⟨.numberRange, start.offset + (ds.length - left) + 1⟩
  else
    pure (.real (signed positive 0.0))

/-- What follows the digits of the integer part; `left` of them did not fit. -/
def afterInteger (positive : Bool) (significand left : Nat) : Reader Json := do
  match ← peek with
  | some '.' => do
    skip
    let ds ← digits
    if ds.isEmpty then
      failAhead (if (← peek).isSome then .badNumber else .endInValue)
    else
      let (longer, dropped) := fit word64 significand ds
      let exponent : Int := left - (ds.length - dropped : Nat)
      match ← peek with
      | some 'e' | some 'E' => exponentPart positive longer exponent
      | _ => real positive longer exponent
  | some 'e' | some 'E' => exponentPart positive significand left
  | _ =>
    if left ≠ 0 then real positive significand left
    else if positive then pure (.integer significand)
    else if significand = 0 ∨ 0x8000000000000000 < significand then
      pure (.real (-(significand.toUInt64.toFloat)))
    else pure (.integer (-(significand : Int)))

def number (positive : Bool) : Reader Json := do
  match ← peek with
  | none => fail .endInValue
  | some '0' => do
    skip
    if (← peek).any isDigit then failAhead .badNumber else afterInteger positive 0 0
  | some c =>
    if isDigit c then do
      let (significand, left) := fit word64 0 (← digits)
      afterInteger positive significand left
    else failAhead .badNumber

-- ---------------------------------------------------------------------------
-- Texts
-- ---------------------------------------------------------------------------

/-- Four hexadecimal digits; a fault comes after four bytes, whatever they are. -/
def fourHex : Reader Nat := fun c =>
  let ahead := c.rest.take 4
  match ahead.mapM Text.hexValue? with
  | some [a, b, x, y] => .ok (((a * 16 + b) * 16 + x) * 16 + y, ⟨c.rest.drop 4, c.offset + 4⟩)
  | _ =>
    let bytes := ahead.foldl (fun n c => n + c.utf8Size) 0
    if bytes < 4 then .error ⟨.endInText, c.offset + bytes⟩ else .error ⟨.badEscape, c.offset + 4⟩

/-- The second half of a surrogate pair must follow at once. -/
def pairPart (wanted : Char) : Reader Unit := do
  match ← peek with
  | none => fail .endInText
  | some c => if c = wanted then skip else failAhead .brokenSurrogatePair

def unicodeEscape : Reader Char := do
  let first ← fourHex
  if 0xDC00 ≤ first ∧ first ≤ 0xDFFF then fail .loneSurrogate
  else if first < 0xD800 ∨ 0xDBFF < first then pure (Char.ofNat first)
  else do
    pairPart '\\'
    pairPart 'u'
    let second ← fourHex
    if second < 0xDC00 ∨ 0xDFFF < second then fail .loneSurrogate
    else pure (Char.ofNat ((first - 0xD800) * 0x400 + (second - 0xDC00) + 0x10000))

def shortEscape : Char → Option Char
  | '"' => some '"'
  | '\\' => some '\\'
  | '/' => some '/'
  | 'b' => some '\x08'
  | 'f' => some '\x0c'
  | 'n' => some '\n'
  | 'r' => some '\r'
  | 't' => some '\t'
  | _ => none

/-- The rest of a text after its opening quote; what is read so far stands reversed. -/
def textRest : Nat → List Char → Reader String
  | 0, _ => fail .endInText
  | fuel + 1, done => do
    match ← peek with
    | none => fail .endInText
    | some '"' => do skip; pure (.ofList done.reverse)
    | some '\\' => do
      skip
      match ← peek with
      | none => fail .endInText
      | some 'u' => do skip; textRest fuel ((← unicodeEscape) :: done)
      | some c =>
        match shortEscape c with
        | some x => do skip; textRest fuel (x :: done)
        | none => failAhead .badEscape
    | some c => if c < ' ' then failAhead .controlInText else do skip; textRest fuel (c :: done)

def text (fuel : Nat) : Reader String := do
  skip
  textRest fuel []

-- ---------------------------------------------------------------------------
-- Lists and objects
-- ---------------------------------------------------------------------------

/-- Stands before an item or past the end of the list. -/
def hasItem (first : Bool) : Reader Bool := do
  match ← peekToken with
  | none => failAhead .endInList
  | some ']' => pure false
  | some c =>
    if first then pure true
    else if c = ',' then do
      skip
      match ← peekToken with
      | none => failAhead .endInValue
      | some ']' => failAhead .trailingComma
      | some _ => pure true
    else failAhead .wantListComma

def atKey : Option Char → Reader Bool
  | none => failAhead .endInValue
  | some '"' => pure true
  | some '\x7d' => failAhead .trailingComma
  | some _ => failAhead .keyNotText

def hasMember (first : Bool) : Reader Bool := do
  match ← peekToken with
  | none => failAhead .endInObject
  | some '\x7d' => pure false
  | some c =>
    if first then atKey (some c)
    else if c = ',' then do skip; atKey (← peekToken)
    else failAhead .wantObjectComma

def colon : Reader Unit := do
  match ← peekToken with
  | none => failAhead .endInObject
  | some ':' => skip
  | some _ => failAhead .wantColon

def scalar? (fuel : Nat) : Char → Option (Reader Json)
  | 'n' => some do skip; word "ull".toList; pure .null
  | 't' => some do skip; word "rue".toList; pure (.bool true)
  | 'f' => some do skip; word "alse".toList; pure (.bool false)
  | '-' => some do skip; number false
  | '"' => some (.text <$> text fuel)
  | c => if isDigit c then some (number true) else none

mutual
/-- A value in which lists and objects nest less than `depth` deep. -/
def value : Nat → Nat → Reader Json
  | 0, _ => failAhead .endInValue
  | fuel + 1, depth => do
    match ← peekToken with
    | none => failAhead .endInValue
    | some '[' =>
      if depth ≤ 1 then failAhead .tooDeep
      else do skip; .array <$> itemsRest fuel (depth - 1) true []
    | some '\x7b' =>
      if depth ≤ 1 then failAhead .tooDeep
      else do skip; .object <$> membersRest fuel (depth - 1) true []
    | some c =>
      match scalar? fuel c with
      | some reader => reader
      | none => failAhead .wantValue
def itemsRest : Nat → Nat → Bool → List Json → Reader (List Json)
  | 0, _, _, _ => failAhead .endInList
  | fuel + 1, depth, first, done => do
    if ← hasItem first then
      let item ← value fuel depth
      itemsRest fuel depth false (item :: done)
    else do skip; pure done.reverse
def membersRest : Nat → Nat → Bool → Assoc Json → Reader (Assoc Json)
  | 0, _, _, _ => failAhead .endInObject
  | fuel + 1, depth, first, done => do
    if ← hasMember first then
      let name ← text fuel
      colon
      let item ← value fuel depth
      membersRest fuel depth false (Assoc.put done name item)
    else do skip; pure done
end

def finish : Reader Unit := do
  if (← peekToken).isSome then failAhead .trailingCharacters

/-- Every step passes over a character or goes one level down, which bounds the steps. -/
def steps (text : String) : Nat := 2 * text.length + 4

def run (reader : Reader α) (text : String) : Except Fault α :=
  (do let x ← reader; finish; pure x).run' (.ofText text)

end Reader

def maxDepth : Nat := 128

def ofText (text : String) (depth : Nat) : Except Fault Json :=
  Reader.run (Reader.value (Reader.steps text) depth) text

end Targeting.Json
