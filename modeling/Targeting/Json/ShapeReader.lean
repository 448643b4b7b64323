import Targeting.Json.Shape
import Targeting.Json.Skip

/-!
# Reading texts of a known shape

The text is held against the shape while it is read, so that a mismatch has a place.
Members that the shape does not know are passed over. A field twice in a record is a
fault; in a table the last value of a key counts.
-/

namespace Targeting

open Json (Reader)
open Json.Reader

namespace Json.Reader

def mismatch {α : Type} (m : Mismatch) : Reader α := fail (.shape m.message)

/-- A value of another kind. A scalar is read first; a bracket is not passed over. -/
def wrongKind (fuel : Nat) (wanted : String) (c : Char) : Reader Json := do
  if c = '[' then mismatch (.kind (.array []) wanted)
  else if c = '\x7b' then mismatch (.kind (.object []) wanted)
  else
    match scalar? fuel c with
    | some reader => mismatch (.kind (← reader) wanted)
    | none => failAhead .wantValue

def tableRest (entry : Reader Json) : Nat → Bool → Assoc Json → Reader Json
  | 0, _, _ => failAhead .endInObject
  | fuel + 1, first, done => do
    if ← hasMember first then
      let name ← text fuel
      colon
      tableRest entry fuel false (Assoc.put done name (← entry))
    else do skip; pure (.object done)

def recordRest (field : String → Option (Reader Json)) : Nat → Bool → Assoc Json → Reader Json
  | 0, _, _ => failAhead .endInObject
  | fuel + 1, first, done => do
    if ← hasMember first then
      let name ← text fuel
      match field name with
      | none => do
        colon
        skipValue fuel none []
        recordRest field fuel false done
      | some reader =>
        if (Assoc.get? done name).isSome then do
          if (← peekToken) = some '\x7d' then skip
          mismatch (.repeated name)
        else do
          colon
          recordRest field fuel false (Assoc.put done name (← reader))
    else do skip; pure (.object done)

def closeList : Reader Unit := do
  match ← peekToken with
  | none => failAhead .endInList
  | some ']' => skip
  | some ',' => do
    skip
    failAhead (if (← peekToken) = some ']' then .trailingComma else .trailingCharacters)
  | some _ => failAhead .trailingCharacters

/-- The fields of a record given as a list, each with whether it is required. -/
def fieldsRest (wanted : String) : List (Bool × Reader Json) → Bool → List Json → Reader Json
  | [], _, done => do closeList; pure (.array done.reverse)
  | (required, reader) :: rest, first, done => do
    if ← hasItem first then fieldsRest wanted rest false ((← reader) :: done)
    else if required then do skip; mismatch (.length done.length wanted)
    else fieldsRest wanted rest first done

end Json.Reader

mutual
/-- The part of a value that the shape knows. -/
def Shape.reader (fuel : Nat) : Shape → Reader Json
  | .optional inner => do
    if (← peekToken) = some 'n' then do skip; word "ull".toList; pure .null
    else inner.reader fuel
  | .table inner => do
    match ← peekToken with
    | none => failAhead .endInValue
    | some '\x7b' => do skip; tableRest (inner.reader fuel) fuel true []
    | some c => wrongKind fuel (Shape.wanted (.table inner)) c
  | .record title layout => do
    match ← peekToken with
    | none => failAhead .endInValue
    | some '[' => do
      skip
      fieldsRest (Layout.wanted title layout.size) (layout.readers fuel) true []
    | some '\x7b' => do skip; recordRest (layout.reader? fuel) fuel true []
    | some c => wrongKind fuel (Shape.wanted (.record title layout)) c
  | shape => do
    match ← peekToken with
    | none => failAhead .endInValue
    | some c =>
      match scalar? fuel c with
      | none => wrongKind fuel shape.wanted c
      | some reader => do
        let v ← reader
        match shape.decode v with
        | .ok _ => pure v
        | .error m => mismatch m
def Layout.reader? (fuel : Nat) : Layout → String → Option (Reader Json)
  | .nil, _ => none
  | .cons name _ shape rest, key =>
    if name = key then some (shape.reader fuel) else rest.reader? fuel key
def Layout.readers (fuel : Nat) : Layout → List (Bool × Reader Json)
  | .nil => []
  | .cons _ required shape rest => (required, shape.reader fuel) :: rest.readers fuel
end

def Shape.ofText (shape : Shape) (text : String) : Except Json.Fault shape.Content := do
  let v ← Reader.run (shape.reader (steps text)) text
  (shape.decode v).mapError fun m => ⟨.shape m.message, 0⟩

end Targeting
