/-!
# What stops the reading of a JSON text

A fault is a cause at a byte offset. Its message names the line and the column, both
counted from one; a column counts the bytes since the last line break.
-/

namespace Targeting.Json

inductive Cause where
  | endInList | endInObject | endInText | endInValue
  | wantColon | wantListComma | wantObjectComma | wantIdent | wantValue
  | badEscape | badNumber | numberRange
  | controlInText | keyNotText | loneSurrogate | trailingComma | trailingCharacters
  | brokenSurrogatePair | tooDeep
  /-- The text is JSON but not of the wanted shape. -/
  | shape (message : String)

def Cause.message : Cause → String
  | .endInList => "EOF while parsing a list"
  | .endInObject => "EOF while parsing an object"
  | .endInText => "EOF while parsing a string"
  | .endInValue => "EOF while parsing a value"
  | .wantColon => "expected `:`"
  | .wantListComma => "expected `,` or `]`"
  | .wantObjectComma => "expected `,` or `\x7d`"
  | .wantIdent => "expected ident"
  | .wantValue => "expected value"
  | .badEscape => "invalid escape"
  | .badNumber => "invalid number"
  | .numberRange => "number out of range"
  | .controlInText => "control character (\\u0000-\\u001F) found while parsing a string"
  | .keyNotText => "key must be a string"
  | .loneSurrogate => "lone leading surrogate in hex escape"
  | .trailingComma => "trailing comma"
  | .trailingCharacters => "trailing characters"
  | .brokenSurrogatePair => "unexpected end of hex escape"
  | .tooDeep => "recursion limit exceeded"
  | .shape message => message

structure Fault where
  cause : Cause
  offset : Nat

structure Place where
  line : Nat
  column : Nat

def Place.walk (place : Place) (passed : Nat) (offset : Nat) : List Char → Place
  | [] => place
  | c :: rest =>
    let passed' := passed + c.utf8Size
    if offset < passed' then ⟨place.line, place.column + (offset - passed)⟩
    else if c = '\n' then Place.walk ⟨place.line + 1, 0⟩ passed' offset rest
    else Place.walk ⟨place.line, place.column + c.utf8Size⟩ passed' offset rest

def Place.ofOffset (text : String) (offset : Nat) : Place :=
  Place.walk ⟨1, 0⟩ 0 offset text.toList

def Fault.message (fault : Fault) (text : String) : String :=
  let place := Place.ofOffset text fault.offset
  fault.cause.message ++ " at line " ++ toString place.line ++ " column " ++ toString place.column

end Targeting.Json
