import Targeting.Decimal.Style
import Targeting.Json
import Targeting.Text.Ascii

/-!
# JSON texts

The compact text of a value, without blanks, and the laid-out text of one record, a
member a line. Only the quote, the backslash and the controls below the blank are
escaped.
-/

namespace Targeting.Json

def escaped (c : Char) : String :=
  match c with
  | '"' => "\\\""
  | '\\' => "\\\\"
  | '\x08' => "\\b"
  | '\x0c' => "\\f"
  | '\n' => "\\n"
  | '\r' => "\\r"
  | '\t' => "\\t"
  | c => if c < ' ' then "\\u" ++ Text.padLeft 4 '0' (Text.hex c.toNat) else c.toString

def quote (text : String) : String :=
  "\"" ++ text.toList.foldl (fun out c => out ++ escaped c) "" ++ "\""

mutual
def toText : Json → String
  | .null => "null"
  | .bool b => if b then "true" else "false"
  | .integer n => toString n
  | .real x => Decimal.json.write x
  | .text s => quote s
  | .array items => "[" ++ itemsText items ++ "]"
  | .object members => "\x7b" ++ membersText members ++ "\x7d"
def itemsText : List Json → String
  | [] => ""
  | [item] => item.toText
  | item :: rest => item.toText ++ "," ++ itemsText rest
def membersText : List (String × Json) → String
  | [] => ""
  | [(name, value)] => quote name ++ ":" ++ value.toText
  | (name, value) :: rest => quote name ++ ":" ++ value.toText ++ "," ++ membersText rest
end

/-- A member a line, two blanks in. -/
def laidOut (members : List (String × Json)) : String :=
  let lines := members.map fun (name, value) => "  " ++ quote name ++ ": " ++ value.toText
  "\x7b\n" ++ String.intercalate ",\n" lines ++ "\n\x7d"

end Targeting.Json
