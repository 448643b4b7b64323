import Targeting.Text.Ascii
import Targeting.Unicode.Printing

/-!
# Quoted text

A text in double quotes, on one line and with nothing invisible in it: the quote, the
backslash and the common controls have short escapes, every other character that does
not show on its own is written by its code point.
-/

namespace Targeting.Text

def quotedChar (c : Char) : String :=
  match c with
  | '\x00' => "\\0"
  | '\t' => "\\t"
  | '\r' => "\\r"
  | '\n' => "\\n"
  | '"' => "\\\""
  | '\\' => "\\\\"
  | c => if Unicode.showsAlone c then c.toString else "\\u\x7b" ++ hex c.toNat ++ "\x7d"

def quoted (text : String) : String :=
  "\"" ++ text.toList.foldl (fun out c => out ++ quotedChar c) "" ++ "\""

end Targeting.Text
