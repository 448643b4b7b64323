/-!
# Splitting texts
-/

namespace Targeting.Text

/-- The pieces of the text, the first of which has begun with some characters, last
one first. -/
def splitFrom (separator : Char) : List Char → List Char → List String
  | piece, [] => [.ofList piece.reverse]
  | piece, c :: rest =>
    if c = separator then .ofList piece.reverse :: splitFrom separator [] rest
    else splitFrom separator (c :: piece) rest

/-- The pieces between the separators, one more than there are separators. -/
def split (separator : Char) (text : String) : List String := splitFrom separator [] text.toList

/-- The text with the margin before all its lines but the first. -/
def setIn (margin text : String) : String :=
  String.intercalate ("\n" ++ margin) (split '\n' text)

end Targeting.Text
