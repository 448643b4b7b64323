import Targeting.Unicode.Ranges

/-!
# White space

The characters with the property `White_Space`, and their removal from both ends.
-/

namespace Targeting.Unicode

def spaceTable : List String :=
  ["9-d 20 85 a0 1680 2000-200a 2028-2029 202f 205f 3000"]

def space : Ranges := .parse spaceTable

def isSpace (c : Char) : Bool := space.holds c.toNat

def trim (text : String) : String :=
  .ofList ((text.toList.dropWhile isSpace).reverse.dropWhile isSpace).reverse

end Targeting.Unicode
