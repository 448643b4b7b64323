/-!
# TOML values

Dates and times are kept as their normal text.
-/

namespace Targeting

inductive Toml where
  | text (value : String)
  | integer (value : Int)
  | real (value : Float)
  | bool (value : Bool)
  | moment (text : String)
  | array (items : List Toml)
  | table (entries : List (String × Toml))

end Targeting
