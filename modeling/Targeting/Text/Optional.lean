import Targeting.Text.Quoted

/-!
# Optional values in logs
-/

namespace Targeting.Text

def optional : Option String → String
  | some text => "Some(" ++ text ++ ")"
  | none => "None"

end Targeting.Text
