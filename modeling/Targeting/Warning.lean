import Targeting.Json.Text

/-!
# Warnings

A rule that cannot be decided passes, with a warning: a registered rule that answers
no Boolean, a key without a meaning, a condition that does not compile when its turn
comes.
-/

namespace Targeting

inductive Warning where
  | invalidReturn (rule : String) (value : Json)
  | missingEvaluator (rule : String)
  | invalidCriteria (rule : String) (error : String)

namespace Warning

def rule : Warning → String
  | .invalidReturn rule _ => rule
  | .missingEvaluator rule => rule
  | .invalidCriteria rule _ => rule

def message : Warning → String
  | .invalidReturn rule value =>
    "Custom rule '" ++ rule ++ "' ignored! It returned " ++ value.toText ++ " (type: " ++
      value.typeName ++ ") when it should've returned a boolean."
  | .missingEvaluator rule =>
    "Callback to evaluate rule '" ++ rule ++ "' not found. Rule ignored."
  | .invalidCriteria rule error =>
    "Criteria for rule '" ++ rule ++ "' are invalid (" ++ error ++ "). Rule ignored."

end Warning

end Targeting
