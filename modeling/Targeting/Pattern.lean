import Targeting.Pattern.Match
import Targeting.Pattern.Reader
import Targeting.Pattern.Size

/-!
# Patterns

A pattern is a text with its meaning. It matches a text of which some part matches.
-/

namespace Targeting

structure Pattern where
  source : String
  node : Pattern.Node

namespace Pattern

inductive Refusal where
  | malformed (error : Error)
  | tooLarge

def Refusal.message : Refusal → String
  | .malformed error => error.message
  | .tooLarge => "Compiled regex exceeds size limit of " ++ toString maxSize ++ " bytes."

def read (source : String) : Except Error Node := do
  let t ← Term.ofText source
  match t.resolve .initial with
  | .ok (node, _) => return node
  | .error (cause, span) => throw ⟨source, cause, span, none⟩

def compile (source : String) : Except Refusal Pattern := do
  let node ← (read source).mapError .malformed
  if !node.fits then throw .tooLarge
  return ⟨source, node⟩

def isMatch (p : Pattern) (text : String) : Bool := p.node.matchesIn text.toList

end Pattern

end Targeting
