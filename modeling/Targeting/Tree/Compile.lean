import Targeting.Condition.Compile
import Targeting.Json.Reader
import Targeting.Tree

/-!
# Compiling trees

A node is an object: `and` and `or` hold lists of nodes, `ruleset` any value, every
other member is a rule. Rules under a registered name keep their value only; so do
rules of unknown names. The first offence in the order of the members is reported.
-/

namespace Targeting

/-- A rule is compiled unless its key is registered or unknown. -/
def Rule.compile (registered : List String) (key : String) (raw : Json) :
    Except CompileError Rule :=
  if key ∈ registered then .ok ⟨key, raw, none⟩
  else
    match Condition.Kind.ofName? key with
    | none => .ok ⟨key, raw, none⟩
    | some kind => (Condition.compile kind raw).map fun c => ⟨key, raw, some c⟩

namespace Tree

def withRule (rule : Rule) : Tree → Tree
  | .node rules all any ruleset => .node (rule :: rules) all any ruleset

def withAll (all : List Tree) : Tree → Tree
  | .node rules _ any ruleset => .node rules all any ruleset

def withAny (any : List Tree) : Tree → Tree
  | .node rules all _ ruleset => .node rules all any ruleset

def withRuleset (ruleset : Json) : Tree → Tree
  | .node rules all any _ => .node rules all any (some ruleset)

mutual
def compile (registered : List String) : Json → Except CompileError Tree
  | .null => .ok empty
  | .object members => compileMembers registered members
  | found => .error (.notTree found)
def compileMembers (registered : List String) :
    List (String × Json) → Except CompileError Tree
  | [] => .ok empty
  | (key, raw) :: rest => do
    if key = "and" then
      let all ← compileSubtrees registered key raw
      return withAll all (← compileMembers registered rest)
    else if key = "or" then
      let any ← compileSubtrees registered key raw
      return withAny any (← compileMembers registered rest)
    else if key = "ruleset" then
      return withRuleset raw (← compileMembers registered rest)
    else
      let rule ← Rule.compile registered key raw
      return withRule rule (← compileMembers registered rest)
def compileSubtrees (registered : List String) (key : String) :
    Json → Except CompileError (List Tree)
  | .null => .ok []
  | .array items => compileAll registered items
  | found => .error (.notSubtrees key found)
def compileAll (registered : List String) : List Json → Except CompileError (List Tree)
  | [] => .ok []
  | item :: rest => do
    let t ← compile registered item
    return t :: (← compileAll registered rest)
end

def compileText (registered : List String) (text : String) : Except CompileError Tree :=
  match Json.ofText text Json.maxDepth with
  | .ok v => compile registered v
  | .error fault => .error (.unreadable fault text)

end Tree

end Targeting
