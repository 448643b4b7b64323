import Targeting.Condition

/-!
# Targeting trees

A node asks for all of its rules, then for all of the trees in `all`, then for one of
the trees in `any`; an empty `any` asks for nothing. A rule keeps the JSON value it
was made from, for rules that are registered under its key later.
-/

namespace Targeting

structure Rule where
  key : String
  raw : Json
  /-- Missing for keys that are registered or unknown when the tree is compiled. -/
  condition : Option Condition

inductive Tree where
  | node (rules : List Rule) (all any : List Tree) (ruleset : Option Json)

namespace Tree

def rules : Tree → List Rule
  | .node rules _ _ _ => rules

def all : Tree → List Tree
  | .node _ all _ _ => all

def any : Tree → List Tree
  | .node _ _ any _ => any

/-- The name of a rule set, which is expanded elsewhere. -/
def ruleset : Tree → Option Json
  | .node _ _ _ ruleset => ruleset

def empty : Tree := .node [] [] [] none

/-- Asks for nothing, whatever rule set it names. -/
def isEmpty (t : Tree) : Bool := t.rules.isEmpty && t.all.isEmpty && t.any.isEmpty

def rule? (t : Tree) (key : String) : Option Rule := t.rules.find? (·.key = key)

end Tree

end Targeting
