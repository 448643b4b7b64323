import Targeting.Unicode.Age
import Targeting.Unicode.Break
import Targeting.Unicode.Category
import Targeting.Unicode.Property
import Targeting.Unicode.Script

/-!
# Asking for properties by name

Names are compared without case, blanks, underscores and hyphens, and without a
leading `is`. A name alone may be a property, a category or a script. The tables are
those of the sixteenth version of the standard.
-/

namespace Targeting.Unicode

def simplified (name : String) : String :=
  let lower := name.toList.map Char.toLower
  let (rest, isForm) := match lower with
    | 'i' :: 's' :: rest => (rest, true)
    | rest => (rest, false)
  let kept := rest.filter fun c => c ≠ ' ' && c ≠ '_' && c ≠ '-' && c.toNat < 128
  -- what is left of `isc` is a category of its own
  if isForm ∧ kept = ['c'] then "isc" else .ofList kept

def find? (tables : List (List String × List String)) (name : String) : Option Ranges :=
  (tables.find? (·.1.contains name)).map fun entry => .parse entry.2

inductive Failure where
  | unknown
  | unknownValue
  deriving DecidableEq

def category? (name : String) : Option (Except Failure Ranges) :=
  if name = "any" then some (.ok [(0, 0x10FFFF)])
  else if name = "ascii" then some (.ok [(0, 127)])
  else if name = "assigned" then
    (find? categories "cn").map fun unassigned => .ok unassigned.complement
  else if surrogateNames.contains name then some (.error .unknownValue)
  else
    match find? categories name with
    | some ranges => some (.ok ranges)
    | none =>
      (categoryGroups.find? (·.1.contains name)).map fun group =>
        .ok (group.2.flatMap fun part => (find? categories part).getD [])

def script? (name : String) : Option (Except Failure Ranges) :=
  if bareScriptNames.contains name then some (.error .unknownValue)
  else (find? scripts name).map .ok

def extendedScript? (name : String) : Option Ranges :=
  (find? scriptExtensions name).or (find? scripts name)

/-- Names that stand for a property and for a category mean the category. -/
def categoryFirst : List String := ["cf", "lc", "sc"]

def property? (name : String) : Option (Except Failure Ranges) :=
  match find? properties name with
  | some ranges => some (.ok ranges)
  | none => if valuedProperties.contains name then some (.error .unknown) else none

/-- The characters with the property, of the category or in the script of that name. -/
def byName (name : String) : Except Failure Ranges :=
  let name := simplified name
  let asProperty := if categoryFirst.contains name then none else property? name
  ((asProperty.or (category? name)).or (script? name)).getD (.error .unknown)

def upToAge : List (List String × List String) → String → Option Ranges
  | [], _ => none
  | (names, table) :: rest, name =>
    if names.contains name then some (.parse table)
    else (upToAge rest name).map (.parse table ++ ·)

/-- The characters for which the property of that name has the value. -/
def byValue (name value : String) : Except Failure Ranges :=
  let name := simplified name
  let value := simplified value
  let known (answer : Option Ranges) := answer.elim (.error .unknownValue) Except.ok
  match name with
  | "gc" | "generalcategory" => (category? value).getD (.error .unknownValue)
  | "sc" | "script" => (script? value).getD (.error .unknownValue)
  | "scx" | "scriptextensions" => known (extendedScript? value)
  | "age" => known (upToAge ages value)
  | "gcb" | "graphemeclusterbreak" => known (find? clusterBreaks value)
  | "wb" | "wordbreak" => known (find? wordBreaks value)
  | "sb" | "sentencebreak" => known (find? sentenceBreaks value)
  | _ => if (property? name).isSome then .error .unknownValue else .error .unknown

def word : Ranges := .parse wordTable

def digit : Ranges := (find? categories "nd").getD []

end Targeting.Unicode
