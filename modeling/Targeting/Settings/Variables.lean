import Targeting.Decimal.Read
import Targeting.Settings.Item
import Targeting.Unicode.Letter

/-!
# Settings in the environment

Variables that begin with `splitter_` in any case hold settings: the rest of the name
in lower case is the key, with dots for double underscores. A value is a Boolean in any
case, a whole number, a number, or else the text it is.
-/

namespace Targeting.Settings.Variables

def origin : String := "the environment"

def mark : List Char := "splitter_".toList

def dotted : List Char → List Char
  | '_' :: '_' :: rest => '.' :: dotted rest
  | c :: rest => c :: dotted rest
  | [] => []

def key? (name : String) : Option String :=
  let lower := (Unicode.lower name).toList
  if mark.isPrefixOf lower then some (.ofList (dotted (lower.drop mark.length))) else none

def leaf (value : String) : Leaf :=
  let lower := Unicode.lower value
  if lower = "true" then .flag true
  else if lower = "false" then .flag false
  else
    match Decimal.integer? value, Decimal.float? value with
    | some n, _ => .whole n
    | none, some x => .real x
    | none, none => .text value

/-- The entries of the variables; of two with one key the later counts. -/
def entries (environment : List (String × String)) : List (String × Item) :=
  Assoc.ofList <| environment.filterMap fun (name, value) =>
    (key? name).map fun key => (key, .leaf origin (leaf value))

end Targeting.Settings.Variables
