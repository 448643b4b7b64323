import Targeting.Assoc

/-!
# JSON values

An object keeps its members in order. Integers and reals are different numbers:
`1` is not `1.0`.
-/

namespace Targeting

inductive Json where
  | null
  | bool (value : Bool)
  | integer (value : Int)
  | real (value : Float)
  | text (value : String)
  | array (items : List Json)
  | object (members : List (String × Json))
  deriving Inhabited

namespace Json

def typeName : Json → String
  | .null => "null"
  | .bool _ => "boolean"
  | .integer _ | .real _ => "number"
  | .text _ => "string"
  | .array _ => "array"
  | .object _ => "object"

/-- False are `null`, `false`, a number equal to zero and the empty text. -/
def truthy : Json → Bool
  | .null => false
  | .bool b => b
  | .integer n => n != 0
  | .real x => x != 0.0 && !x.isNaN
  | .text s => s != ""
  | .array _ | .object _ => true

def member? : Json → String → Option Json
  | .object members, name => Assoc.get? members name
  | _, _ => none

-- Every object in the value has each of its names once.
mutual
def Distinct : Json → Prop
  | .array items => DistinctItems items
  | .object members => (Assoc.keys members).Nodup ∧ DistinctMembers members
  | _ => True
def DistinctItems : List Json → Prop
  | [] => True
  | item :: rest => item.Distinct ∧ DistinctItems rest
def DistinctMembers : List (String × Json) → Prop
  | [] => True
  | (_, value) :: rest => value.Distinct ∧ DistinctMembers rest
end

end Json

end Targeting
