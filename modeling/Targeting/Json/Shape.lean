import Targeting.Decimal.Read
import Targeting.Json.Text
import Targeting.Text.Quoted

/-!
# Shapes of JSON values

A shape says what a value must look like, its content what is then known of it. A
record is an object whose other members are ignored, or the list of its fields in
order; from the end of the list optional fields may be missing. The first offence in
the order of the value is reported, missing fields after all others.
-/

namespace Targeting

mutual
inductive Shape where
  | text
  | flag
  | integer
  | real
  | optional (inner : Shape)
  | table (inner : Shape)
  | record (title : String) (layout : Layout)
inductive Layout where
  | nil
  | cons (name : String) (required : Bool) (shape : Shape) (rest : Layout)
end

inductive Mismatch where
  | kind (found : Json) (wanted : String)
  | range (found : Json) (wanted : String)
  | length (found : Nat) (wanted : String)
  | missing (field : String)
  | repeated (field : String)

mutual
@[reducible] def Shape.Content : Shape → Type
  | .text => String
  | .flag => Bool
  | .integer => Int
  | .real => Float
  | .optional inner => Option inner.Content
  | .table inner => List (String × inner.Content)
  | .record _ layout => layout.Content
/-- An optional field that is missing has no content. -/
@[reducible] def Layout.Content : Layout → Type
  | .nil => Unit
  | .cons _ true shape rest => shape.Content × rest.Content
  | .cons _ false shape rest => Option shape.Content × rest.Content
end

def Json.described : Json → String
  | .null => "null"
  | .bool b => "boolean `" ++ (if b then "true" else "false") ++ "`"
  | .integer n => "integer `" ++ toString n ++ "`"
  | .real x => "floating point `" ++ Decimal.json.write x ++ "`"
  | .text s => "string " ++ Text.quoted s
  | .array _ => "sequence"
  | .object _ => "map"

def Mismatch.message : Mismatch → String
  | .kind found wanted => "invalid type: " ++ found.described ++ ", expected " ++ wanted
  | .range found wanted => "invalid value: " ++ found.described ++ ", expected " ++ wanted
  | .length found wanted => "invalid length " ++ toString found ++ ", expected " ++ wanted
  | .missing field => "missing field `" ++ field ++ "`"
  | .repeated field => "duplicate field `" ++ field ++ "`"

def Layout.size : Layout → Nat
  | .nil => 0
  | .cons _ _ _ rest => rest.size + 1

def Layout.names : Layout → List String
  | .nil => []
  | .cons name _ _ rest => name :: rest.names

def Shape.wanted : Shape → String
  | .text => "a string"
  | .flag => "a boolean"
  | .integer => "i64"
  | .real => "f64"
  | .optional inner => inner.wanted
  | .table _ => "a map"
  | .record title _ => "struct " ++ title

/-- What a list that is too short for a record of `size` fields should have been. -/
def Layout.wanted (title : String) (size : Nat) : String :=
  "struct " ++ title ++ " with " ++ toString size ++ (if size = 1 then " element" else " elements")

mutual
def Shape.decode : (shape : Shape) → Json → Except Mismatch shape.Content
  | .text, .text s => .ok s
  | .flag, .bool b => .ok b
  | .integer, .integer n =>
    if Decimal.fitsWord n then .ok n else .error (.range (.integer n) Shape.integer.wanted)
  | .real, .integer n => .ok (Float.ofInt n)
  | .real, .real x => .ok x
  | .optional _, .null => .ok none
  | .optional inner, v => (inner.decode v).map some
  | .table inner, .object members =>
    members.mapM fun (name, v) => (inner.decode v).map fun x => (name, x)
  | .record _ layout, .object members => do
    -- in the order of the members first, for the one that offends
    members.forM fun (name, v) => layout.check name v
    layout.collect members
  | .record title layout, .array items =>
    layout.align items 0 (Layout.wanted title layout.size) items.length
  | shape, v => .error (.kind v shape.wanted)
def Layout.check : Layout → String → Json → Except Mismatch Unit
  | .nil, _, _ => .ok ()
  | .cons name _ shape rest, key, v =>
    if name = key then (shape.decode v).map fun _ => () else rest.check key v
def Layout.collect : (layout : Layout) → List (String × Json) → Except Mismatch layout.Content
  | .nil, _ => .ok ()
  | .cons name true shape rest, members =>
    match Assoc.get? members name with
    | none => .error (.missing name)
    | some v => do return (← shape.decode v, ← rest.collect members)
  | .cons name false shape rest, members =>
    match Assoc.get? members name with
    | none => do return (none, ← rest.collect members)
    | some v => do return (some (← shape.decode v), ← rest.collect members)
/-- Decodes the fields from a list of `total` items, of which `place` are used. -/
def Layout.align : (layout : Layout) → List Json → Nat → String → Nat →
    Except Mismatch layout.Content
  | .nil, [], _, _, _ => .ok ()
  | .nil, _ :: _, _, _, total => .error (.length total "fewer elements in array")
  | .cons _ true _ _, [], place, wanted, _ => .error (.length place wanted)
  | .cons _ false _ rest, [], place, wanted, total => do
    return (none, ← rest.align [] (place + 1) wanted total)
  | .cons _ true shape rest, v :: items, place, wanted, total => do
    return (← shape.decode v, ← rest.align items (place + 1) wanted total)
  | .cons _ false shape rest, v :: items, place, wanted, total => do
    return (some (← shape.decode v), ← rest.align items (place + 1) wanted total)
end

end Targeting
