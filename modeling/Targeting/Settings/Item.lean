import Targeting.Assoc
import Targeting.Decimal.Read
import Targeting.Decimal.Style
import Targeting.Json
import Targeting.Text.Quoted
import Targeting.Toml

/-!
# Items of settings

What a source of settings says, with the place it is from. An item laid over another
one replaces it, but a table goes into a table entry by entry. A table that was put
together is from no one place.
-/

namespace Targeting.Settings

inductive Leaf where
  | flag (value : Bool)
  | whole (value : Int)
  | real (value : Float)
  | text (value : String)

inductive Item where
  | nothing (origin : Option String)
  | leaf (origin : Option String) (value : Leaf)
  | list (origin : Option String) (items : List Item)
  | table (origin : Option String) (entries : List (String × Item))

namespace Item

def origin? : Item → Option String
  | .nothing origin | .leaf origin _ | .list origin _ | .table origin _ => origin

/-- The item as a table; what is none gives way to an empty one. -/
def asTable : Item → Option String × Assoc Item
  | .table origin entries => (origin, entries)
  | _ => (none, [])

def asList : Item → Option String × List Item
  | .list origin items => (origin, items)
  | _ => (none, [])

def entry (known : Assoc Item) (name : String) : Item := (known.get? name).getD (.nothing none)

mutual
/-- The item laid over an old one. -/
def laidOn : Item → Item → Item
  | .table _ entries, old => .table old.asTable.1 (layAll entries old.asTable.2)
  | item, _ => item
def layAll : List (String × Item) → Assoc Item → Assoc Item
  | [], known => known
  | (name, item) :: rest, known => layAll rest (known.put name (item.laidOn (entry known name)))
end

mutual
def ofToml (origin : String) : Toml → Item
  | .text s => .leaf origin (.text s)
  | .integer n => .leaf origin (.whole n)
  | .real x => .leaf origin (.real x)
  | .bool b => .leaf origin (.flag b)
  | .moment s => .leaf origin (.text s)
  | .array items => .list origin (ofTomls origin items)
  | .table entries => .table origin (ofEntries origin entries)
def ofTomls (origin : String) : List Toml → List Item
  | [] => []
  | v :: rest => ofToml origin v :: ofTomls origin rest
def ofEntries (origin : String) : List (String × Toml) → List (String × Item)
  | [] => []
  | (name, v) :: rest => (name, ofToml origin v) :: ofEntries origin rest
end

/-- An integer of a JSON text; beyond 64 bits with a sign it is a float. -/
def wholeOrReal (n : Int) : Leaf :=
  if Decimal.fitsWord n then .whole n else .real (Decimal.nearest n.toNat 0)

mutual
def ofJson (origin : String) : Json → Item
  | .null => .nothing origin
  | .bool b => .leaf origin (.flag b)
  | .integer n => .leaf origin (wholeOrReal n)
  | .real x => .leaf origin (.real x)
  | .text s => .leaf origin (.text s)
  | .array items => .list origin (ofJsons origin items)
  | .object members => .table origin (ofMembers origin members)
def ofJsons (origin : String) : List Json → List Item
  | [] => []
  | v :: rest => ofJson origin v :: ofJsons origin rest
def ofMembers (origin : String) : List (String × Json) → List (String × Item)
  | [] => []
  | (name, v) :: rest => (name, ofJson origin v) :: ofMembers origin rest
end

def described : Item → String
  | .nothing _ => "unit value"
  | .leaf _ (.flag b) => "boolean `" ++ (if b then "true" else "false") ++ "`"
  | .leaf _ (.whole n) => "integer `" ++ toString n ++ "`"
  | .leaf _ (.real x) => "floating point `" ++ Decimal.pointed.write x ++ "`"
  | .leaf _ (.text s) => "string " ++ Text.quoted s
  | .list .. => "sequence"
  | .table .. => "map"

end Item

end Targeting.Settings
