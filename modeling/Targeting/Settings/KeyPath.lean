import Targeting.Decimal.Read
import Targeting.Settings.Item

/-!
# Paths of keys

The key of an entry of a source may be a path, `name.name[index]`: names lead into
tables, indices into lists, from the end if negative. What is on the way and is no
table or list gives way to one. A key that is no path is one name.
-/

namespace Targeting.Settings

inductive Hop where
  | name (name : String)
  | place (index : Int)

namespace Hop

def isNameChar (c : Char) : Bool := c.isAlphanum || c = '_' || c = '-'

def index? (text : List Char) : Option Int :=
  let isBlank (c : Char) := c = ' ' || c = '\t'
  let trimmed := ((text.dropWhile isBlank).reverse.dropWhile isBlank).reverse
  if trimmed.head? = some '+' then none else Decimal.integer? (.ofList trimmed)

def hopsFrom : Nat → List Char → Option (List Hop)
  | _, [] => some []
  | steps + 1, '.' :: rest =>
    let text := rest.takeWhile isNameChar
    if text.isEmpty then none
    else (hopsFrom steps (rest.drop text.length)).map (.name (.ofList text) :: ·)
  | steps + 1, '[' :: rest => do
    let text := rest.takeWhile (· ≠ ']')
    let index ← index? text
    match rest.drop text.length with
    | _ :: rest => (hopsFrom steps rest).map (.place index :: ·)
    | [] => none
  | _, _ => none

def ofKey (key : String) : List Hop :=
  (hopsFrom (key.length + 1) ('.' :: key.toList)).getD [.name key]

end Hop

namespace Item

/-- The list with a place for the index, and that place. -/
def makeRoom (items : List Item) (index : Int) : List Item × Nat :=
  if 0 ≤ index then
    (items ++ List.replicate (index.toNat + 1 - items.length) (.nothing none), index.toNat)
  else
    (List.replicate (index.natAbs - items.length) (.nothing none) ++ items,
      items.length - index.natAbs)

/-- The old item with an item laid over what it has at the path. -/
def putAt : List Hop → Item → Item → Item
  | [], item, old => item.laidOn old
  | .name name :: path, item, old =>
    let (origin, known) := old.asTable
    .table origin (known.put name (putAt path item (entry known name)))
  | .place index :: path, item, old =>
    let (origin, items) := old.asList
    let (items, place) := makeRoom items index
    .list origin (items.modify place (putAt path item))

end Item

end Targeting.Settings
