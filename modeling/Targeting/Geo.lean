import Targeting.Json.ShapeReader

/-!
# Locations and their criteria

A location is written `country.region.city`. A criterion matches a written location
that is equal to it; one that ends with a dot also matches by country alone.
-/

namespace Targeting.Geo

structure Location where
  country : String
  region : String
  city : String
  deriving DecidableEq

def Location.written (l : Location) : String := l.country ++ "." ++ l.region ++ "." ++ l.city

def country (written : String) : List Char := written.toList.takeWhile (· ≠ '.')

def covers (criterion written : String) : Bool :=
  criterion = written ||
    criterion.toList.getLast? = some '.' && country criterion = country written

inductive Resolution where
  | resolved (written : String)
  | notFound
  deriving DecidableEq

def Resolution.written? : Resolution → Option String
  | .resolved written => some written
  | .notFound => none

-- ---------------------------------------------------------------------------
-- Tables of addresses
-- ---------------------------------------------------------------------------

abbrev Table := Assoc Location

def Location.layout : Layout :=
  .cons "country" false .text <| .cons "region" false .text <| .cons "city" false .text .nil

def Location.shape : Shape := .record "GeoLocation" Location.layout

def Location.ofContent : Location.shape.Content → Location
  | (country, region, city, _) => ⟨country.getD "", region.getD "", city.getD ""⟩

def Table.shape : Shape := .table Location.shape

def Table.ofContent (entries : Table.shape.Content) : Table :=
  entries.map fun (address, l) => (address, Location.ofContent l)

def Table.ofJson (v : Json) : Except Mismatch Table := (Table.shape.decode v).map Table.ofContent

def Table.ofText (text : String) : Except Json.Fault Table :=
  (Table.shape.ofText text).map Table.ofContent

end Targeting.Geo
