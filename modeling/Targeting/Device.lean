import Targeting.Json.Shape
import Targeting.Request

/-!
# Devices and their criteria

A profile is what was detected for a user agent. A criterion asks for a class of
device, possibly with the name of the device, and for a browser, possibly within a
range of versions. Empty names and versions that are zero or no number count as not
detected.
-/

namespace Targeting.Device

structure Profile where
  mobile : Option String
  phone : Option String
  tablet : Option String
  version : String → Option Float

def Profile.undetected : Profile := ⟨none, none, none, fun _ => none⟩

inductive Class where
  | desktop | phone | tablet | mobile
  deriving DecidableEq

namespace Class

def all : List Class := [.desktop, .phone, .tablet, .mobile]

def name : Class → String
  | .desktop => "desktop"
  | .phone => "phone"
  | .tablet => "tablet"
  | .mobile => "mobile"

def ofName? (name : String) : Option Class := all.find? (·.name = name)

end Class

/-- A bound that is missing or zero does not bind; versions start at zero. -/
structure Versions where
  low : Option Float
  high : Option Float

namespace Versions

def any : Versions := ⟨none, none⟩

def infinity : Float := 1.0 / 0.0

def binding (bound : Option Float) : Option Float := bound.filter (· != 0.0)

def contains (range : Versions) (version : Float) : Bool :=
  (binding range.low).getD 0.0 ≤ version && version ≤ (binding range.high).getD infinity

end Versions

structure Criterion where
  kind : Option Class
  name : Option String
  browser : Option String
  versions : Option Versions

namespace Criterion

def any : Criterion := ⟨none, none, none, none⟩

/-- The name of the detected device of that class, `desktop` aside. -/
def detected (profile : Profile) : Class → Option String
  | .desktop => none
  | .phone => filled profile.phone
  | .tablet => filled profile.tablet
  | .mobile => filled profile.mobile

/-- A desktop is what is not mobile. -/
def classMatches (criterion : Criterion) (profile : Profile) : Bool :=
  match criterion.kind with
  | none => true
  | some .desktop => (filled profile.mobile).isNone
  | some kind =>
    match criterion.name with
    | some name => detected profile kind = some name
    | none => (detected profile kind).isSome

def browserMatches (criterion : Criterion) (profile : Profile) : Bool :=
  match criterion.browser with
  | none => true
  | some browser =>
    match profile.version browser with
    | some version =>
      version != 0.0 && !version.isNaN && (criterion.versions.getD .any).contains version
    | none => false

def fits (criterion : Criterion) (profile : Profile) : Bool :=
  criterion.classMatches profile && criterion.browserMatches profile

end Criterion

-- ---------------------------------------------------------------------------
-- Criteria in JSON
-- ---------------------------------------------------------------------------

def Versions.layout : Layout :=
  .cons "from" false (.optional .real) <| .cons "to" false (.optional .real) .nil

def Versions.shape : Shape := .record "VersionRange" Versions.layout

def Versions.ofContent : Versions.shape.Content → Versions
  | (low, high, _) => ⟨low.join, high.join⟩

def Criterion.layout : Layout :=
  .cons "device" false (.optional .text) <|
  .cons "type" false (.optional .text) <|
  .cons "browser" false (.optional .text) <|
  .cons "version" false (.optional Versions.shape) .nil

def Criterion.shape : Shape := .record "RawDeviceCriterion" Criterion.layout

/-- An unknown class, an empty name and an empty browser ask for nothing. -/
def Criterion.ofContent : Criterion.shape.Content → Criterion
  | (kind, name, browser, versions, _) =>
    ⟨kind.join.bind Class.ofName?, filled name.join, filled browser.join,
      versions.join.map Versions.ofContent⟩

end Targeting.Device
