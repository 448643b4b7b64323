import Targeting.Bucket
import Targeting.Device
import Targeting.Geo
import Targeting.Pattern

/-!
# Conditions on a request

The eight kinds of condition with a meaning of their own. All but the visitor
condition are lists of which one entry must hold; an empty list always holds.
-/

namespace Targeting

namespace Condition

inductive Kind where
  | host | path | bucket | cookie | agent | geoip | device | visitor
  deriving DecidableEq

namespace Kind

def all : List Kind := [.host, .path, .bucket, .cookie, .agent, .geoip, .device, .visitor]

def name : Kind → String
  | .host => "host"
  | .path => "path"
  | .bucket => "bucket"
  | .cookie => "cookie"
  | .agent => "agent"
  | .geoip => "geoip"
  | .device => "device"
  | .visitor => "visitor"

def ofName? (name : String) : Option Kind := all.find? (·.name = name)

theorem ofName?_name (kind : Kind) : ofName? kind.name = some kind := by
  cases kind <;> rfl

theorem ofName?_eq_some {name : String} {kind : Kind} :
    ofName? name = some kind ↔ name = kind.name := by
  refine ⟨fun h => ?_, fun h => h ▸ ofName?_name kind⟩
  simpa [eq_comm] using List.find?_some h

end Kind

structure Cookie where
  name : String
  value : String
  deriving DecidableEq

def Cookie.layout : Layout := .cons "name" true .text (.cons "value" true .text .nil)

def Cookie.shape : Shape := .record "CookieCriterion" Cookie.layout

def Cookie.ofContent : Cookie.shape.Content → Cookie
  | (name, value, _) => ⟨name, value⟩

end Condition

inductive Condition where
  | host (names : List String)
  | path (patterns : List Pattern)
  | bucket (ranges : List Bucket.Range)
  | cookie (cookies : List Condition.Cookie)
  | agent (patterns : List Pattern)
  | geoip (criteria : List String)
  | device (criteria : List Device.Criterion)
  | visitor (newOnly : Bool)

def Condition.kind : Condition → Condition.Kind
  | .host _ => .host
  | .path _ => .path
  | .bucket _ => .bucket
  | .cookie _ => .cookie
  | .agent _ => .agent
  | .geoip _ => .geoip
  | .device _ => .device
  | .visitor _ => .visitor

end Targeting
