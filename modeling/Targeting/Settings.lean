import Targeting.Json.Shape

/-!
# Settings

The names under which the engine looks for things in a request, and how it logs.
-/

namespace Targeting

structure Settings where
  /-- Visitors with this cookie have been here before. -/
  visitorCookie : String
  /-- The route parameter that overrides the address of the request. -/
  overrideParam : String
  forwardedHeader : String
  logLevel : String
  jsonLogs : Bool

namespace Settings

def initial : Settings := ⟨"bid", "splitterIP", "x-forwarded-for", "info", false⟩

def loggingLayout : Layout := .cons "log_level" false .text <| .cons "json_logs" false .flag .nil

def layout : Layout :=
  .cons "visitor_cookie" false .text <|
  .cons "override_ip_param" false .text <|
  .cons "forwarded_for_header" false .text <|
  .cons "observability" false (.record "ObservabilityConfig" loggingLayout) .nil

def shape : Shape := .record "EngineConfig" layout

def ofContent : shape.Content → Settings
  | (cookie, param, header, logging, _) =>
    let (level, json) : Option String × Option Bool :=
      match logging with
      | some (level, json, _) => (level, json)
      | none => (none, none)
    ⟨cookie.getD initial.visitorCookie, param.getD initial.overrideParam,
      header.getD initial.forwardedHeader, level.getD initial.logLevel,
      json.getD initial.jsonLogs⟩

def ofJson (v : Json) : Except Mismatch Settings := (shape.decode v).map ofContent

end Settings

end Targeting
