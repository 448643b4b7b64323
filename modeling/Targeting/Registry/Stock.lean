import Targeting.Registry

/-!
# Stock rules

Ready-made rules to register: constants, the configured value or a part of it, the
host, a cookie. They read no more of a request than its host and its cookies.
-/

namespace Targeting

inductive StockRule where
  | constant (value : Json)
  | echo
  | field (name : String)
  | host
  | cookie (name : String)
  /-- Whether the host ends with the configured text; other values count as empty. -/
  | suffix

namespace StockRule

def ofOption : Option String → Json
  | some text => .text text
  | none => .null

def run : StockRule → CustomRule
  | .constant value, _, _ => value
  | .echo, raw, _ => raw
  | .field name, raw, _ => (raw.member? name).getD .null
  | .host, _, r => ofOption r.host
  | .cookie name, _, r => ofOption (r.cookie name)
  | .suffix, raw, r =>
    let wanted := match raw with
      | .text s => s
      | _ => ""
    .bool (r.host.any fun host => wanted.toList.isSuffixOf host.toList)

end StockRule

end Targeting
