import Targeting.Effect
import Targeting.Text.Optional

/-!
# Log records

What the engine reports of its work: the steps of an evaluation at the level of
debugging, and the warnings.
-/

namespace Targeting.Log

inductive Level where
  | error | warn | info | debug | trace
  deriving DecidableEq

/-- A named value of a record. A text is a value of its own; shown values are texts
already. -/
inductive Value where
  | flag (value : Bool)
  | number (value : Nat)
  | text (value : String)
  | shown (value : String)

structure Record where
  level : Level
  target : String
  message : String
  fields : List (String × Value)

def executor : String := "splitter_rules::executor"

def matchers : String := "splitter_rules::matchers"

def logging : String := "splitter_rules::logging"

def ofEvent : Event → Record
  | .ruleFailed key => ⟨.debug, executor, "规则短路 - 不匹配", [("rule", .shown key)]⟩
  | .allFailed index => ⟨.debug, executor, "AND 短路 - 子树不匹配", [("index", .number index)]⟩
  | .anyMatched index => ⟨.debug, executor, "OR 短路 - 子树匹配", [("index", .number index)]⟩
  | .noneMatched => ⟨.debug, executor, "OR 组无匹配", []⟩
  | .finished matched emitBid =>
    ⟨.debug, executor, "条件树评估完成", [("matched", .flag matched), ("emit_bid", .flag emitBid)]⟩
  | .bucketComputed bid bucket =>
    ⟨.debug, matchers, "bucket computed",
      [("bid", .shown (Text.optional (bid.map Text.quoted))),
        ("bucket", .shown (Text.optional (bucket.map toString)))]⟩
  | .noAddress => ⟨.debug, matchers, "no address available for geoip lookup", []⟩
  | .geoResolved address written =>
    ⟨.debug, matchers, "geoip resolved", [("addr", .text address), ("geo", .shown written)]⟩
  | .geoNotFound address =>
    ⟨.debug, matchers, "geoip lookup found nothing", [("addr", .text address)]⟩

def ofWarning (w : Warning) : Record :=
  ⟨.warn, logging, w.message, ("rule", .shown w.rule) :: match w with
    | .invalidReturn _ value =>
      [("value", .shown value.toText), ("value_type", .text value.typeName)]
    | .missingEvaluator _ => []
    | .invalidCriteria _ error => [("error", .shown error)]⟩

def ofEffect? : Effect → Option Record
  | .warned w => some (ofWarning w)
  | .traced event => some (ofEvent event)
  | _ => none

end Targeting.Log
