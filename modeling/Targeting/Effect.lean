import Targeting.Warning

/-!
# What an evaluation does besides deciding

The effects of an evaluation are a list, in order: the warnings, the calls of rules
and services, and the steps that a debug log shows.
-/

namespace Targeting

inductive Event where
  | ruleFailed (key : String)
  | allFailed (index : Nat)
  | anyMatched (index : Nat)
  | noneMatched
  | finished (matched emitBid : Bool)
  | bucketComputed (bid : Option String) (bucket : Option Nat)
  | noAddress
  | geoResolved (address written : String)
  | geoNotFound (address : String)

inductive Effect where
  | warned (warning : Warning)
  | ruleCalled (name : String)
  | geoCalled (address : String)
  | deviceCalled (agent : String)
  | traced (event : Event)

namespace Effect

def warning? : Effect → Option Warning
  | .warned w => some w
  | _ => none

def call? : Effect → Option String
  | .ruleCalled name => some ("rule:" ++ name)
  | .geoCalled address => some ("geo:" ++ address)
  | .deviceCalled agent => some ("device:" ++ agent)
  | _ => none

end Effect

end Targeting
