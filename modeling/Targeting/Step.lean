import Targeting.Cache
import Targeting.Effect

/-!
# Steps of an evaluation

A step decides something, may fill the cache and raise the flag, and leaves effects.
Steps are put together by `andThen` and `orElse`, which run their second part only if
the first does not settle the matter.
-/

namespace Targeting

structure State where
  cache : Cache
  /-- The browser id has to be sent along, since a bucket was asked for. -/
  emitBid : Bool

def State.fresh : State := ⟨.empty, false⟩

structure Outcome where
  matched : Bool
  state : State
  effects : List Effect

abbrev Step := State → Outcome

namespace Step

def verdict (matched : Bool) : Step := fun s => ⟨matched, s, []⟩

def pass : Step := verdict true

def fail : Step := verdict false

def also (effects : List Effect) (step : Step) : Step := fun s =>
  let o := step s
  ⟨o.matched, o.state, effects ++ o.effects⟩

def andThen (first second : Step) : Step := fun s =>
  let o := first s
  if o.matched then also o.effects second o.state else o

def orElse (first second : Step) : Step := fun s =>
  let o := first s
  if o.matched then o else also o.effects second o.state

/-- Notes the event after the step if that is its verdict. -/
def noting (matched : Bool) (event : Event) (step : Step) : Step := fun s =>
  let o := step s
  if o.matched = matched then ⟨o.matched, o.state, o.effects ++ [.traced event]⟩ else o

end Step

end Targeting
