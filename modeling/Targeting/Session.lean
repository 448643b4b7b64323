import Targeting.Engine

/-!
# Sessions

One engine, one request and one cache over a run of actions. Only evaluations and
tests of single conditions use the cache of the session; an evaluation on its own
starts from an empty one, and locating the request leaves the cache alone.
-/

namespace Targeting

structure Session where
  engine : Engine
  request : Request
  state : State

inductive Session.Action where
  | evaluate (tree : Option Tree)
  /-- With a cache of its own. -/
  | evaluateAlone (tree : Option Tree)
  | test (condition : Condition)
  | locate
  | register (name : String) (rule : CustomRule)
  /-- A change to the request at hand. -/
  | amend (request : Request)
  /-- Another request: the flag is down again. -/
  | replace (request : Request)
  | clearCache

inductive Session.Answer where
  | matched (value : Bool)
  | located (resolution : Geo.Resolution)
  | done

namespace Session

def start (engine : Engine) (request : Request) : Session := ⟨engine, request, .fresh⟩

def act (s : Session) : Action → Answer × Session × List Effect
  | .evaluate tree =>
    let o := s.engine.evaluate tree s.request s.state
    (.matched o.matched, { s with state := o.state }, o.effects)
  | .evaluateAlone tree =>
    let o := s.engine.evaluate tree s.request { s.state with cache := .empty }
    (.matched o.matched, { s with state.emitBid := o.state.emitBid }, o.effects)
  | .test c =>
    let o := s.engine.condition s.request c s.state
    (.matched o.matched, { s with state := o.state }, o.effects)
  | .locate =>
    let (resolution, effects) := s.engine.resolveGeo s.request
    (.located resolution, s, effects)
  | .register name rule =>
    (.done, { s with engine.registry := s.engine.registry.register name rule }, [])
  | .amend request => (.done, { s with request }, [])
  | .replace request => (.done, { s with request, state.emitBid := false }, [])
  | .clearCache => (.done, { s with state.cache := .empty }, [])

end Session

end Targeting
