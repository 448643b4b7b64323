import Targeting.Condition.Compile
import Targeting.Registry
import Targeting.Settings
import Targeting.Step
import Targeting.Tree.Compile
import Targeting.Unicode.Space

/-!
# The engine

An engine is the registered rules, the services that it may ask and the settings. A
node of a tree is decided rule by rule, then group by group, and no further than
needed. Rules that cannot be decided pass; conditions on data that the request lacks
fail.
-/

namespace Targeting

structure Engine where
  registry : Registry
  /-- Without the service nothing is found for any address. -/
  geo : Option (String → Option Geo.Location)
  /-- Without the service nothing is detected for any user agent. -/
  devices : Option (String → Device.Profile)
  settings : Settings

namespace Engine

def initial : Engine := ⟨.empty, none, none, .initial⟩

def compile (e : Engine) (v : Json) : Except CompileError Tree :=
  Tree.compile e.registry.names v

def compileText (e : Engine) (text : String) : Except CompileError Tree :=
  Tree.compileText e.registry.names text

-- ---------------------------------------------------------------------------
-- Services
-- ---------------------------------------------------------------------------

def forwarded (e : Engine) (r : Request) : Option String :=
  filled ((r.header e.settings.forwardedHeader).map fun v => Unicode.trim (Text.upTo ',' v))

/-- The override, the forwarded address, the remote address: the first there is. -/
def address (e : Engine) (r : Request) : Option String :=
  (r.param e.settings.overrideParam).or ((e.forwarded r).or r.remoteAddr)

def locate (e : Engine) (address : String) : Option Geo.Location :=
  e.geo.bind fun lookup => lookup address

def resolveGeo (e : Engine) (r : Request) : Geo.Resolution × List Effect :=
  match e.address r with
  | none => (.notFound, [.traced .noAddress])
  | some address =>
    let call := if e.geo.isSome then [Effect.geoCalled address] else []
    match e.locate address with
    | some location =>
      (.resolved location.written, call ++ [.traced (.geoResolved address location.written)])
    | none => (.notFound, call ++ [.traced (.geoNotFound address)])

def detect (e : Engine) (agent : String) : Device.Profile × List Effect :=
  match e.devices with
  | some detect => (detect agent, [.deviceCalled agent])
  | none => (.undetected, [])

def bucketOf (r : Request) : Option Nat := r.bid.bind Bucket.ofBid

-- ---------------------------------------------------------------------------
-- Conditions
-- ---------------------------------------------------------------------------

def findBucket (r : Request) (s : State) : Option Nat × State × List Effect :=
  match s.cache.bucket with
  | some b => (b, s, [])
  | none =>
    (bucketOf r, { s with cache.bucket := some (bucketOf r) },
      [.traced (.bucketComputed r.bid (bucketOf r))])

def findGeo (e : Engine) (r : Request) (s : State) : Geo.Resolution × State × List Effect :=
  match s.cache.geo with
  | some g => (g, s, [])
  | none =>
    let (g, effects) := e.resolveGeo r
    (g, { s with cache.geo := some g }, effects)

def findDevice (e : Engine) (agent : String) (s : State) :
    Device.Profile × State × List Effect :=
  match s.cache.device with
  | some p => (p, s, [])
  | none =>
    let (p, effects) := e.detect agent
    (p, { s with cache.device := some p }, effects)

def bucketStep (r : Request) (ranges : List Bucket.Range) : Step := fun s =>
  let (bucket, s, effects) := findBucket r s
  ⟨bucket.any fun b => ranges.any (·.contains b), { s with emitBid := true }, effects⟩

def geoStep (e : Engine) (r : Request) (criteria : List String) : Step := fun s =>
  let (found, s, effects) := e.findGeo r s
  ⟨found.written?.any fun written => criteria.any (Geo.covers · written), s, effects⟩

def deviceStep (e : Engine) (agent : String) (criteria : List Device.Criterion) : Step := fun s =>
  let (profile, s, effects) := e.findDevice agent s
  ⟨criteria.any (·.fits profile), s, effects⟩

/-- A visitor without the cookie is new, also without any cookie table. -/
def isNewVisitor (e : Engine) (r : Request) : Bool :=
  (r.cookie e.settings.visitorCookie).isNone

def condition (e : Engine) (r : Request) : Condition → Step
  | .host [] | .path [] | .bucket [] | .cookie [] | .agent [] | .geoip [] | .device [] => .pass
  | .host names => .verdict (r.host.any names.contains)
  | .path patterns => .verdict (r.path.any fun url => patterns.any (·.isMatch url))
  | .bucket ranges => bucketStep r ranges
  | .cookie cookies => .verdict (cookies.any fun c => r.cookie c.name = some c.value)
  | .agent patterns => .verdict (r.userAgent.any fun agent => patterns.any (·.isMatch agent))
  | .geoip criteria => e.geoStep r criteria
  | .device criteria =>
    match r.userAgent with
    | none => .fail
    | some agent => e.deviceStep agent criteria
  | .visitor newOnly => .verdict (e.isNewVisitor r = newOnly)

-- ---------------------------------------------------------------------------
-- Trees
-- ---------------------------------------------------------------------------

def passWith (warning : Warning) : Step := Step.also [.warned warning] .pass

def rule (e : Engine) (r : Request) (rule : Rule) : Step :=
  match e.registry.meaning rule.key with
  | .custom custom =>
    Step.also [.ruleCalled rule.key] <|
      match custom rule.raw r with
      | .bool matched => .verdict matched
      | value => passWith (.invalidReturn rule.key value)
  | .condition kind =>
    match rule.condition with
    | some c => e.condition r c
    -- the key was registered when the tree was compiled
    | none =>
      match Condition.compile kind rule.raw with
      | .ok c => e.condition r c
      | .error error => passWith (.invalidCriteria rule.key error.message)
  | .unknown => passWith (.missingEvaluator rule.key)

def rules (e : Engine) (r : Request) : List Rule → Step
  | [] => .pass
  | first :: rest =>
    ((e.rule r first).noting false (.ruleFailed first.key)).andThen (e.rules r rest)

mutual
def tree (e : Engine) (r : Request) : Tree → Step
  | .node rules all any _ =>
    (e.rules r rules).andThen <|
      (e.allOf r 0 all).andThen (if any.isEmpty then .pass else e.anyOf r 0 any)
def allOf (e : Engine) (r : Request) (index : Nat) : List Tree → Step
  | [] => .pass
  | t :: rest =>
    ((e.tree r t).noting false (.allFailed index)).andThen (e.allOf r (index + 1) rest)
def anyOf (e : Engine) (r : Request) (index : Nat) : List Tree → Step
  | [] => Step.fail.noting false .noneMatched
  | t :: rest =>
    ((e.tree r t).noting true (.anyMatched index)).orElse (e.anyOf r (index + 1) rest)
end

/-- No tree at all asks for nothing and leaves no trace. -/
def evaluate (e : Engine) (tree : Option Tree) (r : Request) : Step :=
  match tree with
  | none => .pass
  | some t => fun s =>
    let o := e.tree r t s
    ⟨o.matched, o.state, o.effects ++ [.traced (.finished o.matched o.state.emitBid)]⟩

end Engine

end Targeting
