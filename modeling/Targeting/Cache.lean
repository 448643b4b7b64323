import Targeting.Device
import Targeting.Geo
import Targeting.Text.Optional

/-!
# Values derived once an evaluation

Each slot is filled when it is first asked for, also with the answer that there is
nothing, and never changes afterwards.
-/

namespace Targeting

structure Cache where
  bucket : Option (Option Nat)
  geo : Option Geo.Resolution
  device : Option Device.Profile

namespace Cache

def empty : Cache := ⟨none, none, none⟩

def bucket? (cache : Cache) : Option Nat := cache.bucket.join

def geo? (cache : Cache) : Option String := cache.geo.bind Geo.Resolution.written?

def described (cache : Cache) : String :=
  "EvaluationOptions \x7b bucket: " ++
    Text.optional (cache.bucket.map fun b => Text.optional (b.map toString)) ++ ", geo: " ++
    Text.optional (cache.geo.map fun
      | .resolved written => "Resolved(" ++ Text.quoted written ++ ")"
      | .notFound => "NotFound") ++ ", device: " ++
    Text.optional (cache.device.map fun _ => Text.quoted "<profile>") ++ " \x7d"

end Cache

end Targeting
