import Targeting.Main
import Targeting.Registry.Stock
import Targeting.Request.Builder
import Targeting.Proofs.CacheHistory
import Targeting.Proofs.Erasure
import Targeting.Proofs.KnownNames
import Targeting.Proofs.MissingData
import Targeting.Proofs.Shapes
import Targeting.Proofs.Grammar
import Targeting.Proofs.Quiet
import Targeting.Proofs.Registration
import Targeting.Proofs.Regrouping
import Targeting.Proofs.NormalRequests
import Targeting.Proofs.Bucketing
import Targeting.Proofs.Repetition
import Targeting.Proofs.ListConditions
import Targeting.Proofs.Decompilation
import Targeting.Proofs.Addresses
import Targeting.Proofs.Locations
import Targeting.Proofs.Cohorts
import Targeting.Proofs.Complements
import Targeting.Proofs.Narrowing
import Targeting.Proofs.Narration
import Targeting.Proofs.Layers
import Targeting.Proofs.Loading
import Targeting.Proofs.Overrides
import Targeting.Proofs.Building
import Targeting.Proofs.Encoding
import Targeting.Proofs.Meanings
import Targeting.Proofs.Invocation
import Targeting.Proofs.Printing
import Targeting.Proofs.Deciding
