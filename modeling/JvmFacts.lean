import JvmFacts.Pattern.Machine
import JvmFacts.Proofs.Digraph.Incidence
import JvmFacts.Proofs.Digraph.VisitOrder
import JvmFacts.Proofs.Hierarchy.Agreement
import JvmFacts.Proofs.Hierarchy.Representation
import JvmFacts.Proofs.Registry.Lookup
import JvmFacts.Proofs.Registry.Ordering
import JvmFacts.Proofs.Registry.References
import JvmFacts.Proofs.Registry.Spellings
import JvmFacts.Proofs.Session.Failure
import JvmFacts.Proofs.Session.Identity
import JvmFacts.Proofs.Session.LoadingOnce
import JvmFacts.Proofs.Session.Marking
import JvmFacts.Proofs.Session.MethodOrder
import JvmFacts.Proofs.Session.Rebuilding
import JvmFacts.Proofs.Signature.Slices
import JvmFacts.Proofs.Stats.Preset
import JvmFacts.Proofs.Stats.Reading
import JvmFacts.Proofs.Stats.Size
import JvmFacts.Proofs.Method.SyntheticParameters
import JvmFacts.Proofs.Stats.Balance
import JvmFacts.Proofs.Promise.Readings
import JvmFacts.Proofs.Session.Labels
import JvmFacts.Proofs.Session.Sources
import JvmFacts.Proofs.Session.Enumeration
import JvmFacts.Proofs.Session.Signatures
import JvmFacts.Proofs.Session.Rerun
