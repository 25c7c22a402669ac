import Throws.Main
import Throws.Proofs.AliasTransparency
import Throws.Proofs.CallResolution
import Throws.Proofs.CanonicalNames
import Throws.Proofs.ContractOrder
import Throws.Proofs.CovariantSubstitution
import Throws.Proofs.DeclarationOrder
import Throws.Proofs.EffectSources
import Throws.Proofs.ExceptionIdentity
import Throws.Proofs.LayoutIndependence
import Throws.Proofs.LexicalScope
import Throws.Proofs.Modularity
import Throws.Proofs.OrderIndependence
import Throws.Proofs.ProgramSoundness
import Throws.Proofs.RegistrationHistory
import Throws.Proofs.RoundTrip
import Throws.Proofs.SeparateVerification
import Throws.Proofs.UnboundedSites
import Throws.Proofs.FirstEvent
import Throws.Proofs.QualifierErrors
import Throws.Proofs.Landmarks
import Throws.Proofs.LiteralFaults
import Throws.Proofs.ResolutionRuns
import Throws.Proofs.NamesInUse
import Throws.Proofs.ClauseNormalForm
import Throws.Proofs.RenderedContracts
import Throws.Proofs.SourceLocations
