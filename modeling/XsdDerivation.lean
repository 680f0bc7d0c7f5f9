import XsdDerivation.Config.Reading
import XsdDerivation.Proofs.ClosedLoops
import XsdDerivation.Proofs.Incremental
import XsdDerivation.Proofs.Report
import XsdDerivation.Proofs.Success
import XsdDerivation.Proofs.Lineage
import XsdDerivation.Proofs.Merge
import XsdDerivation.Proofs.Defects
import XsdDerivation.Proofs.RunInvariant
import XsdDerivation.Proofs.Unchanged
import XsdDerivation.Proofs.Repetition
import XsdDerivation.Proofs.WriteOnce
import XsdDerivation.Proofs.Finality
import XsdDerivation.Proofs.RegistrationOrder
import XsdDerivation.Proofs.TextContent
import XsdDerivation.Proofs.Extent
import XsdDerivation.Proofs.OpenVisits
import XsdDerivation.Proofs.EnclosingElement
import XsdDerivation.Proofs.BaseChain
import XsdDerivation.Proofs.UnmarkedCollisions
import XsdDerivation.Proofs.Edits
import XsdDerivation.Proofs.Spelling
import XsdDerivation.Proofs.ReferencedNames
import XsdDerivation.Proofs.GeneratedIdentifiers
import XsdDerivation.Proofs.SchemaIndex
