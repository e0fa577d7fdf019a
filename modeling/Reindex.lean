import Reindex.Change.Tracker
import Reindex.Command.Run
import Reindex.Json.Reader
import Reindex.Main
import Reindex.Proofs.Ancestors
import Reindex.Proofs.Change.Batches
import Reindex.Proofs.Change.Outcome
import Reindex.Proofs.Change.Runs
import Reindex.Proofs.Config.Effective
import Reindex.Proofs.Config.Saved
import Reindex.Proofs.Data.Freshness
import Reindex.Proofs.Dependency.Affected
import Reindex.Proofs.Dependency.BackPaths
import Reindex.Proofs.Dependency.DeclaredPaths
import Reindex.Proofs.Dependency.HopEntries
import Reindex.Proofs.Dependency.Recorded
import Reindex.Proofs.Dependency.Registration
import Reindex.Proofs.Mapping.Hints
import Reindex.Proofs.Mapping.Printed
import Reindex.Proofs.Validation
import Reindex.Wire.Change
import Reindex.Wire.Index
