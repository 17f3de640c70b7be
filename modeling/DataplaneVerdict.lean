import DataplaneVerdict.Main
import DataplaneVerdict.Proofs.BuildGate
import DataplaneVerdict.Proofs.Cleanup
import DataplaneVerdict.Proofs.Decoding
import DataplaneVerdict.Proofs.DocumentLines
import DataplaneVerdict.Proofs.EngineRejection
import DataplaneVerdict.Proofs.Footprint
import DataplaneVerdict.Proofs.MaximumAge
import DataplaneVerdict.Proofs.Reproducibility
import DataplaneVerdict.Proofs.Scopes
import DataplaneVerdict.Proofs.StagePaths
import DataplaneVerdict.Proofs.Streams
import DataplaneVerdict.Proofs.ToolchainShape
import DataplaneVerdict.Proofs.Transitions
import DataplaneVerdict.Proofs.Variables
