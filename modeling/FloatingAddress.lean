import FloatingAddress.Proofs.Acceptance
import FloatingAddress.Proofs.Arrivals
import FloatingAddress.Proofs.OwnAddress
import FloatingAddress.Proofs.QuietWindow
import FloatingAddress.Proofs.Rearrangement
import FloatingAddress.Proofs.Records
import FloatingAddress.Proofs.Refinement
import FloatingAddress.Proofs.Secrecy
import FloatingAddress.Proofs.StatusClasses
import FloatingAddress.Proofs.TypedOutcomes
import FloatingAddress.Proofs.Verbosity
