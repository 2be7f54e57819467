import PocketCalc.CommandLine.Program
import PocketCalc.Interaction
import PocketCalc.Main
import PocketCalc.Proofs.Application
import PocketCalc.Proofs.AtomicCommit
import PocketCalc.Proofs.Backspace
import PocketCalc.Proofs.Classification
import PocketCalc.Proofs.Collapse
import PocketCalc.Proofs.Commitment
import PocketCalc.Proofs.Display
import PocketCalc.Proofs.DrawnRow
import PocketCalc.Proofs.Edits
import PocketCalc.Proofs.FaithfulText
import PocketCalc.Proofs.FrontEnds
import PocketCalc.Proofs.Grammar
import PocketCalc.Proofs.Ignored
import PocketCalc.Proofs.LastOperator
import PocketCalc.Proofs.Misplaced
import PocketCalc.Proofs.Observation
import PocketCalc.Proofs.Refusals
import PocketCalc.Proofs.ScriptParts
import PocketCalc.Proofs.Sentinels
import PocketCalc.Proofs.ShortestDecimal
