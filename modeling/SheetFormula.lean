import SheetFormula.Main
import SheetFormula.Proofs.Interleaved
import SheetFormula.Proofs.Prescanned
import SheetFormula.Proofs.LayoutAgreement
import SheetFormula.Proofs.Safety
import SheetFormula.Proofs.DepthCounter
import SheetFormula.Proofs.Conservation
import SheetFormula.Proofs.StackShape
import SheetFormula.Proofs.UniqueReading
import SheetFormula.Proofs.Rebasing
import SheetFormula.Proofs.StreamBounds
import SheetFormula.Proofs.WitnessedErrors
import SheetFormula.Proofs.BatchOutcome
import SheetFormula.Proofs.NamesErased
import SheetFormula.Proofs.SharedCache
import SheetFormula.Proofs.TermArguments
import SheetFormula.Proofs.CommandOutput
import SheetFormula.Proofs.ExactReference
import SheetFormula.Proofs.SourceCalls
import SheetFormula.Proofs.RecentNames
import SheetFormula.Proofs.ColumnNumbering
import SheetFormula.Proofs.ReferenceNames
import SheetFormula.Proofs.OutputSize
import SheetFormula.Proofs.QuotedTexts
import SheetFormula.Proofs.WrittenFormulas
import SheetFormula.Proofs.FaithfulDump
import SheetFormula.Proofs.AcceptedProfile
