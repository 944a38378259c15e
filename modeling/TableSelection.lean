import TableSelection.Range.Grammar
import TableSelection.Range.Evaluate
import TableSelection.Table.Box
import TableSelection.Finder.Outline
import TableSelection.Setting.Finder
import TableSelection.Proofs.Range.RoundTrip
import TableSelection.Proofs.Range.Evaluation
import TableSelection.Proofs.Range.Composition
import TableSelection.Proofs.Setting.Canonical
import TableSelection.Proofs.Finder.Reachable
import TableSelection.Proofs.Finder.Steps
import TableSelection.Proofs.Finder.Training
import TableSelection.Proofs.Finder.Cycle
import TableSelection.Proofs.Finder.Retraining
import TableSelection.Proofs.Finder.Answers
import TableSelection.Proofs.Finder.Repetition
import TableSelection.Proofs.Finder.Lasting
import TableSelection.Proofs.Finder.Transparency
import TableSelection.Proofs.Table.Domains
import TableSelection.Proofs.Finder.Combination
import TableSelection.Proofs.Finder.RowLocality
import TableSelection.Proofs.Finder.RangeGroups
import TableSelection.Proofs.Range.Extension
import TableSelection.Proofs.Finder.Restoration
import TableSelection.Proofs.Finder.FirstFailure
import TableSelection.Proofs.Range.QuoteScans
import TableSelection.Proofs.Finder.Sides
