import Tabletop.Advice.Caution
import Tabletop.Advice.Hint
import Tabletop.Advice.Tidy
import Tabletop.HouseRules.Basic
import Tabletop.HouseRules.Load
import Tabletop.HouseRules.Number
import Tabletop.HouseRules.Variables
import Tabletop.Journal
import Tabletop.Notation.Expression
import Tabletop.Notation.Fault
import Tabletop.Notation.Lexeme
import Tabletop.Notation.Limits
import Tabletop.Notation.Numeral
import Tabletop.Notation.Prose
import Tabletop.Notation.Reading
import Tabletop.Notation.Spread
import Tabletop.Notation.Token
import Tabletop.Roll.Casting
import Tabletop.Roll.Face
import Tabletop.Roll.Mode
import Tabletop.Roll.Part
import Tabletop.Roll.Report
import Tabletop.Roll.Script
import Tabletop.Roll.Source
import Tabletop.Roll.Value
import Tabletop.Rounding
import Tabletop.Sum
import Tabletop.Table.Call
import Tabletop.Table.Session
import Tabletop.Text.Alphanumeric
import Tabletop.Text.Binary
import Tabletop.Text.Blank
import Tabletop.Text.CodePoints
import Tabletop.Text.Decimal
import Tabletop.Text.DecimalDigit
import Tabletop.Text.Moment
import Tabletop.Text.Piece
import Tabletop.Text.Printable
import Tabletop.Text.Quoted
import Tabletop.Text.Shortest
import Tabletop.Proofs.Notation.Scanning
import Tabletop.Proofs.Notation.Acceptance
import Tabletop.Proofs.Prose.Phrase
import Tabletop.Proofs.Prose.Spans
import Tabletop.Proofs.Roll.Outcome
import Tabletop.Proofs.Roll.Shape
import Tabletop.Proofs.Roll.Chain
import Tabletop.Proofs.Table.Course
import Tabletop.Proofs.Table.History
import Tabletop.Proofs.Notation.Canonical
import Tabletop.Proofs.Notation.Clamping
import Tabletop.Proofs.Roll.Agreement
import Tabletop.Proofs.Table.Atomicity
import Tabletop.Proofs.Roll.Policy
import Tabletop.Proofs.Roll.Replies
import Tabletop.Proofs.Roll.Plan
import Tabletop.Proofs.Table.Admission
import Tabletop.Proofs.Notation.Faults
import Tabletop.Proofs.Prose.Verdicts
import Tabletop.Proofs.Notation.Placement
import Tabletop.Proofs.Notation.Continuation
import Tabletop.Proofs.Notation.Earliest
import Tabletop.Proofs.Table.Retention
import Tabletop.Proofs.Table.Lineage
import Tabletop.Proofs.Roll.Reach
import Tabletop.Proofs.Prose.Compact
import Tabletop.Proofs.Prose.Embedding
import Tabletop.Proofs.Table.Foresight
import Tabletop.Proofs.Notation.Layout
import Tabletop.Proofs.Notation.Occurrence
import Tabletop.Proofs.Notation.Partition
import Tabletop.Proofs.Notation.Respacing
import Tabletop.Proofs.Advice.Tidying
import Tabletop.Proofs.Advice.TidyNotation
import Tabletop.Proofs.Notation.Joining
import Tabletop.Proofs.Prose.Widening
import Tabletop.Proofs.Roll.Ranking
import Tabletop.Proofs.Roll.Mean
import Tabletop.Proofs.Text.Joined
import Tabletop.Proofs.Advice.Hinting
import Tabletop.Proofs.Advice.Cautioning
import Tabletop.Proofs.Roll.Reporting
import Tabletop.Proofs.Roll.Explaining
