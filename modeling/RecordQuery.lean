import RecordQuery.Formula.Parser
import RecordQuery.Formula.Printer
import RecordQuery.Main
import RecordQuery.Proofs.Lexing
import RecordQuery.Proofs.Parsing
import RecordQuery.Proofs.Query.Phrase
import RecordQuery.Proofs.Query.Grammar
import RecordQuery.Proofs.Characters
import RecordQuery.Proofs.Query.Spelling
import RecordQuery.Proofs.Query.Acceptance
import RecordQuery.Proofs.Query.Canonical
import RecordQuery.Proofs.Query.RoundTrip
import RecordQuery.Proofs.Query.Leaves
import RecordQuery.Proofs.Raising
import RecordQuery.Proofs.Formula.Spelling
import RecordQuery.Proofs.Formula.Grammar
import RecordQuery.Proofs.Formula.Literals
import RecordQuery.Proofs.Formula.RoundTrip
import RecordQuery.Proofs.Policies
import RecordQuery.Proofs.Query.Meaning
import RecordQuery.Proofs.Conditions
import RecordQuery.Proofs.Meaning
import RecordQuery.Proofs.Doubles
import RecordQuery.Proofs.Formula.Soundness
import RecordQuery.Proofs.Patterns
import RecordQuery.Proofs.RaisedText
import RecordQuery.Proofs.Lowered
import RecordQuery.Proofs.LoweredText
import RecordQuery.Proofs.Selection
import RecordQuery.Proofs.Shape
import RecordQuery.Proofs.Query.Joining
import RecordQuery.Proofs.Criteria
import RecordQuery.Proofs.Magnitudes
import RecordQuery.Proofs.Vocabulary
import RecordQuery.Proofs.Exactness
import RecordQuery.Proofs.Query.Layout
import RecordQuery.Proofs.LowerCase
import RecordQuery.Proofs.Respelling
import RecordQuery.Proofs.Formula.SignedIntegers
import RecordQuery.Proofs.Positions
import RecordQuery.Proofs.ErrorPlaces
import RecordQuery.Proofs.Regex.Matching
import RecordQuery.Proofs.Regex.Languages
import RecordQuery.Proofs.Regex.Reading
import RecordQuery.Proofs.Pattern.Expressions
import RecordQuery.Proofs.Pattern.Characters
import RecordQuery.Proofs.Pattern.Words
import RecordQuery.Proofs.Refusals.Lowering
import RecordQuery.Proofs.Record.Paths
import RecordQuery.Proofs.Record.Comparisons
import RecordQuery.Proofs.Record.Leaves
import RecordQuery.Proofs.FinalSigma
import RecordQuery.Proofs.Record.Substrings
import RecordQuery.Proofs.Refusals.Criteria
import RecordQuery.Proofs.Query.Grouping
import RecordQuery.Proofs.Pattern.Brackets
import RecordQuery.Proofs.QuotedTexts
