import BracketToken.Main
import BracketToken.Proofs.Shift
import BracketToken.Proofs.Chronology
import BracketToken.Proofs.Resolution
import BracketToken.Proofs.StringGrammar
import BracketToken.Proofs.StringFault
import BracketToken.Proofs.Clause
import BracketToken.Proofs.DateGrammar
import BracketToken.Proofs.DateFault
import BracketToken.Proofs.Decimal
import BracketToken.Proofs.Canonical
import BracketToken.Proofs.Evaluation
import BracketToken.Proofs.Monotone
import BracketToken.Proofs.Range
import BracketToken.Proofs.Results
import BracketToken.Proofs.Draws
import BracketToken.Proofs.Sampling
import BracketToken.Proofs.Grammars
import BracketToken.Proofs.Message
import BracketToken.Proofs.Responses
import BracketToken.Proofs.Agreement
import BracketToken.Proofs.MonthShift
import BracketToken.Proofs.DayShift
import BracketToken.Proofs.Trace
import BracketToken.Proofs.Output
import BracketToken.Proofs.MonthDays
import BracketToken.Proofs.Composition
import BracketToken.Proofs.Figure
import BracketToken.Proofs.Spelling
import BracketToken.Proofs.Printing
import BracketToken.Proofs.Accounts
import BracketToken.Proofs.Process
import BracketToken.Proofs.LevelNames
import BracketToken.Proofs.Loading
import BracketToken.Proofs.Logs
import BracketToken.Proofs.Journal
import BracketToken.Proofs.Diagnosis
