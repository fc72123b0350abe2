import LocaleMessage.Main
import LocaleMessage.Pattern.Diagnostic
import LocaleMessage.Pattern.Encoded
import LocaleMessage.Proofs.Compiled.Interpretation
import LocaleMessage.Proofs.Pattern.Printing
import LocaleMessage.Session
import LocaleMessage.Proofs.Compiled.Trace
import LocaleMessage.Proofs.Compiled.Arguments
import LocaleMessage.Proofs.Compiled.Placeholder
import LocaleMessage.Proofs.Text.Position
import LocaleMessage.Proofs.Pattern.Failure
import LocaleMessage.Proofs.Pattern.Completion
import LocaleMessage.Proofs.Pattern.Lookahead
import LocaleMessage.Proofs.Pattern.Concatenation
import LocaleMessage.Proofs.Compiled.Agreement
import LocaleMessage.Proofs.Binary64.Exact
import LocaleMessage.Proofs.NumberFormat.WholeNumber
import LocaleMessage.Proofs.Locale.Tag
import LocaleMessage.Proofs.NumberFormat.EnglishOrdinal
import LocaleMessage.Proofs.Plural.Cache
import LocaleMessage.Proofs.Session.History
import LocaleMessage.Proofs.Binary64.Rounding
import LocaleMessage.Proofs.Decimal
import LocaleMessage.Proofs.NumberFormat.Decimal
import LocaleMessage.Proofs.Plural.Integral
import LocaleMessage.Proofs.NumberFormat.IntegerView
import LocaleMessage.Proofs.NumberFormat.EnglishWords
import LocaleMessage.Proofs.Calendar.Reading
import LocaleMessage.Proofs.CommandLine.Parameter
import LocaleMessage.Proofs.Calendar.Directive
import LocaleMessage.Proofs.Calendar.DirectiveText
import LocaleMessage.Proofs.DateFormat.Runs
import LocaleMessage.Proofs.DateFormat.Pattern
import LocaleMessage.Proofs.DateFormat.Skeleton
import LocaleMessage.Proofs.NumberFormat.Duration
import LocaleMessage.Proofs.NumberFormat.Sign
import LocaleMessage.Proofs.Calendar.RoundTrip
import LocaleMessage.Proofs.NumberFormat.NonFinite
import LocaleMessage.Proofs.Compiled.DateTimeText
import LocaleMessage.Proofs.Pattern.Encoded
import LocaleMessage.Proofs.Place
import LocaleMessage.Proofs.Inspect.Rows
import LocaleMessage.Proofs.Compiled.Branches
import LocaleMessage.Proofs.Pattern.Diagnostic
import LocaleMessage.Proofs.Pattern.Suggestions
import LocaleMessage.Proofs.Compiled.Merging
import LocaleMessage.Proofs.Compiled.NormalForm
