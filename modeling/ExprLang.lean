import ExprLang.Grammar
import ExprLang.Parse
import ExprLang.Proofs.Reading
import ExprLang.Proofs.Derivations
import ExprLang.Proofs.Prefixes
import ExprLang.Proofs.Supply
import ExprLang.Proofs.Spelling
import ExprLang.Proofs.Splitting
import ExprLang.Proofs.Printing
import ExprLang.Proofs.Outcome
import ExprLang.Proofs.Progress
import ExprLang.Proofs.PhraseParsers
import ExprLang.Proofs.Verdicts
import ExprLang.Proofs.Acceptance
import ExprLang.Proofs.CorrectPrefix
import ExprLang.Proofs.Expressibility
import ExprLang.Proofs.RoundTrip
import ExprLang.Proofs.Words
import ExprLang.Proofs.Scanning
import ExprLang.Proofs.Lossless
import ExprLang.Proofs.Places
import ExprLang.Proofs.LexerPlaces
import ExprLang.Proofs.SideBySide
import ExprLang.Proofs.SameSteps
import ExprLang.Proofs.Limits
import ExprLang.Proofs.SourcePlaces
import ExprLang.Proofs.Appending
import ExprLang.Proofs.Restarting
import ExprLang.Proofs.Consumption
import ExprLang.Proofs.Cursor
import ExprLang.Proofs.Journal
import ExprLang.Proofs.TokenSequence
import ExprLang.Proofs.LogLines
import ExprLang.Proofs.StreamCalls
import ExprLang.Proofs.Account
import ExprLang.Proofs.Sites
import ExprLang.Proofs.Settling
import ExprLang.Proofs.LongestPhrase
import ExprLang.Proofs.TooTall
import ExprLang.Proofs.StoppedPlaces
import ExprLang.Proofs.Watching
import ExprLang.Proofs.WrittenTexts
import ExprLang.Proofs.LeftSides
import ExprLang.Proofs.AssignmentTargets
import ExprLang.Proofs.Names
