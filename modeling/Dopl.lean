import Dopl.Checker.Session
import Dopl.Grammar.Shape
import Dopl.Main
import Dopl.Proofs.Checker.Acceptance
import Dopl.Proofs.Checker.Lookahead
import Dopl.Proofs.Scanner.Layout
import Dopl.Proofs.Scanner.Pieces
import Dopl.Writer
import Dopl.Proofs.Grammar.Shape
import Dopl.Proofs.Checker.Refusal
import Dopl.Proofs.Checker.ViablePrefix
import Dopl.Proofs.FileText
import Dopl.Proofs.Checker.History
import Dopl.Proofs.Checker.Nesting
import Dopl.Proofs.Checker.Frame
import Dopl.Proofs.Checker.Renaming
import Dopl.Proofs.Checker.Declared
import Dopl.Proofs.Checker.Order
import Dopl.Proofs.Batch
import Dopl.Proofs.Checker.ExpressionType
import Dopl.Proofs.Checker.DeclarationGroup
import Dopl.Proofs.Descent.Safety
import Dopl.Proofs.Descent.Progress
import Dopl.Proofs.Descent.Command
import Dopl.Proofs.Scanner.LineByLine
import Dopl.Proofs.Quoted
import Dopl.Proofs.CommandLine
import Dopl.Proofs.Listing
import Dopl.Proofs.BatchReport
