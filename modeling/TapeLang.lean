import TapeLang.Lexer.Rules
import TapeLang.Main
import TapeLang.Proofs.CommandLine.Agreement
import TapeLang.Proofs.Commands.Refinement
import TapeLang.Proofs.Language.Translation
import TapeLang.Proofs.Lexer.EarliestMatch
import TapeLang.Proofs.Lexer.Literals
import TapeLang.Proofs.Lexer.LongestMatch
import TapeLang.Proofs.Machine.Failure
import TapeLang.Proofs.Machine.FullOutput
import TapeLang.Proofs.Machine.Shifting
import TapeLang.Proofs.Machine.UnreadInput
import TapeLang.Proofs.Machine.Window
import TapeLang.Proofs.Memory.Capacity
import TapeLang.Proofs.Memory.Size
import TapeLang.Proofs.ParseError.Caret
import TapeLang.Proofs.ParseError.Report
import TapeLang.Proofs.Program.Annotation
import TapeLang.Proofs.Program.Erasure
import TapeLang.Proofs.Program.Sibling
import TapeLang.Proofs.Program.Stack
import TapeLang.Proofs.Program.Writing
import TapeLang.Proofs.Source.Decoding
