import Lexing.CharacterLexer
import Lexing.Command.Run
import Lexing.Main
import Lexing.Number.Binary64
import Lexing.Proofs.Lines
import Lexing.Proofs.LongestMatch
import Lexing.Proofs.Strict
import Lexing.Proofs.Tiling
import Lexing.ReplayLexer
import Lexing.Source.FileTree
import Lexing.Proofs.Source.Breaks
import Lexing.Proofs.Source.Registration
import Lexing.Proofs.Command.Agreement
import Lexing.Proofs.Source.Layout
import Lexing.Proofs.Source.Safety
import Lexing.Proofs.Isolation
import Lexing.Proofs.LiveEntries
import Lexing.Proofs.Custody
import Lexing.Proofs.Translation
import Lexing.Proofs.Denotation.Number
import Lexing.Proofs.Denotation.Quoted
import Lexing.Proofs.Command.Lossless
import Lexing.Proofs.Progress
import Lexing.Proofs.Denotation.Conversion
import Lexing.Proofs.Denotation.Display
import Lexing.Proofs.Relabelling
import Lexing.Proofs.FaultOrder
import Lexing.Proofs.Calls
import Lexing.Proofs.Command.Order
import Lexing.Proofs.Command.DiagnosticLines
import Lexing.Proofs.Command.Exclusion
import Lexing.Proofs.Copies
