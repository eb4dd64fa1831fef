import BlockLang.Main
import BlockLang.Session
import BlockLang.Symbols.Live
import BlockLang.Proofs.Automaton.Built
import BlockLang.Proofs.Automaton.Lexemes
import BlockLang.Proofs.Automaton.Table
import BlockLang.Proofs.Automaton.CallOrder
import BlockLang.Proofs.Lexing.RoundTrip
import BlockLang.Proofs.Lexing.Seam
import BlockLang.Proofs.Lexing.TokenForm
import BlockLang.Proofs.SourceFile
import BlockLang.Proofs.CommandLine.ExitCode
import BlockLang.Proofs.Checking.Lines
import BlockLang.Proofs.Checking.Wrapping
import BlockLang.Proofs.Checking.Weakening
import BlockLang.Proofs.Checking.Replay
import BlockLang.Proofs.Checking.Renaming
import BlockLang.Proofs.Acceptance
import BlockLang.Proofs.Lexing.FractionLimit
import BlockLang.Proofs.Report.Lossless
import BlockLang.Proofs.Automaton.TransitionList
import BlockLang.Proofs.Symbols.Brackets
import BlockLang.Proofs.Symbols.LiveViews
import BlockLang.Proofs.Checking.Walk
import BlockLang.Proofs.Checking.EndOfInput
import BlockLang.Proofs.Automaton.FirstFault
import BlockLang.Proofs.Report.TransitionTable
import BlockLang.Proofs.Report.Decoding
import BlockLang.Proofs.CommandLine.Invocation
import BlockLang.Proofs.CommandLine.Outcome
import BlockLang.Proofs.Lexing.NumberCheck
import BlockLang.Proofs.Lexing.ScannerRun
import BlockLang.Proofs.Progress
