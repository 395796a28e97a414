import CommandConsole.Main
import CommandConsole.Proofs.Chain.Blocks
import CommandConsole.Proofs.Chain.Joining
import CommandConsole.Proofs.Highlight.Names
import CommandConsole.Proofs.Highlight.Restoring
import CommandConsole.Proofs.Highlight.Stripping
import CommandConsole.Proofs.Chain.Draft
import CommandConsole.Proofs.Session.Line
import CommandConsole.Script
import CommandConsole.Setting.Numeral
import CommandConsole.Proofs.Chain.ReadingBack
import CommandConsole.Proofs.Session.Builtins
import CommandConsole.Proofs.Session.Lines
import CommandConsole.Proofs.Repl.Agreement
import CommandConsole.Proofs.Session.Joining
import CommandConsole.Proofs.Registry.History
import CommandConsole.Proofs.Highlight.Typing
import CommandConsole.Proofs.Argument.InPlace
import CommandConsole.Proofs.Snippet.Offsets
import CommandConsole.Proofs.Chain.Excerpt
import CommandConsole.Proofs.Chain.Pointing
import CommandConsole.Proofs.Highlight.Pieces
import CommandConsole.Proofs.Registry.Typed
import CommandConsole.Proofs.Chain.Fewer
import CommandConsole.Proofs.Session.Blank
import CommandConsole.Proofs.Color.Notation
import CommandConsole.Proofs.Builtin.Listing
import CommandConsole.Proofs.Builtin.Listing
