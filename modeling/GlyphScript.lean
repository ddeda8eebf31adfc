import GlyphScript.Builtin
import GlyphScript.CommandLine
import GlyphScript.Compaction
import GlyphScript.Fingerprint
import GlyphScript.Handler.Listing
import GlyphScript.Interpreter
import GlyphScript.Json.Reader
import GlyphScript.Json.Writer
import GlyphScript.Main
import GlyphScript.Program.Document
import GlyphScript.Program.Parser
import GlyphScript.Session
import GlyphScript.Proofs.Compaction
import GlyphScript.Proofs.Decimal.Binary
import GlyphScript.Proofs.Decimal.Shortest
import GlyphScript.Proofs.Decimal.Comparison
import GlyphScript.Proofs.Decimal.NumberText
import GlyphScript.Proofs.Canonical
import GlyphScript.Proofs.Program.Errors
import GlyphScript.Proofs.Program.Merge
import GlyphScript.Proofs.Program.Ownership
import GlyphScript.Proofs.Program.EndOfFile
import GlyphScript.Proofs.Machine.CallDepth
import GlyphScript.Proofs.Token.Separation
import GlyphScript.Proofs.Token.Closing
import GlyphScript.Proofs.Token.Spans
import GlyphScript.Proofs.Library.Effects
import GlyphScript.Proofs.Library.Command
import GlyphScript.Proofs.Library.Grams
import GlyphScript.Proofs.Library.Suggestions
import GlyphScript.Proofs.Decimal.Integers
import GlyphScript.Proofs.Program.Document
import GlyphScript.Proofs.Text.Split
import GlyphScript.Proofs.Text.Words
import GlyphScript.Proofs.Token.Spelling
import GlyphScript.Proofs.Token.Lines
import GlyphScript.Proofs.Program.Written
import GlyphScript.Proofs.Scope
import GlyphScript.Proofs.Machine.Serving
import GlyphScript.Proofs.Machine.Variables
import GlyphScript.Proofs.Session.History
import GlyphScript.Proofs.Session.Faults
import GlyphScript.Proofs.Session.BootLog
import GlyphScript.Proofs.Session.Requests
import GlyphScript.Proofs.Session.Traces
import GlyphScript.Proofs.Session.Observations
import GlyphScript.Proofs.Library.Arguments
import GlyphScript.Proofs.Session.Tapes
import GlyphScript.Proofs.Machine.KeptParts
import GlyphScript.Proofs.Machine.Failures
import GlyphScript.Proofs.Builtin.SizedLists
import GlyphScript.Proofs.Machine.Shadowing
import GlyphScript.Proofs.Compaction.CanonicalKeys
import GlyphScript.Proofs.Scope.VisibleNames
import GlyphScript.Proofs.Builtin.Matrices
import GlyphScript.Proofs.Builtin.Texts
import GlyphScript.Proofs.Json.Rendering
import GlyphScript.Proofs.Token.Numbers
import GlyphScript.Proofs.Machine.Places
