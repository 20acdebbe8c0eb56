import TagConsole.Bench.Basic
import TagConsole.Bench.Transport
import TagConsole.Main
import TagConsole.Proofs.Session.Attempts
import TagConsole.Proofs.Session.Consistency
import TagConsole.Proofs.Session.Correlation
import TagConsole.Proofs.Session.Drainage
import TagConsole.Proofs.Session.Errands
import TagConsole.Proofs.Session.Faithful
import TagConsole.Proofs.Session.Publications
import TagConsole.Proofs.Session.Withdrawal
import TagConsole.Proofs.Transport.Contract
import TagConsole.Proofs.Transport.Selection
import TagConsole.Proofs.Console.Delivery
import TagConsole.Proofs.Console.Output
import TagConsole.Proofs.Console.Transcript
import TagConsole.Proofs.Text.Hex
import TagConsole.Proofs.Text.Numerals
import TagConsole.Proofs.Wire.Slots
import TagConsole.Proofs.Dialect.Grammar
import TagConsole.Proofs.Config.Documents
import TagConsole.Proofs.Config.Overrides
import TagConsole.Proofs.Config.Precedence
import TagConsole.Proofs.Document.Toml.Documents
import TagConsole.Proofs.Files.Trees
import TagConsole.Proofs.Files.Writing
import TagConsole.Proofs.Uuid
import TagConsole.Proofs.Files.Folders
import TagConsole.Proofs.Config.Saving
import TagConsole.Proofs.Console.Operations
import TagConsole.Proofs.Console.Hints
import TagConsole.Proofs.Console.History
import TagConsole.Proofs.Wire.Rendering
import TagConsole.Proofs.Device.Arguments
import TagConsole.Proofs.Device.Slots
import TagConsole.Proofs.Dialect.NormalForm
