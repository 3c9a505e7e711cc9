import ParseFailure.About
import ParseFailure.Lookup
import ParseFailure.Proofs.Race
import ParseFailure.Proofs.Description.Lexed
import ParseFailure.Proofs.Session.Anew
import ParseFailure.Proofs.Session.Described
import ParseFailure.Proofs.Session.Explaining
import ParseFailure.Proofs.Session.LifeCycle
import ParseFailure.Session.Step
import ParseFailure.Terminal.Strip
import ParseFailure.Proofs.Session.Account
import ParseFailure.Proofs.Location
import ParseFailure.Proofs.Text.Unescape
import ParseFailure.Proofs.Description.Generic
import ParseFailure.Proofs.Session.Colors
import ParseFailure.Proofs.Session.Mode
import ParseFailure.Proofs.Session.Grounded
import ParseFailure.Proofs.Session.Resembling
import ParseFailure.Proofs.Session.Matching
import ParseFailure.Proofs.Session.Following
import ParseFailure.Proofs.Session.Agreement
import ParseFailure.Proofs.Session.Independence
import ParseFailure.Proofs.Session.Fence
import ParseFailure.Proofs.Excerpt.Caret
import ParseFailure.Proofs.Session.Controls
import ParseFailure.Proofs.Excerpt.Window
import ParseFailure.Proofs.Terminal.Sequences
import ParseFailure.Proofs.Description.Unclosed
import ParseFailure.Proofs.Session.Located
import ParseFailure.Proofs.Terminal.Nesting
import ParseFailure.Proofs.Session.Synonyms
import ParseFailure.Proofs.Session.Relisted
import ParseFailure.Proofs.Display
import ParseFailure.Proofs.Session.Cloning
import ParseFailure.Proofs.Session.Saving
import ParseFailure.Proofs.Session.Lifetime
