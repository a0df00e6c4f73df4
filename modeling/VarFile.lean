import VarFile.Editor.Theme
import VarFile.Main
import VarFile.Session
import VarFile.Text.Lossless
import VarFile.Proofs.Text.Boundary
import VarFile.Proofs.Text.Lines
import VarFile.Proofs.Value.Words
import VarFile.Proofs.Record.Line
import VarFile.Proofs.Document.History
import VarFile.Proofs.Document.Lookup
import VarFile.Proofs.Rendering.Settled
import VarFile.Proofs.Rendering.Reread
import VarFile.Proofs.Rendering.Untouched
import VarFile.Proofs.Shell.Line
import VarFile.Proofs.Rendering.Harmless
import VarFile.Proofs.Document.Saved
import VarFile.Proofs.Document.Stored
import VarFile.Proofs.Editor.Looks
import VarFile.Proofs.Editor.Effect
import VarFile.Proofs.Editor.Journal
import VarFile.Proofs.Editor.Undo
import VarFile.Proofs.Editor.Work
import VarFile.Proofs.Editor.Stack
import VarFile.Proofs.Files.Tree
import VarFile.Proofs.Files.Outside
import VarFile.Proofs.Storage.Place
import VarFile.Proofs.Storage.Reopen
import VarFile.Proofs.Editor.File
import VarFile.Proofs.Editor.Pending
import VarFile.Proofs.Editor.Summary
import VarFile.Proofs.Document.Refused
import VarFile.Proofs.Json.Limits
import VarFile.Proofs.ConfigFolder.Loading
import VarFile.Proofs.CommandLine.Outcome
import VarFile.Proofs.CommandLine.Defaults
import VarFile.Proofs.CommandLine.Files
import VarFile.Proofs.Text.Character
import VarFile.Proofs.Document.Changed
import VarFile.Proofs.Storage.Offer
import VarFile.Proofs.Rendering.Carried
import VarFile.Proofs.CommandLine.Request
import VarFile.Proofs.CommandLine.Lookup
import VarFile.Proofs.CommandLine.Update
import VarFile.Proofs.Document.Revision
import VarFile.Proofs.Document.Algebra
import VarFile.Proofs.Rendering.Accepted
import VarFile.Proofs.Shell.Substitution
import VarFile.Proofs.Rendering.Substitution
import VarFile.Proofs.Storage.Exact
import VarFile.Proofs.Document.Listing
import VarFile.Proofs.Value.Legacy
import VarFile.Proofs.Rendering.Rewritten
import VarFile.Proofs.CommandLine.Check
import VarFile.Proofs.Shell.Word
import VarFile.Proofs.Shell.Literal
import VarFile.Proofs.Value.Inert
import VarFile.Proofs.Text.Numeral
import VarFile.Proofs.Typed.Integer
import VarFile.Proofs.Typed.RoundTrip
import VarFile.Proofs.Storage.Renamed
import VarFile.Proofs.Editor.Naming
import VarFile.Proofs.Editor.Copied
import VarFile.Proofs.Editor.Cursor
import VarFile.Proofs.Text.LowerCase
import VarFile.Proofs.Document.Search
import VarFile.Proofs.CommandLine.Mode
import VarFile.Proofs.Record.Grammar
import VarFile.Proofs.Log.Event
import VarFile.Proofs.Storage.Reported
import VarFile.Proofs.Editor.Still
import VarFile.Proofs.Editor.Chord
