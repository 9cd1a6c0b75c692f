import MindMap.Text.Blank
import MindMap.Text.DecimalDigit
import MindMap.Text.LowerCase
import MindMap.Text.GraphemeProperties
import MindMap.Text.WidthProperties
import MindMap.Text.Width
import MindMap.Decimal.Layout
import MindMap.Decimal.Reader
import MindMap.Table
import MindMap.CommandLine.Invocation
import MindMap.Command.Parameter
import MindMap.Outline.Walk
import MindMap.Outline.Edit
import MindMap.Navigation
import MindMap.Keys.Sequence
import MindMap.Host
import MindMap.Command.Search
import MindMap.Command.Help
import MindMap.Command.Execute
import MindMap.Command.Stock
import MindMap.Canvas.Dispatch
import MindMap.Session.Operations
import MindMap.Host.Scripted
import MindMap.Json.Library
import MindMap.Outline.Stored
import MindMap.Terminal.Screen
import MindMap.Terminal.KeyNotation
import MindMap.Main
import MindMap.Proofs.Session.Announcements
import MindMap.Proofs.Session.History
import MindMap.Proofs.Command.Deletion
import MindMap.Proofs.Terminal.Quitting
import MindMap.Proofs.Outline.Storage
import MindMap.Proofs.CommandLine.Rereading
import MindMap.Proofs.Keys.Lines
import MindMap.Proofs.Command.Sight
import MindMap.Proofs.Command.Registration
import MindMap.Proofs.CommandLine.Sources
import MindMap.Proofs.Command.Targets
import MindMap.Proofs.Command.Edits
import MindMap.Proofs.Terminal.Typing
import MindMap.Proofs.Terminal.Scrolling
import MindMap.Proofs.Outline.Relocation
import MindMap.Proofs.Outline.Distinctness
import MindMap.Proofs.Outline.Traversals
import MindMap.Proofs.Session.Additions
import MindMap.Proofs.Motions.Destinations
import MindMap.Proofs.Outline.Places
import MindMap.Proofs.Command.Renaming
import MindMap.Proofs.Terminal.Boundaries
import MindMap.Proofs.CommandLine.Quotations
import MindMap.Proofs.CommandLine.Items
import MindMap.Proofs.Command.Rechecking
import MindMap.Proofs.Command.Clashes
import MindMap.Proofs.Command.Completion
import MindMap.Proofs.Command.Ranking
import MindMap.Proofs.Session.Menus
import MindMap.Proofs.Motions.Nearest
import MindMap.Proofs.Canvas.Modes
import MindMap.Proofs.Command.Listing
import MindMap.Proofs.Session.Allocation
