import CustomCommands.Action
import CustomCommands.Admin
import CustomCommands.Arena
import CustomCommands.Argument
import CustomCommands.ArgumentType
import CustomCommands.Assoc
import CustomCommands.Bindings
import CustomCommands.Catalogue
import CustomCommands.Clock
import CustomCommands.Colour
import CustomCommands.Command
import CustomCommands.CommandLine
import CustomCommands.Completion
import CustomCommands.Config
import CustomCommands.Cooldowns
import CustomCommands.Countdown
import CustomCommands.Decimal.Binary
import CustomCommands.Decimal.Reader
import CustomCommands.Decimal.Shortest
import CustomCommands.Definition
import CustomCommands.Dispatcher
import CustomCommands.Duration
import CustomCommands.Executor
import CustomCommands.Failure
import CustomCommands.Files.FileTree
import CustomCommands.Files.Loader
import CustomCommands.Files.Path
import CustomCommands.Host.Ledger
import CustomCommands.Host.Notice
import CustomCommands.Host.Platform
import CustomCommands.Host.Registrar
import CustomCommands.Identity
import CustomCommands.Json.Document
import CustomCommands.Json.Number
import CustomCommands.Main
import CustomCommands.Markup.Node
import CustomCommands.Matching
import CustomCommands.Price
import CustomCommands.Program
import CustomCommands.Pump
import CustomCommands.Shell
import CustomCommands.ShellLine
import CustomCommands.Simulation
import CustomCommands.Table
import CustomCommands.Terminal
import CustomCommands.Text.Blank
import CustomCommands.Text.CaseTable
import CustomCommands.Text.EmojiTable
import CustomCommands.Text.Joining
import CustomCommands.Text.Lowercase
import CustomCommands.Text.Ranges
import CustomCommands.Text.Replace
import CustomCommands.Text.Width
import CustomCommands.Text.WidthTable
import CustomCommands.TimerQueue
import CustomCommands.Toml.Document
import CustomCommands.Toml.Scalar
import CustomCommands.Toml.Table
import CustomCommands.Toml.Text
import CustomCommands.Uuid
import CustomCommands.Value
import CustomCommands.WorldFile
import CustomCommands.Yaml.Anchor
import CustomCommands.Yaml.Block
import CustomCommands.Yaml.Cursor
import CustomCommands.Yaml.Document
import CustomCommands.Yaml.Folding
import CustomCommands.Yaml.Layout
import CustomCommands.Yaml.Plain
import CustomCommands.Yaml.Quoted
import CustomCommands.Yaml.Scalar
import CustomCommands.Yaml.Tag
import CustomCommands.Yaml.Token
import CustomCommands.Yaml.Tree
import CustomCommands.Proofs.Calls
import CustomCommands.Proofs.AllOrNothing
import CustomCommands.Proofs.Runs
import CustomCommands.Proofs.CooldownGate
import CustomCommands.Proofs.Waits
import CustomCommands.Proofs.Schedule
import CustomCommands.Proofs.Countdowns
import CustomCommands.Proofs.Selection
import CustomCommands.Proofs.Accounting
import CustomCommands.Proofs.Cleanups
import CustomCommands.Proofs.Catalogues
import CustomCommands.Proofs.Labels
import CustomCommands.Proofs.Census
import CustomCommands.Proofs.Isolation
import CustomCommands.Proofs.Veils
import CustomCommands.Proofs.Suggestions
import CustomCommands.Proofs.Outlines
import CustomCommands.Proofs.Precedence
import CustomCommands.Proofs.LetterCase
import CustomCommands.Proofs.JoinedPaths
import CustomCommands.Proofs.FileTrees
import CustomCommands.Proofs.UnitFiles
import CustomCommands.Proofs.Reloads
import CustomCommands.Proofs.Inspection
import CustomCommands.Proofs.Verdicts
import CustomCommands.Proofs.Siblings
import CustomCommands.Proofs.LiteralChains
import CustomCommands.Proofs.BoundWords
import CustomCommands.Proofs.Substitution
import CustomCommands.Proofs.ActionRuns
import CustomCommands.Proofs.DueTasks
import CustomCommands.Proofs.Rows
import CustomCommands.Proofs.Building
import CustomCommands.Proofs.WordEnds
import CustomCommands.Proofs.PartialWords
import CustomCommands.Proofs.Teleports
import CustomCommands.Proofs.Words
import CustomCommands.Proofs.Durations
import CustomCommands.Proofs.ColourCodes
import CustomCommands.Proofs.Screens
import CustomCommands.Proofs.Gaps
import CustomCommands.Proofs.TypeErrors
import CustomCommands.Proofs.TypedLines
import CustomCommands.Proofs.TypedLabels
import CustomCommands.Proofs.Residents
import CustomCommands.Proofs.Addresses
import CustomCommands.Proofs.Readings
import CustomCommands.Proofs.Arrivals
