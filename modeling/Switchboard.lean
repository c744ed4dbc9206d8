import Switchboard.Account
import Switchboard.Address
import Switchboard.Calendar
import Switchboard.Checksum
import Switchboard.Classifier
import Switchboard.Client
import Switchboard.Component
import Switchboard.Entries
import Switchboard.Failure
import Switchboard.Json.Line
import Switchboard.Json.Reader
import Switchboard.Logging.File
import Switchboard.Logging.Folder
import Switchboard.Logging.Journal
import Switchboard.Logging.Level
import Switchboard.Logging.Line
import Switchboard.Logging.Loggers
import Switchboard.Logging.Setup
import Switchboard.Logging.Structured
import Switchboard.Number.Binary64
import Switchboard.Number.Numeral
import Switchboard.Number.Places
import Switchboard.Number.Shortest
import Switchboard.Path
import Switchboard.Proofs.Address.Rendering
import Switchboard.Proofs.Classifier.Asking
import Switchboard.Proofs.Classifier.Creation
import Switchboard.Proofs.Classifier.FailClosed
import Switchboard.Proofs.Client.Exchange
import Switchboard.Proofs.Client.Outcome
import Switchboard.Proofs.Component.Written
import Switchboard.Proofs.Json.Reading
import Switchboard.Proofs.Logging.Accepted
import Switchboard.Proofs.Logging.Repeating
import Switchboard.Proofs.Logging.ServiceLevels
import Switchboard.Proofs.Logging.SettingUp
import Switchboard.Proofs.Number.Digits
import Switchboard.Proofs.Ranking.Answering
import Switchboard.Proofs.Ranking.Arrangement
import Switchboard.Proofs.Ranking.Boundary
import Switchboard.Proofs.Ranking.Circle
import Switchboard.Proofs.Ranking.Comparison
import Switchboard.Proofs.Ranking.Display
import Switchboard.Proofs.Ranking.Identity
import Switchboard.Proofs.Ranking.Labels
import Switchboard.Proofs.Ranking.Merging
import Switchboard.Proofs.Ranking.Neighbours
import Switchboard.Proofs.Ranking.Plain
import Switchboard.Proofs.Ranking.Runs
import Switchboard.Proofs.Ranking.Sorting
import Switchboard.Proofs.Registry.Binding
import Switchboard.Proofs.Registry.History
import Switchboard.Proofs.Registry.Names
import Switchboard.Proofs.Registry.Presence
import Switchboard.Proofs.Selection.Choice
import Switchboard.Proofs.Settings.Acceptance
import Switchboard.Proofs.Settings.Accessing
import Switchboard.Proofs.Settings.Amending
import Switchboard.Proofs.Settings.Contributing
import Switchboard.Proofs.Settings.Dating
import Switchboard.Proofs.Settings.Following
import Switchboard.Proofs.Settings.Holding
import Switchboard.Proofs.Settings.Lasting
import Switchboard.Proofs.Settings.Layering
import Switchboard.Proofs.Settings.Merging
import Switchboard.Proofs.Settings.Naming
import Switchboard.Proofs.Settings.Overlaying
import Switchboard.Proofs.Settings.Parting
import Switchboard.Proofs.Settings.Placing
import Switchboard.Proofs.Settings.ProcessStore
import Switchboard.Proofs.Settings.Reading
import Switchboard.Proofs.Settings.Refusal
import Switchboard.Proofs.Settings.Relabelling
import Switchboard.Proofs.Settings.Reloading
import Switchboard.Proofs.Settings.Reporting
import Switchboard.Proofs.Settings.Sections
import Switchboard.Proofs.Settings.Sharing
import Switchboard.Proofs.Settings.Standing
import Switchboard.Proofs.Settings.Surviving
import Switchboard.Proofs.Settings.Timing
import Switchboard.Proofs.Settings.Typing
import Switchboard.Proofs.Settings.Writing
import Switchboard.Proofs.Text.SmallForm
import Switchboard.Ranking.Merge
import Switchboard.Ranking.Order
import Switchboard.Ranking.Run
import Switchboard.Ranking.Search
import Switchboard.Ranking.Sort
import Switchboard.Registry
import Switchboard.Selection
import Switchboard.Session
import Switchboard.Settings.Builtin
import Switchboard.Settings.Check
import Switchboard.Settings.Environment
import Switchboard.Settings.File
import Switchboard.Settings.Merge
import Switchboard.Settings.Path
import Switchboard.Settings.Store
import Switchboard.Settings.Tree
import Switchboard.Subscription
import Switchboard.Text.BlankDigit
import Switchboard.Text.Case
import Switchboard.Text.Case.Context
import Switchboard.Text.Case.Mapping
import Switchboard.Text.CodePoint
import Switchboard.Text.Encoding
import Switchboard.Text.Letter
import Switchboard.Text.Octets
import Switchboard.Text.Printable
import Switchboard.Text.Quoted
import Switchboard.Text.Span
import Switchboard.Text.Split
import Switchboard.Trace
import Switchboard.Value
import Switchboard.Value.Key
import Switchboard.Value.Literal
import Switchboard.Value.Relabelling
import Switchboard.Value.Seating
import Switchboard.Value.Template
import Switchboard.Value.Tree
import Switchboard.Yaml.Assembly
import Switchboard.Yaml.Block
import Switchboard.Yaml.Character
import Switchboard.Yaml.Content
import Switchboard.Yaml.Fault
import Switchboard.Yaml.Form
import Switchboard.Yaml.Merging
import Switchboard.Yaml.Node
import Switchboard.Yaml.Plain
import Switchboard.Yaml.Quoted
import Switchboard.Yaml.Source
import Switchboard.Yaml.Tag
import Switchboard.Yaml.Timestamp
import Switchboard.Yaml.Token
