import SignIn.Account.Directory
import SignIn.Account.User
import SignIn.Command.Arguments
import SignIn.Command.Login
import SignIn.Command.Run
import SignIn.Config.Basic
import SignIn.Config.Load
import SignIn.Decimal
import SignIn.Identifier
import SignIn.Failure
import SignIn.Files
import SignIn.Provider.Basic
import SignIn.Json.Basic
import SignIn.Json.Decode
import SignIn.Json.Printer
import SignIn.Json.Reader
import SignIn.Main
import SignIn.Manager
import SignIn.Procedure.Basic
import SignIn.Procedure.Interleaving
import SignIn.Provider.Key
import SignIn.Provider.PasswordList
import SignIn.Store
import SignIn.Table
import SignIn.Text.Integer
import SignIn.Text.Quoted
import SignIn.Time.Instant
import SignIn.Time.Timestamp
import SignIn.Toml.Document
import SignIn.Toml.Node
import SignIn.Toml.Scalar
import SignIn.Toml.Value
import SignIn.Proofs.Service.Transitions
import SignIn.Proofs.Service.Locks
import SignIn.Proofs.Service.Rules
import SignIn.Proofs.Service.Moves
import SignIn.Proofs.Service.Settled
import SignIn.Proofs.Service.Runs
import SignIn.Proofs.Service.Serial
import SignIn.Proofs.Store.Calls
import SignIn.Proofs.Store.SerialOrder
import SignIn.Proofs.Service.Upheld
import SignIn.Proofs.Account.WellFormed
import SignIn.Proofs.Store.WellFormed
import SignIn.Proofs.Account.Holders
import SignIn.Proofs.Store.Linking
import SignIn.Proofs.Logins.Requests
import SignIn.Proofs.Logins.Handshake
import SignIn.Proofs.Logins.Accounts
import SignIn.Errand
import SignIn.Proofs.Store.NoTrace
import SignIn.Proofs.Service.Deeds
import SignIn.Proofs.Service.Gate
import SignIn.Proofs.Service.Journal
import SignIn.Proofs.Service.Course
import SignIn.Proofs.Service.Books
import SignIn.Proofs.Account.Ownership
import SignIn.Proofs.Store.Writes
import SignIn.Proofs.Store.Bootstrap
import SignIn.Proofs.Service.FirstLoad
import SignIn.Proofs.Store.FirstAccess
import SignIn.Proofs.Manager.Calls
import SignIn.Proofs.Manager.Restart
import SignIn.Proofs.Store.Copies
import SignIn.Proofs.Manager.Providers
import SignIn.Proofs.Account.Growth
import SignIn.Proofs.Service.Endings
import SignIn.Proofs.Store.Turns
import SignIn.Proofs.Store.Resolution
import SignIn.Proofs.Service.Attempts
import SignIn.Proofs.Service.Attempted
import SignIn.Proofs.Service.Seeking
import SignIn.Proofs.Account.Continuity
import SignIn.Proofs.Store.Continuity
import SignIn.Proofs.Service.Waiting
import SignIn.Proofs.Service.Completion
import SignIn.Proofs.Manager.Preparation
import SignIn.Proofs.Time.Arithmetic
import SignIn.Proofs.Manager.Lifetime
import SignIn.Proofs.Manager.Succession
import SignIn.Proofs.Logins.Visits
import SignIn.Proofs.Logins.Holdings
import SignIn.Proofs.Logins.Tallies
import SignIn.Proofs.Logins.Identity
import SignIn.Proofs.Manager.Clients
import SignIn.Proofs.Logins.PasswordForm
import SignIn.Proofs.Time.Calendar
import SignIn.Proofs.Text.Integer
import SignIn.Proofs.Time.Timestamp
import SignIn.Proofs.Json.Records
import SignIn.Proofs.Json.Ordered
import SignIn.Proofs.Json.Text
import SignIn.Proofs.Account.Encoding
import SignIn.Proofs.Config.Encoding
import SignIn.Proofs.Logins.PasswordSettings
import SignIn.Proofs.Logins.ListedUsers
import SignIn.Proofs.Toml.Keys
import SignIn.Proofs.Config.Document
import SignIn.Proofs.Config.Override
import SignIn.Proofs.Config.Precedence
import SignIn.Proofs.Command.Calls
import SignIn.Proofs.Command.Login
