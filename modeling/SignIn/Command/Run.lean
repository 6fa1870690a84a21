import SignIn.Command.Arguments
import SignIn.Command.Login
import SignIn.Config.Load
import SignIn.Json.Printer

/-!
# Running a command

`Command.execute` finds the configuration, makes the manager that it calls for and performs the
action. The data live as long as the command. `Ending.ofArguments` is a whole run of the program,
with what it prints and the code that it ends with.
-/

namespace SignIn

namespace SignedIn

/-- What is printed after a sign-in. -/
def toJson (s : SignedIn) : Json :=
  .record [("user", s.user.toJson),
    ("token", .record [("id", .text s.token.id), ("client_id", .text s.token.clientId),
      ("expires_at", s.expiresAt.toJson)])]

end SignedIn

namespace Command

/-- The configuration that a command works with. -/
def config (files : Files) (env : Environment) (c : Command) : Except ConfigFault Config :=
  match c.configPath with
  | some path => Config.ofFileOverridden files env path
  | none => Config.load files env

/-- The path of the file that a command reads. -/
def path (env : Environment) (c : Command) : String := c.configPath.getD (Config.path env)

/-- Performs an action: the lines to print. -/
def perform (m : Manager Unit) (supply : Supply) : Action → CommandM (List Json)
  | .providers => pure (m.infos.map ProviderInfo.toJson)
  | .createClient name => do
    let client ← CommandM.call
      (Store.createClient ⟨name, supply.clientId, supply.clientSecret⟩)
    pure [client.toJson]
  | .login key username password => do
    let done ← m.signIn supply key username password
    pure [done.toJson]

/-- Executes a command: the lines to print or the failure, and the data at the end. The store of a
command begins empty and is kept nowhere, so that what it ends with is known to those who look at it
here and to nobody else. -/
def execute (files : Files) (env : Environment) (supply : Supply) (c : Command) :
    Except CommandFailure (List Json) × Directory :=
  match c.config files env with
  | .error fault => (.error (.service (.invalidConfig fault)), {})
  | .ok config =>
    match Manager.ofConfig .builtin config with
    | .error (.invalid fault) => (.error (.service (.invalidConfig fault)), {})
    | .error .validityOverflow => (.error .validityOverflow, {})
    | .ok m =>
      let (r, s) := perform m supply c.action { world := () }
      (r, s.directory)

end Command

/-- How a run of the program ends. -/
inductive Ending where
  /-- Its arguments are no command. -/
  | stopped (detour : Detour)
  | failed (failure : CommandFailure)
  /-- It has printed values, one on each line. -/
  | done (values : List Json)

namespace Ending

/-- How the program ends when it is run with arguments. -/
def ofArguments (files : Files) (env : Environment) (supply : Supply) (arguments : List String) :
    Ending :=
  match Command.ofArguments arguments with
  | .error detour => .stopped detour
  | .ok command =>
    match (command.execute files env supply).1 with
    | .ok values => .done values
    | .error failure => .failed failure

/-- The code that tells the caller how the program has ended. -/
def exitCode : Ending → UInt32
  | .stopped .usage => 2
  | .stopped _ | .done _ => 0
  | .failed failure => if failure.isCrash then 101 else 1

/-- The lines that are printed. -/
def output : Ending → List String
  | .stopped (.help topic) => topic.helpLines
  | .stopped .version => [versionLine]
  | .stopped .usage | .failed _ => []
  | .done values => values.map Json.render

/-- The lines that tell what went wrong. -/
def complaint : Ending → List String
  | .stopped .usage =>
    ["error: the arguments are not understood", "", "For more information, try '--help'."]
  | .failed failure => ["Error: " ++ failure.message]
  | .stopped _ | .done _ => []

end Ending

end SignIn
