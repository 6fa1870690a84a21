import SignIn.Config.Basic
import SignIn.Text.Integer
import SignIn.Toml.Document

/-!
# Where a configuration comes from

`Config.ofText` reads a TOML document and validates what it says. `Config.ofFile` does so with a
file, and `Config.load` with the file that the environment names, or with the defaults when
nothing is there; after that it applies the override of the environment. A file is validated before
the override is applied, so that an override does not mend it.

Two variables of the environment matter: the path of the configuration file, and a number of
minutes that overrides the configured one. A variable whose bytes are not UTF-8 counts as unset.
`Config.override` applies the second one. It checks the whole configuration afterwards, and when
that fails the new minutes have been set all the same.
-/

namespace SignIn

/-! ### The environment -/

/-- The bytes of the variables that are set. -/
structure Environment where
  /-- The path of the configuration file. -/
  configPath : Option ByteArray := none
  /-- The minutes that override the configured ones. -/
  expiryMinutes : Option ByteArray := none

/-- The text of a variable that is set and holds UTF-8. One that does not is taken for one that is
not set. -/
def variableText? (value : Option ByteArray) : Option String := value.bind String.fromUTF8?

namespace Config

/-- The path of the configuration file where the environment has none. -/
def standardPath : String := "auth.toml"

/-- The path of the configuration file. -/
def path (env : Environment) : String := (variableText? env.configPath).getD standardPath

/-- The number of sixty-four bits that a text denotes, white space at its ends aside. Zero and
negative numbers are numbers here; what they are good for is the matter of the check. -/
def minutesOfText? (s : String) : Option Int64 :=
  match Text.integer? (Text.trimList s.toList) with
  | some n =>
    if -9223372036854775808 ≤ n ∧ n ≤ 9223372036854775807 then some (Int64.ofInt n) else none
  | none => none

/-- Applies the override to a configuration: the outcome, and the configuration afterwards. A text
that is no number changes nothing. A number is set first and checked then, along with the rest of
the configuration, and stays where the check fails. -/
def override (env : Environment) (c : Config) : Except ConfigFault Unit × Config :=
  match variableText? env.expiryMinutes with
  | none => (c.validate, c)
  | some text =>
    match minutesOfText? text with
    | none => (.error (.minutesNotANumber text), c)
    | some minutes =>
      let c := { c with minutes }
      (c.validate, c)

/-- The configuration with the override applied. -/
def overridden (env : Environment) (c : Config) : Except ConfigFault Config :=
  match c.override env with
  | (.ok (), c) => .ok c
  | (.error fault, _) => .error fault

end Config

/-! ### Files -/

namespace ProviderConfig

/-- The member under a key if it is a text: nothing where there is no such member, a refusal
where it is something else. -/
def tomlText? (members : List (String × Toml.Value)) (key : String) : Option (Option String) :=
  match Table.get? members key with
  | none => some none
  | some (.text s) => some (some s)
  | some _ => none

/-- A provider's configuration from a table of a document. What is not one of the known keys goes to
the provider itself, in JSON and in the order of the keys. -/
def ofToml : Toml.Value → Option ProviderConfig
  | .table members => do
    let kind ← (← tomlText? members "type")
    let name ← tomlText? members "name"
    let id ← tomlText? members "id"
    let extra := members.filter fun m => !knownKeys.contains m.1
    some ⟨kind, name, id, Table.ofList (Toml.Value.membersToJson extra)⟩
  | _ => none

end ProviderConfig

namespace Config

/-- The minutes of a document. -/
def tomlMinutes? (members : List (String × Toml.Value)) : Option Int64 :=
  match Table.get? members "access_token_valid_minutes" with
  | none => some standardMinutes
  | some (.integer n) => some (Int64.ofInt n)
  | some _ => none

/-- The providers of a document. -/
def tomlProviders? (members : List (String × Toml.Value)) : Option (List ProviderConfig) :=
  match Table.get? members "providers" with
  | none => some []
  | some (.array items) => items.mapM ProviderConfig.ofToml
  | some _ => none

/-- The configuration that the members of a document describe. -/
def ofToml (members : List (String × Toml.Value)) : Option Config := do
  some ⟨← tomlMinutes? members, ← tomlProviders? members⟩

/-- The valid configuration that a document holds. -/
def ofText (text : String) : Except ConfigFault Config :=
  match (Toml.parse? text).bind ofToml with
  | none => .error .malformed
  | some c => c.validate.map fun _ => c

/-- The valid configuration that a file holds. A file that cannot be read is no reason to use the
defaults. -/
def ofFile (files : Files) (path : String) : Except ConfigFault Config :=
  match (files path).text with
  | .error fault => .error (.unreadable path fault)
  | .ok text => ofText text

/-- The configuration of a file, with the override of the environment applied. -/
def ofFileOverridden (files : Files) (env : Environment) (path : String) :
    Except ConfigFault Config :=
  match ofFile files path with
  | .error fault => .error fault
  | .ok c => c.overridden env

/-- The configuration of the file that the environment names, or the default one, with the override
of the environment applied. Which of the two is settled by whether anything is at the path at all,
and not by whether it can be used. -/
def load (files : Files) (env : Environment) : Except ConfigFault Config :=
  if (files (path env)).isThere then ofFileOverridden files env (path env)
  else Config.overridden env {}

end Config

end SignIn
