import SignIn.Identifier
import SignIn.Provider.Basic

/-!
# Logins by a configured list of passwords

The settings of this provider list its users under `users`, each with a username, a password and
perhaps a name to show. Its flow is one form, which asks for a username and a password. A wrong
password and an unknown username are refused with the same form, so that a refusal does not tell
which of them it was.

Where a username is listed more than once, its first entry counts.
-/

namespace SignIn

/-- An entry of a list of passwords. -/
structure PasswordEntry where
  username : String
  password : String
  /-- The name to show. -/
  name : Option String
  deriving DecidableEq, Repr

namespace PasswordEntry

/-- The fields of an entry. An array may leave out the name. -/
def fields : Fields PasswordEntry :=
  Fields.start PasswordEntry.mk
    |>.andThen (.required "username" Decode.text)
    |>.andThen (.required "password" Decode.text)
    |>.andThen (.defaulted "name" (Decode.nullable Decode.text) none)

/-- Reads an entry. -/
def ofJson : Decoder PasswordEntry := fields.decode "ExampleUser"

end PasswordEntry

/-- The users who can sign in by a password. A username may be listed twice, and then its first
entry counts. -/
abbrev PasswordList := List PasswordEntry

namespace PasswordList

/-- The type under which providers of this kind are configured. -/
def kind : String := "insecure_example"

/-- The key of the list in the settings. -/
def settingsKey : String := "users"

/-- The step of the flow. -/
def stepId : String := "init"

/-- The list that the settings of a provider hold; it is empty where they hold none. -/
def ofSettings (settings : Table Json) : Except DecodeFault PasswordList :=
  match Table.get? settings settingsKey with
  | none => .ok []
  | some json => Decode.list PasswordEntry.ofJson json

/-- The entry that counts for a username. -/
def entry? (users : PasswordList) (username : String) : Option PasswordEntry :=
  users.find? fun u => u.username == username

/-- Checks a username and a password, the password by its digest. An unknown username and a wrong
password are told apart here, and not in the form that answers a login. -/
def check (users : PasswordList) (username password : String) : Except Failure Unit :=
  match users.entry? username with
  | none => .error .invalidUser
  | some u => if sameDigestText u.password password then .ok () else .error .invalidPassword

/-- The data of the entry that a completed flow creates, and of credentials. -/
def loginData (username : String) : Json := .record [("username", .text username)]

/-- The form that refuses a login. -/
def refusal : FlowStep := .form stepId [("base", "invalid_auth")]

/-- The answer to a form that has been filled in. What is missing counts as empty. -/
def answer (users : PasswordList) (input : Json) : Except Failure FlowStep :=
  let username := (input.textMember? "username").getD ""
  match users.check username ((input.textMember? "password").getD "") with
  | .ok () => .ok (.createEntry (loginData username))
  | .error e => if e.concernsLogin then .ok refusal else .error e

/-- The flow of a login. Its answers do not depend on what was submitted before. -/
def flow (users : PasswordList) : Flow where
  respond _ submission :=
    if submission.stepId ≠ stepId then .error (.flow ("unknown step: " ++ submission.stepId))
    else
      match submission.input with
      | none => .ok (.blankForm stepId)
      | some input => users.answer input

/-- The credentials for the result of a flow: the first ones stored for the username, or else
fresh ones. -/
def credentials (key : ProviderKey) (freshId : String) (data : Json) : Hook Credentials :=
  match data.textMember? "username" with
  | none => .answer (.error (.flow "flow result has no username"))
  | some username =>
    .consult fun stored =>
      match stored.find? fun c => c.data.textMember? "username" == some username with
      | some c => .answer (.ok c)
      | none => .answer (.ok (.issue key freshId (loginData username)))

/-- The name listed for the username in credentials. -/
def displayName? (users : PasswordList) (c : Credentials) : Option String :=
  ((c.data.textMember? "username").bind users.entry?).bind PasswordEntry.name

/-- The provider with a list of passwords. It has nothing to be prepared, and its flow is there at
once. -/
def provider {σ : Type} (config : ProviderConfig) (users : PasswordList) : Provider σ where
  config := config
  openFlow := .ok users.flow
  credentials := credentials config.key
  userMeta c := .answer (.ok ⟨users.displayName? c⟩)

/-- Builds the provider from its configuration. -/
def factory {σ : Type} : Factory σ := fun config =>
  match ofSettings config.extra with
  | .ok users => .ok (provider config users)
  | .error fault => .error (.invalidConfig (.settings config.kind fault))

end PasswordList

end SignIn
