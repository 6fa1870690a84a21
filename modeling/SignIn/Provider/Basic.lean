import SignIn.Failure
import SignIn.Procedure.Basic

/-!
# Login flows and their providers

A login goes through steps. Each step asks for a form to be filled in, creates the entry that the
login was for, or ends the login. `FlowStep` is the answer of a step, with its form in JSON: an
object with a tag under `type`, or an array that begins with the tag. A `Flow` answers what is
submitted to its steps; an answer may depend on what was submitted before. An `OpenFlow` is a flow
that is under way, with everything submitted to it so far.

A `Provider` lets people sign in. It opens login flows, turns the result of a flow into
credentials, and tells what it knows about a person whose user is about to be created. Before its
first flow it is prepared once. A provider may look at the credentials that it has issued, through
its hooks, and at nothing else of the data.
-/

namespace SignIn

/-- The answer of a step. There are three kinds of them, each with its own tag in JSON. -/
inductive FlowStep where
  /-- A form is to be filled in. Errors stand under the names of fields or under `base`. -/
  | form (stepId : String) (errors : Table String)
  /-- The login is complete. -/
  | createEntry (data : Json)
  /-- The login has ended without success. -/
  | abort (reason : String)

namespace FlowStep

/-- A form without errors. -/
def blankForm (stepId : String) : FlowStep := .form stepId []

/-- A step as JSON. -/
def toJson : FlowStep → Json
  | .form stepId errors =>
    .record [("type", .text "form"), ("step_id", .text stepId),
      ("errors", .object (errors.map fun (k, s) => (k, .text s)))]
  | .createEntry data => .record [("type", .text "create_entry"), ("data", data)]
  | .abort reason => .record [("type", .text "abort"), ("reason", .text reason)]

/-- The fields of the variant with a tag. -/
def variant? (tag : String) : Option (Fields FlowStep) :=
  if tag = "form" then
    some (Fields.start FlowStep.form
      |>.andThen (.required "step_id" Decode.text)
      |>.andThen (.required "errors" (Decode.table Decode.text)))
  else if tag = "create_entry" then
    some (Fields.start FlowStep.createEntry |>.andThen (.required "data" Decode.any))
  else if tag = "abort" then
    some (Fields.start FlowStep.abort |>.andThen (.required "reason" Decode.text))
  else none

/-- The fields of the variant that a tag names. -/
def variantOf (tag : Json) : Except DecodeFault (Fields FlowStep) := do
  let tag ← Decode.text tag
  match variant? tag with
  | some fields => .ok fields
  | none => .error (.unknownVariant tag)

/-- Reads a step. -/
def ofJson : Decoder FlowStep
  | .object members =>
    match Table.get? members "type" with
    | none => .error (.missing "type")
    | some tag => do (← variantOf tag).decode "FlowStep" (.object members)
  | .array (tag :: items) => do (← variantOf tag).decode "FlowStep" (.array items)
  | .array [] => .error (.missing "type")
  | json => .error (.unexpected json (.record "FlowStep"))

end FlowStep

/-- What a completed flow hands over: the provider it belongs to, and the data of its entry. -/
structure FlowResult where
  handler : ProviderKey
  data : Json

namespace FlowResult

/-- The result of a flow as JSON. -/
def toJson (r : FlowResult) : Json :=
  .record [("handler", r.handler.toJson), ("data", r.data)]

/-- The fields of the result of a flow. -/
def fields : Fields FlowResult :=
  Fields.start FlowResult.mk
    |>.andThen (.required "handler" ProviderKey.ofJson)
    |>.andThen (.required "data" Decode.any)

/-- Reads the result of a flow. -/
def ofJson : Decoder FlowResult := fields.decode "FlowResult"

end FlowResult

/-! ### Flows -/

/-- What is submitted to a step. There is no input where the step is shown for the first time. -/
structure Submission where
  stepId : String
  input : Option Json := none

/-- How a login goes. A flow has no state but what has been submitted to it, and no part in the
store or in the world. -/
structure Flow where
  /-- The answer to a submission after the given earlier ones, of which the latest comes first. -/
  respond : (earlier : List Submission) → Submission → Except Failure FlowStep

/-- A login that is under way. -/
structure OpenFlow where
  flow : Flow
  /-- What has been submitted, the latest first. -/
  earlier : List Submission := []

/-- Submits to a flow under way: the answer, and the flow afterwards. -/
def OpenFlow.submit (f : OpenFlow) (s : Submission) : Except Failure FlowStep × OpenFlow :=
  (f.flow.respond f.earlier s, { f with earlier := s :: f.earlier })

/-! ### Providers -/

/-- A provider of logins, in a world of any type. What it does falls into four parts. To be
prepared, to turn the result of a flow into credentials and to tell about a person are hooks, which
may look at the store; to open a flow is a value. -/
structure Provider (σ : Type) where
  config : ProviderConfig
  /-- What prepares the provider: a hook that ends with something to be done in the world, and that
  does nothing unless the provider has one of its own. -/
  prepare : Hook (Effect σ) := .answer (.ok fun w => (.ok (), w))
  /-- The flow of a new login, or the failure to open one. A provider may wait for something before
  it has the flow; here it is there at once, and opening it takes no step and looks at nothing. What
  an open flow is waiting for lies in its answers, and what has to be done once before the first
  flow lies in the preparation. -/
  openFlow : Except Failure Flow
  /-- The credentials for the result of a flow: stored ones, or fresh ones with the given id. The id
  is drawn by the caller whether or not it comes to be used. -/
  credentials : (freshId : String) → Json → Hook Credentials
  /-- What is known about the person behind credentials: nothing, unless the provider has a hook of
  its own for it. -/
  userMeta : Credentials → Hook UserMeta := fun _ => .answer (.ok {})

/-- What builds a provider from its configuration, unless the configuration is of no use. A provider
is built without a look at the store or the world. -/
abbrev Factory (σ : Type) := ProviderConfig → Except Failure (Provider σ)

namespace Provider

variable {σ : Type}

/-- The name of a provider that is configured without one. -/
def standardName : String := "Unnamed auth provider"

/-- The key of a provider. -/
def key (p : Provider σ) : ProviderKey := p.config.key

/-- The name to show. -/
def name (p : Provider σ) : String := p.config.name.getD standardName

/-- What a provider shows about itself. -/
def info (p : Provider σ) : ProviderInfo := ⟨p.name, p.config.id, p.config.kind⟩

/-- Fresh credentials of a provider, which are marked as new and stored nowhere yet. -/
def issue (p : Provider σ) (freshId : String) (data : Json) : Credentials :=
  .issue p.key freshId data

@[simp] theorem key_issue (p : Provider σ) (freshId : String) (data : Json) :
    (p.issue freshId data).key = p.key := rfl

@[simp] theorem isNew_issue (p : Provider σ) (freshId : String) (data : Json) :
    (p.issue freshId data).isNew = true := rfl

end Provider

end SignIn
