import SignIn.Manager

/-!
# Signing in by one form

`OpenFlow.fillIn` takes a flow from its first step to its entry with a single form. A flow that
asks for a second form has rejected the first. No flow is asked more than twice.
-/

namespace SignIn

/-- Why a command failed. -/
inductive CommandFailure where
  | service (failure : Failure)
  /-- The form was rejected, with the given errors. -/
  | rejected (errors : Table String)
  /-- The flow ended for the given reason. -/
  | aborted (reason : String)
  /-- The validity of tokens is too long for a span of time. -/
  | validityOverflow
  /-- The new token would expire after the last instant. -/
  | expiryOverflow

namespace CommandFailure

/-- The message of a failure. -/
def message : CommandFailure → String
  | .service failure => failure.message
  | .rejected errors => "login rejected: " ++ Text.quoteFields errors
  | .aborted reason => "login aborted: " ++ reason
  | .validityOverflow => "the validity of tokens is too long"
  | .expiryOverflow => "the token expires after the last instant"

/-- Whether the failure is a fault in the program's arithmetic and none of its user. -/
def isCrash : CommandFailure → Bool
  | .validityOverflow | .expiryOverflow => true
  | _ => false

end CommandFailure

namespace OpenFlow

/-- The step that a login begins with. -/
def firstStep : String := "init"

/-- The data of the entry that a step creates; a form is a rejection. -/
def entryOf : FlowStep → Except CommandFailure Json
  | .form _ errors => .error (.rejected errors)
  | .createEntry data => .ok data
  | .abort reason => .error (.aborted reason)

/-- Submits to a flow and goes on with its answer. -/
def thenWith {α : Type} (f : OpenFlow) (s : Submission)
    (next : FlowStep → OpenFlow → Except CommandFailure α × OpenFlow) :
    Except CommandFailure α × OpenFlow :=
  match f.submit s with
  | (.error e, f) => (.error (.service e), f)
  | (.ok step, f) => next step f

/-- Takes a flow to its entry, filling in one form: the data of the entry, and the flow afterwards.
The first step is shown without any input; the form that it asks for gets the input, under the name
of its own step, and what comes then is the end in any case. -/
def fillIn (f : OpenFlow) (input : Json) : Except CommandFailure Json × OpenFlow :=
  f.thenWith ⟨firstStep, none⟩ fun step f =>
    match step with
    | .form stepId _ => f.thenWith ⟨stepId, some input⟩ fun step f => (entryOf step, f)
    | step => (entryOf step, f)

/-- A continuation that makes at most so many submissions makes, after one more, one more. -/
theorem length_earlier_thenWith_le {α : Type} {f : OpenFlow} {s : Submission} {n : Nat}
    {next : FlowStep → OpenFlow → Except CommandFailure α × OpenFlow}
    (h : ∀ step g, (next step g).2.earlier.length ≤ g.earlier.length + n) :
    (f.thenWith s next).2.earlier.length ≤ f.earlier.length + 1 + n := by
  simp only [thenWith, submit]
  cases f.flow.respond f.earlier s with
  | error e => exact Nat.le_add_right _ n
  | ok step => exact h step ⟨f.flow, s :: f.earlier⟩

/-- A flow is asked at most twice, whatever it answers. -/
theorem length_earlier_fillIn_le (f : OpenFlow) (input : Json) :
    (f.fillIn input).2.earlier.length ≤ f.earlier.length + 2 := by
  refine length_earlier_thenWith_le (n := 1) fun step g => ?_
  cases step with
  | form stepId errors =>
    refine length_earlier_thenWith_le (n := 0) ?_
    intro step g
    exact Nat.le_refl g.earlier.length
  | createEntry data => exact Nat.le_succ _
  | abort reason => exact Nat.le_succ _

end OpenFlow

/-- The new ids and secrets of one run of a command, and the present instant. They are drawn before
the run, and each is used once at most. -/
structure Supply where
  credentialsId : String
  userId : String
  clientId : String
  clientSecret : String
  tokenId : String
  now : Instant

/-- What a sign-in by the command line has made. -/
structure SignedIn where
  user : UserView
  token : Token
  expiresAt : Instant

/-- A part of a command, which may fail and works on the shared state. What it has done to the state
before it fails stays done. -/
abbrev CommandM := ExceptT CommandFailure (StateM (Shared Unit))

namespace CommandM

/-- Carries out a call of the service, which keeps nothing after the command. -/
def call {α : Type} (p : Procedure Unit α) : CommandM α := fun s =>
  match p.run (.transient Unit) s with
  | (.ok a, s) => (.ok a, s)
  | (.error e, s) => (.error (.service e), s)

end CommandM

namespace Manager

/-- The input for the form of a login. -/
def loginInput (username password : String) : Json :=
  .record [("username", .text username), ("password", .text password)]

/-- The name of the client that tokens of the command line are issued to. -/
def commandClientName : String := "cli"

/-- Signs in through a provider, and issues a token to a new client. The moment of expiry is
computed last: where there is none, the user, the client and the token have been made all the
same. -/
def signIn (m : Manager Unit) (supply : Supply) (key : ProviderKey) (username password : String) :
    CommandM SignedIn := do
  let flow ← CommandM.call (m.openFlow key)
  let data ← ExceptT.mk (pure (flow.fillIn (loginInput username password)).1)
  let credentials ← CommandM.call (m.finishFlow supply.credentialsId ⟨key, data⟩)
  let (user, _) ← CommandM.call (m.resolve supply.userId credentials)
  let client ← CommandM.call
    (Store.createClient ⟨commandClientName, supply.clientId, supply.clientSecret⟩)
  let token ← CommandM.call (m.createToken user.id client.id supply.tokenId supply.now)
  match token.expiresAt? with
  | some expiresAt => pure ⟨user.view, token, expiresAt⟩
  | none => throw .expiryOverflow

end Manager

end SignIn
