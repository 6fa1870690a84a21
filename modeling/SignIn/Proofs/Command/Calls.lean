import SignIn.Command.Run
import SignIn.Proofs.Logins.PasswordForm

/-!
# The calls of a command

A command is a row of calls on data that are empty at first. `CommandM.Takes` says what a part of a
command comes to and what it makes of the data; each call of a login has one lemma of this form, and
`Manager.takes_signIn` puts them together.

A login goes on with a flow as long as there is a form that has not been filled in
(`OpenFlow.goOn`), which ends after two steps whatever the flow answers.
-/

namespace SignIn

variable {α β : Type}

/-! ### What calls take the data to -/

/-- The data that the calls of a command work with: they are loaded, or there are none. -/
structure Shared.Serves (s : Shared Unit) (d : Directory) : Prop where
  directory : s.directory = d
  -- nothing is kept from earlier commands, so that an empty directory is loaded
  unloaded : s.loaded = false → d = {}

theorem Shared.Serves.ensureLoaded {s : Shared Unit} {d : Directory} (h : s.Serves d) :
    ∃ s', s.ensureLoaded (.transient Unit) = (.ok (), s') ∧ s'.Serves d ∧ s'.loaded = true := by
  rw [Shared.ensureLoaded]
  cases hloaded : s.loaded with
  | true => exact ⟨s, if_pos rfl, h, hloaded⟩
  | false =>
    rw [if_neg Bool.false_ne_true, h.unloaded hloaded]
    exact ⟨_, rfl, ⟨rfl, fun hfalse => absurd hfalse.symm Bool.false_ne_true⟩, rfl⟩

namespace CommandM

/-- A part of a command comes to a result, and takes the data from one state to another. Whatever
else is shared, such as the readiness of providers, does not matter. -/
def Takes (x : CommandM α) (d : Directory) (r : Except CommandFailure α) (d' : Directory) : Prop :=
  ∀ s : Shared Unit, s.Serves d → ∃ s', x s = (r, s') ∧ s'.Serves d'

variable {x : CommandM α} {f : α → CommandM β} {d d₁ d₂ : Directory} {a : α} {failure : Failure}
  {e : CommandFailure}

theorem Takes.bind {r : Except CommandFailure β} (hx : x.Takes d (.ok a) d₁)
    (hf : (f a).Takes d₁ r d₂) : (x >>= f).Takes d r d₂ := by
  intro s hs
  obtain ⟨s₁, hrun, hs₁⟩ := hx s hs
  obtain ⟨s₂, hrun', hs₂⟩ := hf s₁ hs₁
  refine ⟨s₂, ?_, hs₂⟩
  simp only [Bind.bind, ExceptT.bind, ExceptT.mk, StateT.bind, hrun]
  exact hrun'

theorem Takes.bind_error (hx : x.Takes d (.error e) d₁) : (x >>= f).Takes d (.error e) d₁ := by
  intro s hs
  obtain ⟨s₁, hrun, hs₁⟩ := hx s hs
  refine ⟨s₁, ?_, hs₁⟩
  simp only [Bind.bind, ExceptT.bind, ExceptT.mk, StateT.bind, hrun]
  rfl

/-- A result that is there makes no difference to the data. -/
theorem takes_mk {r r' : Except CommandFailure α} (h : r = r') :
    Takes (ExceptT.mk (pure r) : CommandM α) d r' d :=
  fun s hs => ⟨s, h ▸ rfl, hs⟩

private theorem takes_call_error : (call (.finish (.error failure)) : CommandM α).Takes d
    (.error (.service failure)) d :=
  fun s hs => ⟨s, rfl, hs⟩

private theorem takes_call_prepare {key : ProviderKey} :
    (call (.prepare key (.answer (.ok fun w => (.ok (), w))) (.finish (.ok a)))).Takes
      d (.ok a) d := by
  intro s hs
  by_cases hready : s.readiness key = .ready
  · refine ⟨s, ?_, hs⟩
    simp only [call, Procedure.run, Shared.ensurePrepared, if_pos hready]
  · refine ⟨(s.setReadiness key .initializing).setReadiness key .ready, ?_, hs.1, hs.2⟩
    simp only [call, Procedure.run, Shared.ensurePrepared, if_neg hready]
    rfl

private theorem takes_call_read {next : Directory → Procedure Unit α}
    (h : next d = .finish (.ok a)) : (call (.load (.read next))).Takes d (.ok a) d := by
  intro s hs
  obtain ⟨s', hload, hs', -⟩ := hs.ensureLoaded
  refine ⟨s', ?_, hs'⟩
  simp only [call, Procedure.run, hload, hs'.directory, h]

/-- A call that makes a change, which is always saved. -/
private theorem takes_call_alter {decide : Directory → Decision α} {change : Change}
    (h : decide d = .commit change a) (hd : change.apply d = d₁) :
    (call (Store.alter decide)).Takes d (.ok a) d₁ := by
  intro s hs
  obtain ⟨s', hload, hs', hloaded⟩ := hs.ensureLoaded
  refine ⟨{ s' with directory := change.apply d }, ?_, hd, ?_⟩
  · simp only [call, Store.alter, Procedure.run, hload, hs'.directory, h, Shared.settle,
      Shared.save]
    rfl
  · intro hunloaded
    cases hloaded.symm.trans hunloaded

end CommandM

/-! ### One form -/

namespace OpenFlow

/-- Goes on with the answer of a flow, as long as there is a form and none has been submitted. -/
def goOn (input : Json) (submitted : Bool) (step : FlowStep) (f : OpenFlow) :
    Except CommandFailure Json × OpenFlow :=
  match step, submitted with
  | .form stepId _, false =>
    f.thenWith ⟨stepId, some input⟩ fun step f => goOn input true step f
  | step, _ => (entryOf step, f)
  termination_by if submitted then 0 else 1

/-- After the form has been submitted, the next answer is the last one. -/
private theorem goOn_true (input : Json) (step : FlowStep) (f : OpenFlow) :
    goOn input true step f = (entryOf step, f) := by
  rw [goOn]
  simp

/-- A flow that is filled in is one that goes on from its first step. -/
theorem fillIn_eq (f : OpenFlow) (input : Json) :
    f.fillIn input = f.thenWith ⟨firstStep, none⟩ fun step f => goOn input false step f := by
  rw [fillIn]
  congr
  funext step f
  cases step with
  | form stepId errors => simp only [goOn, goOn_true]
  | createEntry data | abort reason => simp only [goOn]

/-- A flow of a list of passwords lets in those who are recognized. -/
private theorem fillIn_flow (users : PasswordList) (username password : String) :
    (OpenFlow.fillIn ⟨users.flow, []⟩ (Manager.loginInput username password)).1
      = if users.recognizes username password then .ok (PasswordList.loginData username)
        else .error (.rejected [("base", "invalid_auth")]) := by
  have husername : (Manager.loginInput username password).textAt "username" = username := by
    simp [Manager.loginInput, Json.textAt, Json.record, Json.textMember?, Json.member?,
      Table.ofList, Table.get?_insert]
  have hpassword : (Manager.loginInput username password).textAt "password" = password := by
    simp [Manager.loginInput, Json.textAt, Json.record, Json.textMember?, Json.member?,
      Table.ofList, Table.get?_insert]
  have hanswer : users.flow.respond [⟨"init", none⟩]
      ⟨"init", some (Manager.loginInput username password)⟩ = _ := users.answer_eq _
  rw [husername, hpassword] at hanswer
  have hblank : users.flow.respond [] ⟨firstStep, none⟩ = .ok (.blankForm "init") := rfl
  simp only [fillIn, thenWith, submit, hblank, FlowStep.blankForm]
  simp only [firstStep, hanswer]
  cases users.recognizes username password <;> rfl

end OpenFlow

/-! ### What a login makes -/

namespace Supply

/-- The credentials that a login issues, once they are linked. -/
def credentials (supply : Supply) (key : ProviderKey) (username : String) : Credentials where
  providerKind := key.kind
  providerId := key.id
  data := .record [("username", .text username)]
  id := supply.credentialsId
  isNew := false

/-- The token that a login issues. -/
def token (supply : Supply) (validity : Span) : Token where
  userId := supply.userId
  clientId := supply.clientId
  id := supply.tokenId
  createdAt := supply.now
  lastRefreshed := none
  validity := validity

/-- The user whom a login makes, with some tokens. -/
def user (supply : Supply) (key : ProviderKey) (username : String) (name : Option String)
    (tokens : List Token) : User where
  id := supply.userId
  isOwner := true
  isActive := true
  name := name
  credentials := [supply.credentials key username]
  tokens := tokens

/-- The client that the token is issued to. -/
def client (supply : Supply) : Client where
  name := "cli"
  id := supply.clientId
  secret := supply.clientSecret

/-- What is printed about the user, and about the token with its moment of expiry. -/
def printed (supply : Supply) (name : Option String) (expiry : Instant) : Json :=
  .record [
    ("user", .record [("id", .text supply.userId), ("is_owner", .bool true),
      ("is_active", .bool true), ("name", .ofOption name)]),
    ("token", .record [("id", .text supply.tokenId), ("client_id", .text supply.client.id),
      ("expires_at", expiry.toJson)])]

end Supply

namespace Manager

open CommandM

variable {m : Manager Unit} {key : ProviderKey} {entry : ProviderConfig} {users : PasswordList}
  {username password : String} {name : Option String} {supply : Supply} {d : Directory}

/-! ### One call after the other -/

private theorem takes_openFlow (h : m.provider? key = .ok (PasswordList.provider entry users)) :
    (call (m.openFlow key)).Takes d (.ok ⟨users.flow, []⟩) d := by
  rw [openFlow, withProvider, h]
  exact takes_call_prepare

private theorem takes_openFlow_of_error {failure : Failure} (h : m.provider? key = .error failure) :
    (call (m.openFlow key)).Takes d (.error (.service failure)) d := by
  rw [openFlow, withProvider, h]
  exact takes_call_error

/-- There are no credentials yet that the provider could find. -/
private theorem takes_finishFlow (h : m.provider? key = .ok (PasswordList.provider entry users))
    (hkey : entry.key = key) :
    (call (m.finishFlow supply.credentialsId ⟨key, PasswordList.loginData username⟩)).Takes {}
      (.ok (.issue key supply.credentialsId (PasswordList.loginData username))) {} := by
  rw [finishFlow, withProvider, h]
  subst hkey
  exact takes_call_read rfl

/-- There is no user yet, so that the new one is the owner. -/
private theorem takes_resolve (h : m.provider? key = .ok (PasswordList.provider entry users))
    (hname : (users.entry? username).bind PasswordEntry.name = name) :
    (call (m.resolve supply.userId
        (.issue key supply.credentialsId (PasswordList.loginData username)))).Takes {}
      (.ok (supply.user key username name [], supply.credentials key username))
      { users := [supply.user key username name []] } := by
  subst hname
  rw [resolve, withProvider, Credentials.key_issue, h]
  exact takes_call_alter rfl rfl

private theorem takes_createClient {u : User} :
    (call (Store.createClient ⟨commandClientName, supply.clientId, supply.clientSecret⟩)).Takes
      { users := [u] } (.ok supply.client) { users := [u], clients := [supply.client] } :=
  takes_call_alter rfl rfl

private theorem takes_createToken {clients : List Client} :
    (call (m.createToken supply.userId supply.clientId supply.tokenId supply.now)).Takes
      { users := [supply.user key username name []], clients }
      (.ok (supply.token m.validity))
      { users := [supply.user key username name [supply.token m.validity]], clients } := by
  have hdecide : Store.withUser { users := [supply.user key username name []], clients }
      supply.userId
      (fun i _ => .commit (.addToken i (supply.token m.validity)) (supply.token m.validity))
        = .commit (.addToken 0 (supply.token m.validity)) (supply.token m.validity) := by
    simp [Store.withUser, Directory.userPosition?, Supply.user]
  exact takes_call_alter hdecide rfl

/-- **A login makes a user, a client and a token**, for those who are recognized. -/
theorem takes_signIn (h : m.provider? key = .ok (PasswordList.provider entry users))
    (hkey : entry.key = key) (hknown : users.recognizes username password = true)
    (hname : (users.entry? username).bind PasswordEntry.name = name) {expiry : Instant}
    (hexpiry : (supply.token m.validity).expiresAt? = some expiry) :
    (m.signIn supply key username password).Takes {}
      (.ok ⟨(supply.user key username name []).view, supply.token m.validity, expiry⟩)
      { users := [supply.user key username name [supply.token m.validity]]
        clients := [supply.client] } := by
  have hdata : (OpenFlow.fillIn ⟨users.flow, []⟩ (loginInput username password)).1
      = .ok (PasswordList.loginData username) := by
    rw [OpenFlow.fillIn_flow, if_pos hknown]
  rw [signIn]
  refine (takes_openFlow h).bind ((takes_mk hdata).bind ?_)
  refine (takes_finishFlow h hkey).bind ((takes_resolve h hname).bind ?_)
  refine takes_createClient.bind (takes_createToken.bind ?_)
  rw [hexpiry]
  exact takes_mk rfl

/-- Those who are not recognized leave nothing behind. -/
theorem takes_signIn_of_unknown (h : m.provider? key = .ok (PasswordList.provider entry users))
    (hunknown : users.recognizes username password = false) :
    (m.signIn supply key username password).Takes {}
      (.error (.rejected [("base", "invalid_auth")])) {} := by
  have hdata : (OpenFlow.fillIn ⟨users.flow, []⟩ (loginInput username password)).1
      = .error (.rejected [("base", "invalid_auth")]) := by
    rw [OpenFlow.fillIn_flow, hunknown, if_neg Bool.false_ne_true]
  exact (takes_openFlow h).bind (takes_mk hdata).bind_error

/-- Without the provider nobody can log in. -/
theorem takes_signIn_of_missing {failure : Failure} (h : m.provider? key = .error failure) :
    (m.signIn supply key username password).Takes {} (.error (.service failure)) {} :=
  (takes_openFlow_of_error h).bind_error

end Manager

end SignIn
