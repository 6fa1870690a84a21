import SignIn.Manager
import SignIn.Proofs.Service.Events
import SignIn.Proofs.Store.Linking
import SignIn.Proofs.Store.WellFormed

/-!
# The two requests that complete a login

A login through a list of passwords ends with two requests to the manager. The first turns the
result of the flow into credentials: those that are stored for the username, or fresh ones. The
second takes the credentials to their user, and stores them if they are new.

`Portal.procedure_finish` and `Portal.procedure_resolve` say what they come down to: one look at the
data, or one decision on them. `Portal.chosen_cases` and `Portal.run_resolve` say what comes of
them.
-/

namespace SignIn

variable {σ : Type} {backend : Backend σ}

/-! ### The requests -/

/-- A request to the manager. A login is two of them: the result of its flow is turned in, and the
credentials are taken to their user. -/
inductive Request where
  /-- The result of a flow for a username is turned into credentials, fresh ones with an id. -/
  | finish (freshId username : String)
  /-- Credentials are taken to their user, a new one with an id. -/
  | resolve (userId : String) (c : Credentials)

/-- What a request is answered with. -/
inductive Answer where
  | handed (c : Credentials)
  /-- The user, with the credentials as they are afterwards. -/
  | entered (u : User) (c : Credentials)

/-- The credentials that a request leaves its caller with. -/
def Answer.credentials : Answer → Credentials
  | .handed c => c
  | .entered _ c => c

/-- A manager, and one of its providers that has a list of passwords. -/
structure Portal (σ : Type) where
  manager : Manager σ
  config : ProviderConfig
  users : PasswordList
  found : manager.provider? config.key = .ok (PasswordList.provider config users)

/-- The username in credentials. -/
def Credentials.username? (c : Credentials) : Option String := c.data.textMember? "username"

@[simp] theorem Credentials.username?_linked (c : Credentials) :
    c.linked.username? = c.username? := rfl

namespace Portal

variable (P : Portal σ)

/-- The key of the provider. -/
def key : ProviderKey := P.config.key

/-- Fresh credentials for a username. -/
def issued (freshId username : String) : Credentials :=
  .issue P.key freshId (PasswordList.loginData username)

/-- The credentials for a username in a directory: stored ones, or fresh ones. -/
def chosen (freshId username : String) (d : Directory) : Credentials :=
  ((d.credentialsOf P.key).find? fun c => c.username? == some username).getD
    (P.issued freshId username)

/-- What a request does. -/
def procedure : Request → Procedure σ Answer
  | .finish freshId username =>
    (P.manager.finishFlow freshId ⟨P.key, PasswordList.loginData username⟩).map .handed
  | .resolve userId c => (P.manager.resolve userId c).map fun r => .entered r.1 r.2

/-- What a request does once the data have been loaded. -/
def body : Request → Procedure σ Answer
  | .finish freshId username =>
    .read fun d => .finish (.ok (.handed (P.chosen freshId username d)))
  | .resolve userId c =>
    if c.isNew then
      .write fun d => (Store.decideNew userId ⟨P.users.displayName? c⟩ c d).map fun r =>
        .entered r.1 r.2
    else .read fun d => .finish ((Store.userOfLinked c d).map fun r => .entered r.1 r.2)

/-- The data of a login hold its username. -/
theorem textMember?_loginData (username : String) :
    (PasswordList.loginData username).textMember? "username" = some username := by
  rfl

@[simp] theorem username?_issued (freshId username : String) :
    (P.issued freshId username).username? = some username :=
  textMember?_loginData username

/-- The result of a flow is turned into credentials with one look at the data. -/
theorem finishFlow_eq (freshId username : String) :
    P.manager.finishFlow freshId ⟨P.key, PasswordList.loginData username⟩
      = .load (.read fun d => .finish (.ok (P.chosen freshId username d))) := by
  have hfound : P.manager.provider? P.key = .ok (PasswordList.provider P.config P.users) := P.found
  simp only [Manager.finishFlow, Manager.withProvider, hfound, PasswordList.provider,
    PasswordList.credentials, textMember?_loginData, Hook.andThen]
  congr 2
  funext d
  simp only [chosen, Credentials.username?, key, Provider.key]
  cases List.find? (fun c => c.data.textMember? "username" == some username)
    (d.credentialsOf P.config.key) <;> rfl

/-- A request for credentials looks at the data once. -/
theorem procedure_finish (freshId username : String) :
    P.procedure (.finish freshId username) = .load (P.body (.finish freshId username)) := by
  rw [procedure, finishFlow_eq]
  rfl

/-- A request for a user looks at the data or decides on them once. -/
theorem procedure_resolve {userId : String} {c : Credentials} (hc : c.key = P.key) :
    P.procedure (.resolve userId c) = .load (P.body (.resolve userId c)) := by
  have hfound : P.manager.provider? c.key = .ok (PasswordList.provider P.config P.users) := by
    rw [hc]
    exact P.found
  simp only [procedure, Manager.resolve, Manager.withProvider, hfound, Store.resolve, body]
  cases hnew : c.isNew <;> rfl

theorem isGuided_body (r : Request) : (P.body r).IsGuided := by
  cases r with
  | finish => exact .look _
  | resolve userId c =>
    rw [body]
    split
    · exact .write _
    · exact .look _

theorem isImmediate_body (r : Request) : (P.body r).IsImmediate := by
  cases r with
  | finish => exact Procedure.isImmediate_look _
  | resolve userId c =>
    rw [body]
    split
    · exact Procedure.isImmediate_write _
    · exact Procedure.isImmediate_look _

/-! ### What comes of requests -/

/-- The credentials for a username are fresh, and then none are stored for it, or stored ones. -/
theorem chosen_cases (freshId username : String) (d : Directory) :
    (P.chosen freshId username d = P.issued freshId username ∧
        ∀ c ∈ d.credentials, c.key = P.key → c.username? ≠ some username) ∨
      (P.chosen freshId username d ∈ d.credentials ∧
        (P.chosen freshId username d).key = P.key ∧
        (P.chosen freshId username d).username? = some username) := by
  cases hfind : (d.credentialsOf P.key).find? fun c => c.username? == some username with
  | none =>
    refine Or.inl ⟨by rw [chosen, hfind, Option.getD_none], fun c hc hkey husername => ?_⟩
    have hmem : c ∈ d.credentialsOf P.key :=
      List.mem_filter.2 ⟨hc, Credentials.belongsTo_iff.2 hkey⟩
    exact absurd (beq_iff_eq.2 husername) (by simpa using List.find?_eq_none.1 hfind c hmem)
  | some c =>
    refine Or.inr ?_
    rw [chosen, hfind, Option.getD_some]
    obtain ⟨hmem, hkey⟩ := List.mem_filter.1 (List.mem_of_find?_eq_some hfind)
    have husername := List.find?_some hfind
    exact ⟨hmem, Credentials.belongsTo_iff.1 hkey, beq_iff_eq.1 husername⟩

/-- What a request for a user comes to, with the data loaded: it fails and leaves the data as they
are, or it gives a user who holds the credentials. That user was there, or has been added for
credentials whose id nobody held. -/
theorem run_resolve {userId : String} {c : Credentials} {v v' : Shared σ}
    {r : Except Failure Answer} (hl : v.loaded = true)
    (h : (P.body (.resolve userId c)).run backend v = (r, v')) :
    v'.loaded = true ∧
      ((∃ e, r = .error e ∧ v'.directory = v.directory) ∨
        ∃ u c', r = .ok (.entered u c') ∧ (c' = c ∨ c' = c.linked) ∧
          u.holds c.id = true ∧
          ((v'.directory = v.directory ∧ u ∈ v.directory.users) ∨
            (v.directory.holder? c.id = none ∧ u.credentials = [c.linked] ∧
              v'.directory.users = v.directory.users ++ [u]))) := by
  rw [body] at h
  cases hc : c.isNew with
  | false =>
    simp only [hc, Bool.false_eq_true, if_false, Procedure.run, Store.userOfLinked] at h
    cases hholder : v.directory.holderFrom? c.key c.id with
    | none =>
      simp only [hholder] at h
      cases h
      exact ⟨hl, Or.inl ⟨_, rfl, rfl⟩⟩
    | some u =>
      obtain ⟨hu, hholds⟩ := Directory.mem_and_holdsFrom_of_holderFrom? hholder
      simp only [hholder] at h
      cases h
      exact ⟨hl, Or.inr ⟨u, c, rfl, Or.inl rfl, User.holds_of_holdsFrom hholds,
        Or.inl ⟨rfl, hu⟩⟩⟩
  | true =>
    simp only [hc, if_true, Procedure.run, Store.decideNew] at h
    cases hholder : v.directory.holder? c.id with
    | some u =>
      -- the credentials have been linked since they were handed out
      obtain ⟨hu, hholds⟩ := Directory.mem_and_holds_of_holder? hholder
      simp only [hholder] at h
      split at h
      · cases h
        exact ⟨hl, Or.inr ⟨u, c.linked, rfl, Or.inr rfl, hholds, Or.inl ⟨rfl, hu⟩⟩⟩
      · cases h
        exact ⟨hl, Or.inl ⟨_, rfl, rfl⟩⟩
    | none =>
      simp only [hholder, Decision.map, Shared.settle, Shared.save] at h
      split at h
      · cases h
        -- the new user holds these credentials and nothing else
        refine ⟨hl, Or.inr ⟨_, c.linked, rfl, Or.inr rfl, ?_, Or.inr ⟨rfl, rfl, rfl⟩⟩⟩
        exact User.holds_iff.2 ⟨c.linked, List.mem_singleton.2 rfl, rfl⟩
      · -- the user could not be saved
        cases h
        exact ⟨hl, Or.inl ⟨_, rfl, Change.undo_apply (c := .addUser _) trivial⟩⟩

private theorem eq_commit_of_map {α β : Type} {f : α → β} {decision : Decision α}
    {change : Change} {b : β} (h : decision.map f = .commit change b) :
    ∃ a, decision = .commit change a := by
  cases decision with
  | answer => cases h
  | commit change' a =>
    cases h
    exact ⟨a, rfl⟩

/-- What a request may change: it adds a user for credentials whose id nobody holds. -/
theorem body_eq_commit {r : Request} {decide : Directory → Decision Answer} {d : Directory}
    {change : Change} {a : Answer} (hbody : P.body r = .write decide)
    (hd : decide d = .commit change a) :
    ∃ userId c u, r = .resolve userId c ∧ d.holder? c.id = none ∧ u.credentials = [c.linked] ∧
      change = .addUser u := by
  cases r with
  | finish => cases hbody
  | resolve userId c =>
    rw [body] at hbody
    split at hbody
    · cases hbody
      obtain ⟨r, hr⟩ := eq_commit_of_map hd
      obtain ⟨hholder, rfl, -⟩ := Store.decideNew_eq_commit hr
      exact ⟨userId, c, _, rfl, hholder, rfl, rfl⟩
    · cases hbody

end Portal

end SignIn
