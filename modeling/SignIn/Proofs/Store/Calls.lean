import SignIn.Proofs.Service.Standing
import SignIn.Provider.PasswordList
import SignIn.Store

/-!
# The calls of the store

A `Store.Call` is one call of the store with all its arguments, among them the ids and the instant
that it would draw by itself. `Call.procedure` is what it does. So that calls of all kinds can be
under way together, they answer with a `Reply`.

All calls are of one shape: they load the data, and go on in a way that is guided
(`Call.isGuided_body`).
-/

namespace SignIn

variable {σ α β γ : Type} {backend : Backend σ}

/-! ### Hooks -/

namespace Hook

variable {key : ProviderKey}

/-- A hook with what it looks at already known. -/
def replay (key : ProviderKey) : List Directory → Hook α → Hook α
  | d :: ds, .consult ask => (ask (d.credentialsOf key)).replay key ds
  | _, h => h

@[simp] theorem replay_nil (h : Hook α) : h.replay key [] = h := by
  unfold replay
  rfl

/-- Another answer of a procedure that goes on with that of a hook. -/
private theorem map_andThen (f : β → γ) (next : α → Procedure σ β) (h : Hook α) :
    (h.andThen key next).map f = h.andThen key fun a => (next a).map f := by
  induction h with
  | answer r => cases r <;> rfl
  | consult ask ih =>
    simp only [andThen, Procedure.map]
    congr 2
    funext d
    exact ih _

/-- A call that decides with the answer of a hook is guided. -/
private theorem isGuided_andThen (decide : α → Directory → Decision β) (h : Hook α) :
    (h.andThen key fun a => (.write (decide a) : Procedure σ β)).IsGuided := by
  induction h with
  | answer r =>
    cases r with
    | error e => exact .finish _
    | ok a => exact .write _
  | consult ask ih => exact .consult _ fun d => ih _

/-- What such a call looks at is what the hook looks at. -/
private theorem replay_andThen (decide : α → Directory → Decision β) (h : Hook α)
    (ds : List Directory) :
    (h.andThen key fun a => (.write (decide a) : Procedure σ β)).replay ds
      = (h.replay key ds).andThen key fun a => .write (decide a) := by
  induction ds generalizing h with
  | nil => rw [Procedure.replay_nil, replay_nil]
  | cons d ds ih =>
    cases h with
    | answer r => cases r <;> rfl
    | consult ask => exact ih _

end Hook

/-! ### Calls -/

namespace Store

/-- What a call of the store answers with. -/
inductive Reply where
  | done
  /-- A user, with credentials as they are afterwards. -/
  | account (u : User) (c : Credentials)
  /-- Credentials as they are afterwards. -/
  | linked (c : Credentials)
  | token (t : Token)
  | client (c : Client)
  | user? (u : Option User)
  | users (us : List User)
  | clients (cs : List Client)
  | credentials (cs : List Credentials)

/-- A call of the store, with all that it is made with: ids and secrets that have been drawn for it,
the present instant, and the provider where one is needed. -/
inductive Call (σ : Type) where
  | load
  | resolve (provider : Provider σ) (userId : String) (c : Credentials)
  | link (userId : String) (c : Credentials)
  | removeUser (userId : String)
  | createToken (validity : Span) (userId clientId tokenId : String) (now : Instant)
  | createClient (c : Client)
  | user? (userId : String)
  | users
  | clients
  | credentialsOf (key : ProviderKey)

namespace Call

/-- What a call does. -/
def procedure : Call σ → Procedure σ Reply
  | load => Store.load.map fun _ => .done
  | resolve provider userId c => (Store.resolve provider userId c).map fun r => .account r.1 r.2
  | link userId c => (Store.link userId c).map .linked
  | removeUser userId => (Store.removeUser userId).map fun _ => .done
  | createToken validity userId clientId tokenId now =>
    (Store.createToken validity userId clientId tokenId now).map .token
  | createClient c => (Store.createClient c).map .client
  | user? userId => (Store.user? userId).map .user?
  | users => Store.users.map .users
  | clients => Store.clients.map .clients
  | credentialsOf key => (Store.credentialsOf key).map .credentials

/-- What a call does once the data have been loaded. -/
def body (c : Call σ) : Procedure σ Reply :=
  match c.procedure with
  | .load q => q
  | p => p

theorem procedure_eq (c : Call σ) : c.procedure = .load c.body := by
  cases c <;> rfl

/-- The body of a call that resolves new credentials. -/
private theorem body_resolve {provider : Provider σ} {userId : String} {c : Credentials}
    (hc : c.isNew = true) : (resolve provider userId c).body
      = (provider.userMeta c).andThen provider.key fun about =>
        .write fun d => (decideNew userId about c d).map fun r => .account r.1 r.2 := by
  simp only [body, procedure, Store.resolve, hc, if_true, Procedure.map]
  exact Hook.map_andThen _ _ _

/-- The body of a call that resolves credentials that are not new. -/
private theorem body_resolve_linked {provider : Provider σ} {userId : String} {c : Credentials}
    (hc : c.isNew = false) : (resolve provider userId c).body
      = .read fun d => .finish ((userOfLinked c d).map fun r => .account r.1 r.2) := by
  simp [body, procedure, Store.resolve, hc, Procedure.map]

/-- **All calls are guided.** -/
theorem isGuided_body (c : Call σ) : c.body.IsGuided := by
  cases c with
  | load => exact .finish _
  | link | removeUser | createToken | createClient => exact .write _
  | user? | users | clients | credentialsOf => exact .look _
  | resolve provider userId c =>
    cases hc : c.isNew with
    | true =>
      rw [body_resolve hc]
      exact Hook.isGuided_andThen _ _
    | false =>
      rw [body_resolve_linked hc]
      exact .look _

theorem plain_procedure (c : Call σ) : c.procedure.Obeys .plain := by
  rw [procedure_eq]
  exact c.isGuided_body.plain

/-- A call whose provider answers as it does when it looks at the given directories. -/
def replaying (ds : List Directory) : Call σ → Call σ
  | resolve provider userId c =>
    resolve { provider with userMeta := fun c' => (provider.userMeta c').replay provider.key ds }
      userId c
  | c => c

/-- It does what the call does with what it looks at for the provider's sake known. -/
theorem procedure_replaying (ds : List Directory) (c : Call σ) :
    (c.replaying ds).procedure = .load (c.body.replay ds) := by
  rw [procedure_eq]
  congr 1
  cases c with
  | load | link | removeUser | createToken | createClient | user? | users | clients
  | credentialsOf => cases ds <;> rfl
  | resolve provider userId c =>
    cases hc : c.isNew with
    | true =>
      rw [replaying, body_resolve hc, body_resolve hc, Hook.replay_andThen]
      rfl
    | false =>
      rw [replaying, body_resolve_linked hc, body_resolve_linked hc]
      cases ds <;> rfl

/-- The credentials that were handed to a call, as they are when it has ended. Where the call
fails, they stay as they were. -/
def credentialsAfter : Call σ → Except Failure Reply → Option Credentials
  | resolve _ _ _, .ok (.account _ c) => some c
  | resolve _ _ c, _ => some c
  | link _ _, .ok (.linked c) => some c
  | link _ c, _ => some c
  | _, _ => none

/-- How a provider answers does not matter for what becomes of credentials. -/
theorem credentialsAfter_replaying (ds : List Directory) (c : Call σ) :
    (c.replaying ds).credentialsAfter = c.credentialsAfter := by
  funext r
  cases c with
  | resolve provider userId c =>
    rcases r with e | reply
    · rfl
    · cases reply <;> rfl
  | _ => rfl

end Call

/-- The service in which some calls are about to be made. -/
def opening (s : Shared σ) (calls : List (Call σ)) : Service σ Reply :=
  .start s (calls.map Call.procedure)

/-! ### A run with failures -/

/-- A backend that is told beforehand which loads and which saves succeed. It keeps nothing. -/
def scripted : Backend (List Bool) where
  load
    | false :: w => (.error (.storage "load failed"), w)
    | w => (.ok {}, w.drop 1)
  save _
    | false :: w => (.error (.storage "save failed"), w)
    | w => (.ok (), w.drop 1)

/-- A store whose first load and whose first save will fail. -/
def flaky : Shared (List Bool) := { world := [false, true, false, true] }

/-- Two first logins that overlap, and a look at the users. -/
def rush : List (Call (List Bool)) :=
  let provider := PasswordList.provider { kind := PasswordList.kind } []
  let fresh (id : String) := provider.issue id (PasswordList.loginData id)
  [.resolve provider "u1" (fresh "first"), .resolve provider "u2" (fresh "second"), .users]

/-- The calls take turns. -/
def rushTurns : List ℕ := (List.replicate 16 [0, 1, 2]).flatten

end Store

end SignIn
