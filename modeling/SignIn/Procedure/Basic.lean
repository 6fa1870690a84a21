import SignIn.Account.Directory
import SignIn.Failure

/-!
# Procedures of the service

A `Procedure` is what one call of the service does, step by step, with the state that all calls
share: it loads the data on first need, prepares a provider on first need, reads the data, or
changes and saves them. The outside world, which keeps the saved data and stands behind the
providers, is a state of any type; a `Backend` says how data are loaded from it and saved to it.

`Procedure.run` carries out a procedure that is alone. A failed load, a failed preparation and a
failed save end the procedure with their failure, and a change that could not be saved is undone.
-/

namespace SignIn

/-- How far a provider has been prepared. Only the call behind the gate of the provider changes
this, and a preparation that fails takes it back to the beginning. -/
inductive Readiness where
  | uninitialized
  | initializing
  | ready
  deriving DecidableEq, Repr

/-- How the whole directory is loaded from the world and saved to it. Both can fail, and both lead
to a world when they do: a backend that fails once and works later is one of these, and so is one
that has saved something before it fails. -/
structure Backend (σ : Type) where
  load : σ → Except Failure Directory × σ
  save : Directory → σ → Except Failure Unit × σ

/-- A backend that keeps nothing: it always loads an empty directory. -/
def Backend.transient (σ : Type) : Backend σ where
  load w := (.ok {}, w)
  save _ w := (.ok (), w)

/-- The state that all calls share. -/
structure Shared (σ : Type) where
  /-- Whether the data have been loaded. -/
  loaded : Bool := false
  /-- The data in memory; they mean nothing before they have been loaded. -/
  directory : Directory := {}
  /-- How far each provider has been prepared. -/
  readiness : ProviderKey → Readiness := fun _ => .uninitialized
  /-- The outside world. -/
  world : σ

/-- The state with another readiness of one provider. -/
def Shared.setReadiness {σ : Type} (s : Shared σ) (key : ProviderKey) (r : Readiness) :
    Shared σ :=
  { s with readiness := fun k => if k = key then r else s.readiness k }

/-- What a call does with the data in its hands. It sees them once, under their lock, and makes one
change at most. -/
inductive Decision (α : Type) where
  /-- It answers without changing anything. -/
  | answer (r : Except Failure α)
  /-- It makes a change, and answers once the change has been saved. -/
  | commit (change : Change) (a : α)

/-- What a provider does when it is asked: it answers, or looks at the credentials that it has
issued before it goes on, as often as it likes. A provider is built with a handle of the whole
store, and nothing there keeps it from doing more; what it is given the handle for is this look, and
it is all that a hook can do here. It keeps no state either: what it answers comes from its
arguments and from what it has looked at. -/
inductive Hook (α : Type) where
  | answer (r : Except Failure α)
  | consult (ask : List Credentials → Hook α)

/-- What a provider does in the world when it is prepared. It is done in one step, so that no call
sees the world in the middle of it. -/
abbrev Effect (σ : Type) := σ → Except Failure Unit × σ

/-- What one call does. -/
inductive Procedure (σ α : Type) where
  /-- It ends. -/
  | finish (r : Except Failure α)
  /-- It goes on once the data are loaded. -/
  | load (next : Procedure σ α)
  /-- It goes on once a provider is prepared. The hook is at work only where the provider is not
  ready yet. -/
  | prepare (key : ProviderKey) (hook : Hook (Effect σ)) (next : Procedure σ α)
  /-- It goes on with the data as they are. -/
  | read (next : Directory → Procedure σ α)
  /-- It decides on the data, keeps their lock until a change is saved or undone, and ends. -/
  | write (decide : Directory → Decision α)

variable {σ α β : Type}

/-- A procedure that goes on with the answer of a provider's hook, and ends with its failure. Each
look at the credentials loads the data if need be and reads them in a step of its own, so that other
calls can change them between two looks. -/
def Hook.andThen (key : ProviderKey) (next : α → Procedure σ β) : Hook α → Procedure σ β
  | .answer (.ok a) => next a
  | .answer (.error e) => .finish (.error e)
  | .consult ask => .load (.read fun d => (ask (d.credentialsOf key)).andThen key next)

/-! ### A procedure that is alone -/

/-- Loads the data, unless they have been loaded. A failed load leaves nothing behind in memory, so
that the next call loads again. -/
def Shared.ensureLoaded (backend : Backend σ) (s : Shared σ) : Except Failure Unit × Shared σ :=
  if s.loaded then (.ok (), s)
  else
    match backend.load s.world with
    | (.error e, w) => (.error e, { s with world := w })
    | (.ok d, w) => (.ok (), { s with world := w, directory := d, loaded := true })

/-- Carries out a hook while nothing else goes on. It ends with the failure of the load when it
looks at data that cannot be loaded. -/
def Hook.run (backend : Backend σ) (key : ProviderKey) (s : Shared σ) :
    Hook α → Except Failure α × Shared σ
  | .answer r => (r, s)
  | .consult ask =>
    match s.ensureLoaded backend with
    | (.error e, s) => (.error e, s)
    | (.ok (), s) => (ask (s.directory.credentialsOf key)).run backend key s

/-- Prepares a provider by its hook. The provider counts as being prepared meanwhile, and as not
prepared again when the hook fails, be it in what it looks at or in what it does in the world. -/
def Shared.carryOut (backend : Backend σ) (key : ProviderKey) (hook : Hook (Effect σ))
    (s : Shared σ) : Except Failure Unit × Shared σ :=
  match hook.run backend key (s.setReadiness key .initializing) with
  | (.error e, s) => (.error e, s.setReadiness key .uninitialized)
  | (.ok effect, s) =>
    match effect s.world with
    | (.error e, w) => (.error e, { s with world := w }.setReadiness key .uninitialized)
    | (.ok (), w) => (.ok (), { s with world := w }.setReadiness key .ready)

/-- Prepares a provider, unless it is ready. -/
def Shared.ensurePrepared (backend : Backend σ) (key : ProviderKey) (hook : Hook (Effect σ))
    (s : Shared σ) : Except Failure Unit × Shared σ :=
  if s.readiness key = .ready then (.ok (), s) else s.carryOut backend key hook

/-- Saves the data after a change, and takes the change back in memory if that fails. What the
backend has done to the world before it failed stays. -/
def Shared.save (backend : Backend σ) (change : Change) (a : α) (s : Shared σ) :
    Except Failure α × Shared σ :=
  match backend.save s.directory s.world with
  | (.ok (), w) => (.ok a, { s with world := w })
  | (.error e, w) => (.error e, { s with world := w, directory := change.undo s.directory })

/-- Carries out what a call has decided. -/
def Shared.settle (backend : Backend σ) (decision : Decision α) (s : Shared σ) :
    Except Failure α × Shared σ :=
  match decision with
  | .answer r => (r, s)
  | .commit change a => { s with directory := change.apply s.directory }.save backend change a

/-- Carries out a procedure while no other call is under way, so that no lock is ever taken and
every part of it is done at once. What holds of the single steps is the matter of
`Position.step?`. -/
def Procedure.run (backend : Backend σ) (s : Shared σ) :
    Procedure σ α → Except Failure α × Shared σ
  | .finish r => (r, s)
  | .load next =>
    match s.ensureLoaded backend with
    | (.error e, s) => (.error e, s)
    | (.ok (), s) => next.run backend s
  | .prepare key hook next =>
    match s.ensurePrepared backend key hook with
    | (.error e, s) => (.error e, s)
    | (.ok (), s) => next.run backend s
  | .read next => (next s.directory).run backend s
  | .write decide => s.settle backend (decide s.directory)

end SignIn
