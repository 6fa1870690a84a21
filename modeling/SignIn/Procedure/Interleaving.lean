import SignIn.Procedure.Basic

/-!
# Procedures side by side

When several calls are under way, each stands at a `Position` in its procedure, and any of them
may take the next step. Between two steps of one call, others can do any number of theirs. What
keeps them apart are locks: one gate before the load of the data, one gate before the preparation
of each provider, and the lock of the data, which a call holds while its change is being saved.

A lock is held by the positions that `Position.holds` names, and is free when no call stands at
one of them. `Position.step?` is one step of one call; it is missing for a call that has finished
and for one that waits for a lock. `Service.settle` lets all calls go on in turns.
-/

namespace SignIn

/-- A lock of the service. The lock of the data has two sides: who reads needs it to be free for one
step and does not keep it, since a reader looks at the data in one step, so that readers do not shut
each other out. -/
inductive Lock where
  /-- Held by the call that loads the data. -/
  | loadGate
  /-- Held by the call that prepares a provider. -/
  | initGate (key : ProviderKey)
  /-- Held by a call whose change is being saved. -/
  | data
  deriving DecidableEq, Repr

variable {σ α : Type}

/-- How far a piece of work has come. -/
inductive Progress (stage α : Type) where
  | more (s : stage)
  | done (r : Except Failure α)

/-! ### Loading the data -/

/-- Where a call stands while it makes sure that the data are loaded. It looks twice, since another
call can have loaded them while this one was waiting. The data and the mark that they are loaded are
set one after the other, and so these are two stages. -/
inductive LoadStage where
  /-- It is about to look whether they are. -/
  | arriving
  /-- It waits for the gate. -/
  | atGate
  /-- It is past the gate and about to look again. -/
  | inGate
  /-- The backend is loading. -/
  | loading
  /-- The backend has answered. -/
  | installing (d : Directory)
  /-- The data are in memory, and nobody knows yet. -/
  | announcing

/-- The lock that a call holds at a stage. -/
def LoadStage.holds : LoadStage → Lock → Bool
  | .arriving, _ | .atGate, _ => false
  | .inGate, l | .loading, l | .installing _, l | .announcing, l => l == .loadGate

/-- One step of loading the data. It is missing where the call waits for the gate, or for the lock
of the data with what it has loaded in its hands. -/
def LoadStage.step? (backend : Backend σ) (free : Lock → Bool) (s : Shared σ) :
    LoadStage → Option (Progress LoadStage Unit × Shared σ)
  | .arriving => some (if s.loaded then .done (.ok ()) else .more .atGate, s)
  | .atGate => if free .loadGate then some (.more .inGate, s) else none
  | .inGate => some (if s.loaded then .done (.ok ()) else .more .loading, s)
  | .loading =>
    match backend.load s.world with
    | (.error e, w) => some (.done (.error e), { s with world := w })
    | (.ok d, w) => some (.more (.installing d), { s with world := w })
  | .installing d =>
    if free .data then some (.more .announcing, { s with directory := d }) else none
  | .announcing => some (.done (.ok ()), { s with loaded := true })

/-! ### Preparing a provider -/

/-- Where a call stands while it makes sure that a provider is prepared. Like a load this is looked
at twice; unlike a load it can call for one, since the hook looks at the data, and then the call
holds both gates. -/
inductive InitStage (σ : Type) where
  /-- It is about to look whether the provider is ready. -/
  | arriving
  /-- It waits for the gate. -/
  | atGate
  /-- It is past the gate and about to look again. -/
  | inGate
  /-- The hook of the provider is at work. -/
  | running (hook : Hook (Effect σ))
  /-- The hook waits for the data. -/
  | consulting (stage : LoadStage) (ask : List Credentials → Hook (Effect σ))
  /-- The hook is about to read the data. -/
  | reading (ask : List Credentials → Hook (Effect σ))

/-- The locks that a call holds at a stage. -/
def InitStage.holds (key : ProviderKey) : InitStage σ → Lock → Bool
  | .arriving, _ | .atGate, _ => false
  | .inGate, l | .running _, l | .reading _, l => l == .initGate key
  | .consulting stage _, l => l == .initGate key || stage.holds l

/-- One step of preparing a provider. Whatever ends the hook with a failure makes the provider one
that has not been prepared, in the same step. -/
def InitStage.step? (backend : Backend σ) (key : ProviderKey) (hook : Hook (Effect σ))
    (free : Lock → Bool) (s : Shared σ) :
    InitStage σ → Option (Progress (InitStage σ) Unit × Shared σ)
  | .arriving => some (if s.readiness key = .ready then .done (.ok ()) else .more .atGate, s)
  | .atGate => if free (.initGate key) then some (.more .inGate, s) else none
  | .inGate =>
    if s.readiness key = .ready then some (.done (.ok ()), s)
    else some (.more (.running hook), s.setReadiness key .initializing)
  | .running (.answer (.error e)) =>
    some (.done (.error e), s.setReadiness key .uninitialized)
  | .running (.answer (.ok effect)) =>
    match effect s.world with
    | (.error e, w) =>
      some (.done (.error e), { s with world := w }.setReadiness key .uninitialized)
    | (.ok (), w) => some (.done (.ok ()), { s with world := w }.setReadiness key .ready)
  | .running (.consult ask) => some (.more (.consulting .arriving ask), s)
  | .consulting stage ask =>
    match stage.step? backend free s with
    | none => none
    | some (.more stage, s) => some (.more (.consulting stage ask), s)
    | some (.done (.ok ()), s) => some (.more (.reading ask), s)
    | some (.done (.error e), s) => some (.done (.error e), s.setReadiness key .uninitialized)
  | .reading ask =>
    if free .data then some (.more (.running (ask (s.directory.credentialsOf key))), s) else none

/-! ### Whole procedures -/

/-- Where a call stands in its procedure. All that the call has seen so far is in the rest of its
procedure: a position has no memory besides. -/
inductive Position (σ α : Type) where
  /-- It is about to go on with a procedure. -/
  | before (p : Procedure σ α)
  | loading (stage : LoadStage) (next : Procedure σ α)
  | preparing (key : ProviderKey) (hook : Hook (Effect σ)) (stage : InitStage σ)
      (next : Procedure σ α)
  /-- Its change is made and is being saved. -/
  | saving (change : Change) (a : α)

namespace Position

/-- The locks that a call holds at a position. -/
def holds : Position σ α → Lock → Bool
  | .before _, _ => false
  | .loading stage _, l => stage.holds l
  | .preparing key _ stage _, l => stage.holds key l
  | .saving _ _, l => l == .data

/-- How the call has ended, if it has. -/
def result? : Position σ α → Option (Except Failure α)
  | .before (.finish r) => some r
  | _ => none

/-- The position after a piece of work, before which a procedure waits. A failure of the work is the
end of the call. -/
def after (next : Procedure σ α) : Except Failure Unit → Position σ α
  | .ok () => .before next
  | .error e => .before (.finish (.error e))

/-- One step of a call, unless it has ended or waits for a lock. The second argument says which
locks are free. To decide and to make the change that has been decided on are one step, and to save
it is another one, between which others can do what needs no lock of the data. -/
def step? (backend : Backend σ) (free : Lock → Bool) (s : Shared σ) :
    Position σ α → Option (Position σ α × Shared σ)
  | .before (.finish _) => none
  | .before (.load next) => some (.loading .arriving next, s)
  | .before (.prepare key hook next) => some (.preparing key hook .arriving next, s)
  | .before (.read next) =>
    if free .data then some (.before (next s.directory), s) else none
  | .before (.write decide) =>
    if free .data then
      match decide s.directory with
      | .answer r => some (.before (.finish r), s)
      | .commit change a =>
        some (.saving change a, { s with directory := change.apply s.directory })
    else none
  | .loading stage next =>
    match stage.step? backend free s with
    | none => none
    | some (.more stage, s) => some (.loading stage next, s)
    | some (.done r, s) => some (after next r, s)
  | .preparing key hook stage next =>
    match stage.step? backend key hook free s with
    | none => none
    | some (.more stage, s) => some (.preparing key hook stage next, s)
    | some (.done r, s) => some (after next r, s)
  | .saving change a =>
    let (r, s) := s.save backend change a
    some (.before (.finish r), s)

end Position

/-- Calls that are under way, and the state that they share. -/
structure Service (σ α : Type) where
  shared : Shared σ
  calls : List (Position σ α)

namespace Service

/-- The service in which some procedures are about to begin. -/
def start (s : Shared σ) (procedures : List (Procedure σ α)) : Service σ α :=
  ⟨s, procedures.map .before⟩

/-- Whether no call holds the given lock. There is nothing to a lock but the positions of the calls:
a call that has ended holds none, however it has ended. -/
def free (y : Service σ α) (l : Lock) : Bool := y.calls.all fun p => !p.holds l

/-- The service after one step of the call at a position in the list. -/
def step? (backend : Backend σ) (y : Service σ α) (i : Nat) : Option (Service σ α) :=
  match y.calls[i]? with
  | none => none
  | some p =>
    match p.step? backend y.free y.shared with
    | none => none
    | some (p, s) => some ⟨s, y.calls.set i p⟩

/-- One service state comes from another by a step of some call. -/
def Step (backend : Backend σ) (y z : Service σ α) : Prop := ∃ i, y.step? backend i = some z

/-- One service state comes from another by any number of steps, whichever calls take them. -/
inductive Reaches (backend : Backend σ) (y : Service σ α) : Service σ α → Prop where
  | refl : Reaches backend y y
  | step {z w : Service σ α} (h : Reaches backend y z) (hs : Step backend z w) :
      Reaches backend y w

/-- Lets each of the given calls take a step in turn, if it can. A call that cannot is passed
over, so that any list of numbers is an order of turns, and every state that is reached is reached
by one. -/
def turns (backend : Backend σ) (y : Service σ α) (order : List Nat) : Service σ α :=
  order.foldl (fun y i => (y.step? backend i).getD y) y

/-- Whether all calls have finished. -/
def isFinished (y : Service σ α) : Bool := y.calls.all fun p => p.result?.isSome

/-- Lets all calls take turns until they have finished. The fuel bounds the number of rounds. -/
def settle (backend : Backend σ) : (fuel : Nat) → Service σ α → Service σ α
  | 0, y => y
  | fuel + 1, y =>
    if y.isFinished then y
    else settle backend fuel (y.turns backend (List.range y.calls.length))

end Service

end SignIn
