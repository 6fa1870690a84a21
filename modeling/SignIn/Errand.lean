import SignIn.Manager

/-!
# Credentials in the hands of a caller

Whoever has credentials taken to their user, or linked to one, keeps them in hand meanwhile, and the
call marks them there as linked once that has come true. An `Errand` is a call of this kind, made
while no other call is under way: it works on a `Desk`, where the caller's credentials lie beside
the shared state, and what it has done to them stays done when it fails.
-/

namespace SignIn

/-- What an errand works on: the state that all calls share, and credentials in a caller's
hands. -/
structure Desk (σ : Type) where
  shared : Shared σ
  inHand : Credentials

/-- A call for a caller who has credentials in hand. It changes them where they lie, as it goes on,
and a failure takes nothing back by itself. -/
abbrev Errand (σ : Type) := ExceptT Failure (StateM (Desk σ))

namespace Errand

variable {σ α β : Type}

/-- What an errand comes out with, and what it leaves on the desk. -/
def on (e : Errand σ α) (w : Desk σ) : Except Failure α × Desk σ := e.run.run w

/-- Does something to the shared state. -/
def share (f : Shared σ → Except Failure α × Shared σ) : Errand σ α :=
  ExceptT.mk fun w => let (r, s) := f w.shared; (r, { w with shared := s })

/-- A call that has nothing to do with the credentials in hand. -/
def carryOut (backend : Backend σ) (p : Procedure σ α) : Errand σ α := share (p.run backend)

/-- The data as they are. -/
def directory : Errand σ Directory := return (← get).shared.directory

/-- Makes a change, saves it, and takes it back if that fails. -/
def commit (backend : Backend σ) (change : Change) : Errand σ Unit :=
  share fun s => s.settle backend (.commit change ())

/-- Marks the credentials in hand as linked. -/
def markLinked : Errand σ Unit := modify fun w => { w with inHand := w.inHand.linked }

/-- The user for the credentials in hand, who is created if need be. The steps are those of
`Store.resolve`; the credentials are marked after the change has been saved and not before. -/
def resolve (backend : Backend σ) (provider : Provider σ) (userId : String) : Errand σ User := do
  share (Shared.ensureLoaded backend)
  let c := (← get).inHand
  if c.isNew then
    let about ← share ((provider.userMeta c).run backend provider.key)
    let d ← directory
    match d.holder? c.id with
    | some u =>
      if u.holdsFrom c.key c.id then
        markLinked
        return u
      else throw (.credentialsAlreadyLinked c.id)
    | none =>
      let u := Store.newUser d userId about c
      commit backend (.addUser u)
      markLinked
      return u
  else
    match (← directory).holderFrom? c.key c.id with
    | some u => return u
    | none => throw (.credentialsWithoutUser c.id)

/-- Links the credentials in hand to a user, by the steps of `Store.link`. -/
def link (backend : Backend σ) (userId : String) : Errand σ Unit := do
  share (Shared.ensureLoaded backend)
  let c := (← get).inHand
  let d ← directory
  match d.holder? c.id with
  | some u => if u.id = userId then markLinked else throw (.credentialsAlreadyLinked c.id)
  | none =>
    match d.userPosition? userId with
    | none => throw (.userNotFound userId)
    | some i =>
      commit backend (.addCredentials i c.linked)
      markLinked

/-- The user for the credentials in hand, found through their provider. -/
def resolveThrough (manager : Manager σ) (backend : Backend σ) (userId : String) :
    Errand σ User := do
  match manager.provider? (← get).inHand.key with
  | .ok p => resolve backend p userId
  | .error e => throw e

/-! ### One step after another -/

section

variable {w : Desk σ}

@[simp] theorem on_pure (a : α) : on (pure a) w = (.ok a, w) := rfl

@[simp] theorem on_throw (failure : Failure) :
    on (throw failure : Errand σ α) w = (.error failure, w) := rfl

@[simp] theorem on_get : on (get : Errand σ (Desk σ)) w = (.ok w, w) := rfl

@[simp] theorem on_directory : on directory w = (.ok w.shared.directory, w) := rfl

@[simp] theorem on_markLinked :
    on markLinked w = (.ok (), { w with inHand := w.inHand.linked }) := rfl

@[simp] theorem on_share (f : Shared σ → Except Failure α × Shared σ) :
    on (share f) w = ((f w.shared).1, { w with shared := (f w.shared).2 }) := rfl

theorem on_bind (e : Errand σ α) (f : α → Errand σ β) :
    on (e >>= f) w = match e.on w with
      | (.ok a, w) => (f a).on w
      | (.error failure, w) => (.error failure, w) := by
  simp only [on, ExceptT.run_bind, StateT.run_bind]
  rcases e.run.run w with ⟨r, w'⟩
  cases r <;> rfl

end

end Errand

end SignIn
