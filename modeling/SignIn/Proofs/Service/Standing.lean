import SignIn.Proofs.Service.Runs

/-!
# What a call would do now

A call that has come some way through its procedure would, if it were made now and alone, do what
it is going to do: for every position that a call can come to, `Stands` says how this is so. Every
advance keeps it (`Stands.advance`), and a call that finishes with an advance has the result that
it would have if it were made at that moment (`Stands.run_eq`).

A provider may look at the data while a call is under way, at a moment of its own. In a call that
is made now, the provider answers as it did: `Procedure.replay` is a procedure with what has been
looked at for a provider's sake already known.
-/

namespace SignIn

variable {σ α : Type} {backend : Backend σ}

/-! ### Procedures that look at the data for a provider -/

namespace Procedure

/-- A procedure with what it looks at for a provider's sake already known. Such a look makes sure
first that the data are loaded, and only such looks are taken off; the one by which the call takes
effect stays. -/
def replay : List Directory → Procedure σ α → Procedure σ α
  | d :: ds, .load (.read next) => (next d).replay ds
  | _, p => p

@[simp] theorem replay_nil (p : Procedure σ α) : p.replay [] = p := by
  unfold replay
  rfl

private theorem replay_append (ds ds' : List Directory) (p : Procedure σ α) :
    p.replay (ds ++ ds') = (p.replay ds).replay ds' := by
  induction ds generalizing p with
  | nil => rw [List.nil_append, replay_nil]
  | cons d ds ih =>
    cases p with
    | finish | prepare | read | write => cases ds' <;> rfl
    | load p =>
      cases p with
      | read next => exact ih (next d)
      | finish | load | prepare | write => cases ds' <;> rfl

/-- What a call does once the data have been loaded: it asks a provider, looks at the data for its
sake as often as it takes, and ends with one look at the data or one decision on them. -/
inductive IsGuided : Procedure σ α → Prop
  | finish (r : Except Failure α) : IsGuided (.finish r)
  | look (f : Directory → Except Failure α) : IsGuided (.read fun d => .finish (f d))
  | write (decide : Directory → Decision α) : IsGuided (.write decide)
  | consult (next : Directory → Procedure σ α) (h : ∀ d, (next d).IsGuided) :
      IsGuided (.load (.read next))

theorem IsGuided.plain {p : Procedure σ α} (h : p.IsGuided) : p.Obeys .plain := by
  induction h with
  | finish r => exact fun _ _ => trivial
  | look f => exact fun _ _ _ => trivial
  | write decide => exact fun d => Decision.obeys_prepares _ d _
  | consult next _ ih => exact ih

/-- A guided call stays so with what it looks at known. -/
theorem IsGuided.replay {p : Procedure σ α} (h : p.IsGuided) (ds : List Directory) :
    (p.replay ds).IsGuided := by
  induction h generalizing ds with
  | finish r => cases ds <;> exact .finish r
  | look f => cases ds <;> exact .look f
  | write decide => cases ds <;> exact .write decide
  | consult next h ih =>
    cases ds with
    | nil => exact .consult next h
    | cons d ds => exact ih d ds

/-- With the data loaded, a call does what it does after loading them. -/
theorem run_load_of_loaded {s : Shared σ} (hl : s.loaded = true) (p : Procedure σ α) :
    (load p).run backend s = p.run backend s := by
  simp [run, Shared.ensureLoaded, hl]

/-- A call that loads the data does what it does with the data that it gets. -/
theorem run_load_of_ensureLoaded {s t : Shared σ} (h : s.ensureLoaded backend = (.ok (), t))
    (p : Procedure σ α) : (load p).run backend s = p.run backend t := by
  simp [run, h]

/-- A call ends where the data cannot be loaded. -/
theorem run_load_of_error {s t : Shared σ} {e : Failure}
    (h : s.ensureLoaded backend = (.error e, t)) (p : Procedure σ α) :
    (load p).run backend s = (.error e, t) := by
  simp [run, h]

end Procedure

/-- Data that could be loaded are there. -/
theorem Shared.loaded_of_ensureLoaded {s t : Shared σ}
    (h : s.ensureLoaded backend = (.ok (), t)) : t.loaded = true := by
  simp only [ensureLoaded] at h
  split at h
  · rename_i hl
    cases h
    exact hl
  · split at h <;> cases h
    rfl

/-! ### Where a call stands -/

/-- How the position of a call, which has looked at some directories, comes from its procedure.
The state is the settled one. -/
inductive Stands (v : Shared σ) (q : Procedure σ α) : List Directory → Position σ α → Prop
  /-- The call has not begun. -/
  | idle : Stands v q [] (.before (.load q))
  /-- It loads the data. -/
  | entering (stage : LoadStage) : Stands v q [] (.loading stage q)
  /-- It goes on with what it has seen. -/
  | going (ds : List Directory) (hl : v.loaded = true) : Stands v q ds (.before (q.replay ds))
  /-- Its provider makes sure that the data are there. -/
  | consulting (ds : List Directory) (stage : LoadStage) (next : Directory → Procedure σ α)
      (hl : v.loaded = true) (h : q.replay ds = .load (.read next)) :
      Stands v q ds (.loading stage (.read next))
  /-- Its provider is about to look at the data. -/
  | looking (ds : List Directory) (next : Directory → Procedure σ α)
      (hl : v.loaded = true) (h : q.replay ds = .load (.read next)) :
      Stands v q ds (.before (.read next))
  /-- It saves a change that it has decided on. -/
  | saving (ds : List Directory) (decide : Directory → Decision α) (change : Change) (a : α)
      (hl : v.loaded = true) (h : q.replay ds = .write decide)
      (hd : decide v.directory = .commit change a) : Stands v q ds (.saving change a)
  /-- It has ended. -/
  | ended (ds : List Directory) (r : Except Failure α) : Stands v q ds (.before (.finish r))

namespace Stands

variable {v v' : Shared σ} {q : Procedure σ α} {ds : List Directory} {p p' : Position σ α}

/-- An advance of one call leaves the others where they stand. -/
theorem frame (h : Stands v q ds p) (hl : v.loaded = true → v'.loaded = true)
    (hbusy : p.isBusy = true → v' = v) : Stands v' q ds p := by
  cases h with
  | idle => exact .idle
  | entering stage => exact .entering stage
  | going _ hv => exact .going ds (hl hv)
  | consulting _ stage next hv hq => exact .consulting ds stage next (hl hv) hq
  | looking _ next hv hq => exact .looking ds next (hl hv) hq
  | saving _ decide change a hv hq hd =>
    obtain rfl := hbusy rfl
    exact .saving ds decide change a hv hq hd
  | ended _ r => exact .ended ds r

/-- **Each advance leads on from where the call stands.** -/
theorem advance (h : Stands v q ds p) (hq : q.IsGuided)
    (hadv : Position.Advance backend v p p' v') : Stands v' q (ds ++ p.glimpse v) p' := by
  have hend : ∀ r, p' = .before (.finish r) → Stands v' q (ds ++ p.glimpse v) p' := by
    rintro r rfl
    exact .ended _ r
  cases h with
  | idle =>
    cases hadv with
    | enter => exact .entering _
  | entering stage =>
    cases hadv with
    | await _ stage' => exact .entering stage'
    | fetch _ d => exact .entering _
    | refuse _ e => exact hend _ rfl
    | pass _ _ hl => exact .going [] hl
  | going _ hl =>
    -- what is left of a guided call is guided, and says which advances there are
    have hguided := hq.replay ds
    generalize hp : q.replay ds = p₀ at hadv hguided hend ⊢
    cases hguided with
    | finish r => cases hadv
    | look f =>
      cases hadv with
      | read _ _ => exact hend _ rfl
    | write decide =>
      cases hadv with
      | answer _ r _ _ => exact hend _ rfl
      | commit _ change a _ hd =>
        rw [Position.glimpse_write, List.append_nil]
        exact .saving ds decide change a hl hp hd
    | consult next hnext =>
      cases hadv with
      | enter =>
        rw [Position.glimpse_load, List.append_nil]
        exact .consulting ds _ next hl hp
  | consulting _ stage next hl hreplay =>
    rw [Position.glimpse_loading, List.append_nil]
    cases hadv with
    | await _ stage' => exact .consulting ds stage' next hl hreplay
    | pass _ _ _ => exact .looking ds next hl hreplay
    | fetch _ _ _ hl' | refuse _ _ _ hl' => exact absurd hl (ne_true_of_eq_false hl')
  | looking _ next hl hreplay =>
    cases hadv with
    | read _ _ =>
      -- from here on the look is one of those that are known
      have hnext : q.replay (ds ++ [v.directory]) = next v.directory := by
        rw [Procedure.replay_append, hreplay, Procedure.replay, Procedure.replay_nil]
      rw [Position.glimpse_read, ← hnext]
      exact .going _ hl
  | saving _ decide change a hl hreplay hd =>
    cases hadv with
    | conclude _ _ r _ _ => exact hend r rfl
  | ended _ r => cases hadv

/-- **A call that finishes with an advance comes out as if it were made now.** -/
theorem run_eq (h : Stands v q ds p) (hq : q.IsGuided)
    (hadv : Position.Advance backend v p p' v') {r : Except Failure α}
    (hr : p'.result? = some r) :
    (Procedure.load (q.replay (ds ++ p.glimpse v))).run backend v = (r, v') := by
  cases h with
  | idle =>
    cases hadv with
    | enter => cases hr
  | entering stage =>
    rw [Position.glimpse_loading, List.append_nil, Procedure.replay_nil]
    cases hadv with
    | await | fetch => cases hr
    | refuse _ e _ hl hload =>
      cases hr
      exact Procedure.run_load_of_error hload q
    | pass _ _ hl =>
      rw [Procedure.run_load_of_loaded hl]
      -- the call finishes with the load if it is there for nothing else
      cases q with
      | load | prepare | read | write => cases hr
      | finish r' =>
        cases hr
        rfl
  | going _ hl =>
    rw [Procedure.run_load_of_loaded hl, Procedure.replay_append]
    have hguided := hq.replay ds
    generalize q.replay ds = p₀ at hadv hguided ⊢
    cases hguided with
    | finish r => cases hadv
    | look f =>
      cases hadv with
      | read _ _ =>
        cases hr
        rfl
    | write decide =>
      cases hadv with
      | answer _ r' _ hd =>
        cases hr
        simp [Position.glimpse, Procedure.run, hd, Shared.settle]
      | commit => cases hr
    | consult next hnext =>
      cases hadv with
      | enter => cases hr
  | consulting _ stage next hl hreplay =>
    cases hadv with
    | await | pass => cases hr
    | fetch _ _ _ hl' | refuse _ _ _ hl' => exact absurd hl (ne_true_of_eq_false hl')
  | looking _ next hl hreplay =>
    cases hadv with
    | read _ _ =>
      rw [Procedure.run_load_of_loaded hl, Procedure.replay_append, hreplay,
        Position.glimpse_read, Procedure.replay, Procedure.replay_nil]
      -- the last look for a provider ends the call only if it fails
      cases hnext : next v.directory with
      | load | prepare | read | write =>
        rw [hnext] at hr
        cases hr
      | finish r' =>
        rw [hnext] at hr
        cases hr
        rfl
  | saving _ decide change a hl hreplay hd =>
    cases hadv with
    | conclude _ _ r' _ hsave =>
      cases hr
      rw [Position.glimpse_saving, List.append_nil, hreplay, Procedure.run_load_of_loaded hl]
      simp only [Procedure.run, hd, Shared.settle, hsave]
  | ended _ r => cases hadv

end Stands

end SignIn
