import SignIn.Errand
import SignIn.Proofs.Store.Linking

/-!
# Calls that fail leave no trace

A call that fails has loaded the data, if they could be loaded and had not been, and has done
nothing else: `Shared.AsFound` says what is left. Of a call that makes a change this is so because
each change that a call decides on fits the data, so that taking it back restores them
(`Procedure.directory_of_error`).

Calls for a caller who has credentials in hand are procedures that answer with the credentials
(`Errand.on_resolve`, `Errand.on_link`). A caller gets them back marked as linked, or untouched if
the call has failed: `Errand.leaves_no_trace`.
-/

namespace SignIn

variable {σ α β : Type} {backend : Backend σ}

/-- What a call is left with that has come to nothing: the data in memory are those that it has
found there, or has loaded, or they are still to be loaded. -/
def Shared.AsFound (backend : Backend σ) (s t : Shared σ) : Prop :=
  if s.loaded then t.loaded = true ∧ t.directory = s.directory
  else
    match backend.load s.world with
    | (.ok d, _) => t.loaded = true ∧ t.directory = d
    | (.error _, _) => t.loaded = false ∧ t.directory = s.directory

/-! ### Procedures that fail -/

/-- A decision that is not carried out leaves the data as they are. -/
private theorem Shared.directory_of_settle {s t : Shared σ} {decision : Decision α} {e : Failure}
    (hfits : ∀ change a, decision = .commit change a → change.Fits s.directory)
    (h : s.settle backend decision = (.error e, t)) :
    t.loaded = s.loaded ∧ t.directory = s.directory := by
  cases decision with
  | answer r =>
    cases h
    exact ⟨rfl, rfl⟩
  | commit change a =>
    simp only [settle, save] at h
    split at h <;> cases h
    exact ⟨rfl, Change.undo_apply (hfits change a rfl)⟩

/-- With the data loaded, a call that fails leaves them as they are. -/
theorem Procedure.directory_of_error {p : Procedure σ α} (hp : p.Obeys .plain)
    (hfits : p.Obeys (.commits fun d change => change.Fits d)) {s t : Shared σ} {e : Failure}
    (hl : s.loaded = true) (h : p.run backend s = (.error e, t)) :
    t.loaded = true ∧ t.directory = s.directory := by
  induction p with
  | finish r =>
    cases h
    exact ⟨hl, rfl⟩
  | load next ih =>
    rw [run_load_of_loaded hl] at h
    exact ih hp hfits h
  | prepare => exact hp.1.elim
  | read next ih => exact ih s.directory (hp s.directory) (hfits s.directory) h
  | write decide =>
    have hdecide := Decision.obeys_commits.1 (hfits s.directory)
    obtain ⟨hloaded, hdirectory⟩ := Shared.directory_of_settle hdecide h
    exact ⟨hloaded.trans hl, hdirectory⟩

/-- A call that loads the data first and fails leaves things as it has found them. -/
theorem Procedure.asFound_of_error {q : Procedure σ α} (hq : q.Obeys .plain)
    (hfits : q.Obeys (.commits fun d change => change.Fits d)) {s t : Shared σ} {e : Failure}
    (h : (load q).run backend s = (.error e, t)) : s.AsFound backend t := by
  rw [Shared.AsFound]
  cases hl : s.loaded with
  | true =>
    rw [run_load_of_loaded hl] at h
    simpa using directory_of_error hq hfits hl h
  | false =>
    rcases hload : backend.load s.world with ⟨r, w⟩
    cases r with
    | error e' =>
      have hensure : s.ensureLoaded backend = (.error e', { s with world := w }) := by
        simp [Shared.ensureLoaded, hl, hload]
      rw [run_load_of_error hensure] at h
      cases h
      simpa using hl
    | ok d =>
      have hensure : s.ensureLoaded backend
          = (.ok (), { s with world := w, directory := d, loaded := true }) := by
        simp [Shared.ensureLoaded, hl, hload]
      rw [run_load_of_ensureLoaded hensure] at h
      simpa using directory_of_error hq hfits rfl h

/-- Another answer of a procedure, and the same state afterwards. -/
theorem Procedure.run_map (f : α → β) (p : Procedure σ α) (s : Shared σ) :
    (p.map f).run backend s = ((p.run backend s).1.map f, (p.run backend s).2) := by
  induction p generalizing s with
  | finish r => rfl
  | load next ih | prepare key hook next ih =>
    simp only [map, run]
    split
    · rfl
    · exact ih _
  | read next ih => exact ih s.directory s
  | write decide =>
    simp only [map, run]
    cases decide s.directory with
    | answer r => rfl
    | commit change a =>
      simp only [Decision.map, Shared.settle, Shared.save]
      split <;> rfl

/-- A procedure fails as it does with another answer. -/
theorem Procedure.run_map_error (f : α → β) {p : Procedure σ α} {s t : Shared σ} {e : Failure} :
    (p.map f).run backend s = (.error e, t) ↔ p.run backend s = (.error e, t) := by
  rw [run_map]
  rcases p.run backend s with ⟨r, t'⟩
  cases r <;> simp [Except.map]

/-- **A call of the store that fails leaves things as it has found them.** -/
theorem Store.Call.asFound_of_error (c : Call σ) {s t : Shared σ} {e : Failure}
    (h : c.procedure.run backend s = (.error e, t)) : s.AsFound backend t := by
  have hsuits := c.commits_suits
  rw [c.procedure_eq] at h hsuits
  exact Procedure.asFound_of_error c.isGuided_body.plain
    (hsuits.mono_commits fun _ _ hchange => hchange.fits) h

/-! ### Procedures that succeed -/

namespace Store

/-- Credentials that have been taken to their user are linked. -/
private theorem yields_resolve (provider : Provider σ) (userId : String) (c : Credentials) :
    (resolve provider userId c).Obeys (.yields fun r => r.2 = c.linked) := by
  show Procedure.Obeys _ (if c.isNew then _ else _)
  cases hc : c.isNew with
  | true =>
    rw [if_pos rfl]
    refine Hook.obeys_andThen _ fun about _ d => ?_
    rw [decideNew]
    split
    · split <;> rintro _ ⟨⟩
      rfl
    · exact ⟨trivial, rfl⟩
  | false =>
    have hlinked : c.linked = c := by rw [Credentials.linked, ← hc]
    intro d r hr
    rw [userOfLinked] at hr
    split at hr <;> cases hr
    exact hlinked.symm

/-- Credentials that have been linked to a user are linked. -/
private theorem yields_link (userId : String) (c : Credentials) :
    (link userId c : Procedure σ Credentials).Obeys (.yields fun c' => c' = c.linked) := by
  intro d
  beta_reduce
  split
  · split <;> rintro _ ⟨⟩
    rfl
  · rcases withUser_cases d userId
      fun i _ => Decision.commit (.addCredentials i c.linked) c.linked with
      ⟨herror, -⟩ | ⟨i, u, -, -, hcommit⟩
    · rw [herror]
      rintro _ ⟨⟩
    · rw [hcommit]
      exact ⟨trivial, rfl⟩

end Store

/-! ### Errands are procedures -/

/-- With the data loaded, what a provider is asked changes nothing. -/
private theorem Hook.snd_run {s : Shared σ} (hl : s.loaded = true) (key : ProviderKey)
    (h : Hook α) : (h.run backend key s).2 = s := by
  induction h with
  | answer r => rfl
  | consult ask ih =>
    rw [run, Shared.ensureLoaded, if_pos hl]
    exact ih _

namespace Errand

/-- What lies on the desk when a procedure that answers with the credentials in hand has ended.
Where it fails, they have stayed as they were. -/
def handOver (c : Credentials) :
    Except Failure (α × Credentials) × Shared σ → Except Failure α × Desk σ
  | (.ok (a, c'), s) => (.ok a, ⟨s, c'⟩)
  | (.error e, s) => (.error e, ⟨s, c⟩)

/-- A change that is made before credentials in hand are marked as linked. -/
private theorem on_commit (backend : Backend σ) (change : Change) (a : α) (w : Desk σ) :
    (do commit backend change; markLinked; return a : Errand σ α).on w = handOver w.inHand
      (w.shared.settle backend (.commit change (a, w.inHand.linked))) := by
  simp only [on_bind, commit, on_share, on_markLinked, on_pure, Shared.settle, Shared.save]
  rcases backend.save (change.apply w.shared.directory) w.shared.world with ⟨r, s⟩
  cases r <;> rfl

/-- Credentials in hand are taken to their user as a procedure takes them. -/
theorem on_resolve (backend : Backend σ) (provider : Provider σ) (userId : String) (w : Desk σ) :
    (resolve backend provider userId).on w = handOver w.inHand
      ((Store.resolve provider userId w.inHand).run backend w.shared) := by
  rw [resolve, Store.resolve, on_bind, on_share]
  rcases hload : w.shared.ensureLoaded backend with ⟨r, s⟩
  cases r with
  | error e => simp only [Procedure.run, hload, handOver]
  | ok =>
    have hl := Shared.loaded_of_ensureLoaded hload
    rw [Procedure.run_load_of_ensureLoaded hload]
    simp only [on_bind, on_get]
    cases hc : w.inHand.isNew with
    | false =>
      simp only [Bool.false_eq_true, if_false, on_bind, on_directory, Procedure.run,
        Store.userOfLinked]
      cases s.directory.holderFrom? w.inHand.key w.inHand.id <;> rfl
    | true =>
      -- the hook finds the data loaded and leaves the shared state alone
      simp only [if_true, on_bind, on_share, Hook.run_andThen hl, Hook.snd_run hl]
      rcases ((provider.userMeta w.inHand).run backend provider.key s).1 with e | about
      · rfl
      · simp only [on_directory, Procedure.run, Store.decideNew]
        cases s.directory.holder? w.inHand.id with
        | some u =>
          by_cases hkey : u.holdsFrom w.inHand.key w.inHand.id = true <;>
            simp only [hkey, if_true, if_false, Bool.false_eq_true] <;> rfl
        | none =>
          exact on_commit backend (.addUser (Store.newUser s.directory userId about w.inHand)) _
            ⟨s, w.inHand⟩

/-- Credentials in hand are linked as a procedure links them. -/
theorem on_link (backend : Backend σ) (userId : String) (w : Desk σ) :
    (link backend userId).on w = handOver w.inHand
      (((Store.link userId w.inHand).map fun c => ((), c)).run backend w.shared) := by
  rw [link, Store.link, Store.alter, Procedure.map, Procedure.map, on_bind, on_share]
  rcases hload : w.shared.ensureLoaded backend with ⟨r, s⟩
  cases r with
  | error e => simp only [Procedure.run, hload, handOver]
  | ok =>
    simp only [on_bind, on_get, on_directory, Procedure.run, hload]
    cases s.directory.holder? w.inHand.id with
    | some u =>
      by_cases hid : u.id = userId <;> simp only [hid, if_true, if_false] <;> rfl
    | none =>
      simp only [Store.withUser]
      cases hi : s.directory.userPosition? userId with
      | none => rfl
      | some i =>
        obtain ⟨hlt, -⟩ := List.findIdx?_eq_some_iff_getElem.1 hi
        simp only [List.getElem?_eq_getElem hlt, Decision.map]
        exact on_commit backend (.addCredentials i w.inHand.linked) () ⟨s, w.inHand⟩

/-- So they are where the provider has to be found first. -/
theorem on_resolveThrough (manager : Manager σ) (backend : Backend σ) (userId : String)
    (w : Desk σ) : (resolveThrough manager backend userId).on w = handOver w.inHand
      ((manager.resolve userId w.inHand).run backend w.shared) := by
  rw [resolveThrough, Manager.resolve, Manager.withProvider, on_bind, on_get]
  simp only
  cases manager.provider? w.inHand.key with
  | error e => rfl
  | ok p => exact on_resolve backend p userId w

/-! ### What errands leave behind -/

/-- An errand that fails leaves things as it has found them: the data, with the order of all users,
credentials, tokens and clients, and the credentials in hand. -/
def LeavesNoTrace (backend : Backend σ) (e : Errand σ α) : Prop :=
  ∀ w failure w', e.on w = (.error failure, w') →
    w.shared.AsFound backend w'.shared ∧ w'.inHand = w.inHand

/-- An errand that succeeds leaves the credentials in hand as they were, but for the mark that they
are linked. -/
def Marks (e : Errand σ α) : Prop :=
  ∀ w a w', e.on w = (.ok a, w') → w'.inHand = { w.inHand with isNew := false }

/-- What an errand that is a procedure leaves behind is what the procedure leaves behind. -/
private theorem leavesNoTrace_of_handOver {e : Errand σ α}
    {p : Credentials → Procedure σ (α × Credentials)}
    (he : ∀ w, e.on w = handOver w.inHand ((p w.inHand).run backend w.shared))
    (hp : ∀ c s t failure, (p c).run backend s = (.error failure, t) → s.AsFound backend t) :
    e.LeavesNoTrace backend := by
  intro w failure w' h
  rw [he] at h
  rcases hrun : (p w.inHand).run backend w.shared with ⟨r, t⟩
  rw [hrun] at h
  cases r with
  | ok a => cases h
  | error e' =>
    cases h
    exact ⟨hp _ _ _ _ hrun, rfl⟩

private theorem marks_of_handOver {e : Errand σ α}
    {p : Credentials → Procedure σ (α × Credentials)}
    (he : ∀ w, e.on w = handOver w.inHand ((p w.inHand).run backend w.shared))
    (hp : ∀ c, (p c).Obeys (.yields fun r => r.2 = c.linked)) : e.Marks := by
  intro w a w' h
  rw [he] at h
  rcases hrun : (p w.inHand).run backend w.shared with ⟨r, t⟩
  rw [hrun] at h
  cases r with
  | error e' => cases h
  | ok b =>
    cases h
    exact (hp w.inHand).run hrun

/-- **A call that fails leaves no trace**, whatever it is given and whatever has failed: data that
could not be loaded are still to be loaded, every change is taken back, and the credentials in hand
are untouched. Credentials that have been taken to their user, or linked to one, are marked as
linked and otherwise untouched. -/
theorem leaves_no_trace (backend : Backend σ) :
    (∀ call : Store.Call σ, (carryOut backend call.procedure).LeavesNoTrace backend) ∧
      (∀ provider userId, (resolve backend provider userId).LeavesNoTrace backend ∧
        (resolve backend provider userId).Marks) ∧
      ∀ userId, (link backend userId).LeavesNoTrace backend ∧ (link backend userId).Marks := by
  refine ⟨fun call w failure w' h => ?_, fun provider userId => ⟨?_, ?_⟩,
    fun userId => ⟨?_, ?_⟩⟩
  · rw [carryOut, on_share, Prod.mk.injEq] at h
    obtain ⟨hr, rfl⟩ := h
    exact ⟨call.asFound_of_error (Prod.ext hr rfl), rfl⟩
  · refine leavesNoTrace_of_handOver (on_resolve backend provider userId) ?_
    intro c s t failure h
    exact (Store.Call.resolve provider userId c).asFound_of_error
      ((Procedure.run_map_error _).2 h)
  · exact marks_of_handOver (on_resolve backend provider userId)
      (Store.yields_resolve provider userId)
  · refine leavesNoTrace_of_handOver (p := fun c => (Store.link userId c).map fun c => ((), c))
      (on_link backend userId) ?_
    intro c s t failure h
    exact (Store.Call.link userId c).asFound_of_error
      ((Procedure.run_map_error _).2 ((Procedure.run_map_error _).1 h))
  · refine marks_of_handOver (p := fun c => (Store.link userId c).map fun c => ((), c))
      (on_link backend userId) fun c => ?_
    exact Procedure.obeys_map.2 (Store.yields_link userId c)

end Errand

end SignIn
