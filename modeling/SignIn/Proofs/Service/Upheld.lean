import SignIn.Proofs.Service.Runs

/-!
# What calls uphold

A property of the data that all calls uphold with every change they decide on, and that the data
have that the backend loads, is one that the data in memory always have: while a change is being
saved, after a save that has failed, and before anything has been loaded.

* `Change.Upholds` is what is asked of each change that a call can decide on
  (`Rule.commits`): it fits the data and leads to data with the property. A change may be
  asked to be an allowed one.
* `Backend.Offers` is what is asked of the backend: the first load that succeeds gives data with
  the property.
* `Service.Upheld.step` is the step of the invariant, and `Service.Upheld.turns` is its run.
-/

namespace SignIn

variable {σ α : Type} {backend : Backend σ} {P : Directory → Prop}
  {allowed : Directory → Change → Prop}

/-- The worlds after any number of loads that have failed. -/
inductive Backend.Retries (backend : Backend σ) (w : σ) : σ → Prop
  | refl : Retries backend w w
  | fail {w' w'' : σ} {e : Failure} (h : Retries backend w w')
      (hl : backend.load w' = (.error e, w'')) : Retries backend w w''

/-- The first load that succeeds gives data with a property. Nothing is asked of loads that fail,
and of those that come after a success. -/
def Backend.Offers (backend : Backend σ) (P : Directory → Prop) (w : σ) : Prop :=
  ∀ w' d w'', backend.Retries w w' → backend.load w' = (.ok d, w'') → P d

/-- One more failed load, at the beginning. -/
theorem Backend.Retries.head {w w' w'' : σ} {e : Failure}
    (hl : backend.load w = (.error e, w')) (h : backend.Retries w' w'') :
    backend.Retries w w'' := by
  induction h with
  | refl => exact .fail .refl hl
  | fail _ hl' ih => exact .fail ih hl'

/-- A load that fails leaves the backend with what it offers. -/
private theorem Backend.Offers.of_fail {w w' : σ} {e : Failure} (h : backend.Offers P w)
    (hl : backend.load w = (.error e, w')) : backend.Offers P w' :=
  fun w₁ d w₂ hretries hload => h w₁ d w₂ (hretries.head hl) hload

/-- Data that have been loaded have what the backend offers. -/
theorem Backend.Offers.of_ensureLoaded {s t : Shared σ} (h : backend.Offers P s.world)
    (hl : s.loaded = false) (hload : s.ensureLoaded backend = (.ok (), t)) : P t.directory := by
  rw [Shared.ensureLoaded, hl] at hload
  cases hbackend : backend.load s.world with
  | mk r w =>
    rw [hbackend] at hload
    cases r with
    | error => cases hload
    | ok d =>
      cases hload
      exact h _ d w .refl hbackend

/-- Where the data could not be loaded, the backend still offers what it did. -/
theorem Backend.Offers.of_ensureLoaded_error {s t : Shared σ} {e : Failure}
    (h : backend.Offers P s.world) (hl : s.loaded = false)
    (hload : s.ensureLoaded backend = (.error e, t)) :
    t.loaded = false ∧ backend.Offers P t.world := by
  rw [Shared.ensureLoaded, hl] at hload
  cases hbackend : backend.load s.world with
  | mk r w =>
    rw [hbackend] at hload
    cases r with
    | ok => cases hload
    | error =>
      cases hload
      exact ⟨rfl, h.of_fail hbackend⟩

/-- A change that fits a directory and upholds a property of it, if it is allowed. -/
def Change.Upholds (P : Directory → Prop) (allowed : Directory → Change → Prop) (d : Directory)
    (change : Change) : Prop :=
  P d → allowed d change → change.Fits d ∧ P (change.apply d)

namespace Service

/-- The change that a call decides on in its next turn, if it does. -/
def commit? (y : Service σ α) (i : ℕ) : Option Change :=
  match y.calls[i]? with
  | some (.before (.write decide)) =>
    if y.free .data then
      match decide y.shared.directory with
      | .answer _ => none
      | .commit change _ => some change
    else none
  | _ => none

/-- The data that a call hands to the backend in its next turn, to be saved. -/
def snapshot? (y : Service σ α) (i : ℕ) : Option Directory :=
  match y.calls[i]? with
  | some (.saving _ _) => some y.shared.directory
  | _ => none

/-- What is saved is what is in memory at that moment. -/
theorem eq_of_snapshot? {y : Service σ α} {i : ℕ} {d : Directory} (h : y.snapshot? i = some d) :
    y.shared.directory = d := by
  rw [snapshot?] at h
  split at h <;> cases h
  rfl

/-- The data have a property at a moment of a run, and keep it: as they are in memory, as a load is
about to bring them in, and as they would be without the change that is being saved. -/
structure Upheld (backend : Backend σ) (P : Directory → Prop)
    (allowed : Directory → Change → Prop) (y : Service σ α) : Prop where
  data : P y.shared.directory
  /-- The data that a call is about to put into memory have it. -/
  fetched : ∀ d next, .loading (.installing d) next ∈ y.calls → P d
  /-- The data have it without the change that is being saved. -/
  undone : ∀ change a, .saving change a ∈ y.calls → P (change.undo y.shared.directory)
  offers : y.shared.loaded = false → (∀ p ∈ y.calls, p.isPending = false) →
    backend.Offers P y.shared.world
  upholds : ∀ p ∈ y.calls, p.Obeys (.commits (Change.Upholds P allowed))

/-- The property of the data at the beginning of a run. -/
theorem upheld_start {s : Shared σ} {procedures : List (Procedure σ α)} (hdata : P s.directory)
    (hoffers : s.loaded = false → backend.Offers P s.world)
    (hprocedures : ∀ p ∈ procedures, p.Obeys (.commits (Change.Upholds P allowed))) :
    (start s procedures).Upheld backend P allowed := by
  have hmem : ∀ p ∈ (start s procedures).calls,
      ∃ procedure ∈ procedures, p = .before procedure := by
    intro p hp
    obtain ⟨procedure, hprocedure, rfl⟩ := List.mem_map.1 hp
    exact ⟨procedure, hprocedure, rfl⟩
  refine ⟨hdata, fun d next hp => ?_, fun change a hp => ?_, fun hl _ => hoffers hl,
    fun p hp => ?_⟩
  · obtain ⟨_, -, heq⟩ := hmem _ hp
    cases heq
  · obtain ⟨_, -, heq⟩ := hmem _ hp
    cases heq
  · obtain ⟨procedure, hprocedure, rfl⟩ := hmem p hp
    exact hprocedures procedure hprocedure

variable {y z : Service σ α} {i : ℕ}

/-- While a call waits for the backend, the backend still offers the data. -/
private theorem Upheld.offers_of_loading (h : y.Upheld backend P allowed) (hy : y.Orderly)
    {next : Procedure σ α} (hi : y.calls[i]? = some (.loading .loading next)) :
    backend.Offers P y.shared.world := by
  have hmem := List.mem_of_getElem? hi
  refine h.offers (hy.not_loaded_of_mem hmem rfl) fun p hp => ?_
  refine Bool.eq_false_iff.2 fun hpending => ?_
  rw [hy.position_eq_of_isBusy hp hmem (Position.isBusy_of_isPending hpending) rfl] at hpending
  cases hpending

/-- The directory in memory after a step has the property. -/
private theorem Upheld.data_step (h : y.Upheld backend P allowed)
    (hallowed : ∀ change, y.commit? i = some change → allowed y.shared.directory change)
    {p q : Position σ α} {s' : Shared σ} (hi : y.calls[i]? = some p)
    (hmove : Position.Move backend y.free y.shared p q s') : P s'.directory := by
  have hmem := List.mem_of_getElem? hi
  cases hmove with
  | install next d => exact h.fetched d next hmem
  | rollBack change a => exact h.undone change a hmem
  | commit decide change a hf hd =>
    have hcommit : y.commit? i = some change := by simp [commit?, hi, hf, hd]
    have hupholds := Decision.obeys_commits.1 (h.upholds _ hmem y.shared.directory) change a hd
    exact (hupholds h.data (hallowed change hcommit)).2
  | _ => exact h.data

/-- While a change of one call is being saved, no other call changes the directory. -/
private theorem Orderly.directory_eq (hy : y.Orderly) {j : ℕ} {p q : Position σ α}
    {s' : Shared σ} (hi : y.calls[i]? = some p)
    (hmove : Position.Move backend y.free y.shared p q s') {change : Change} {a : α}
    (hj : y.calls[j]? = some (.saving change a)) (hij : j ≠ i) :
    s'.directory = y.shared.directory := by
  have hlocked : y.free .data = false :=
    Bool.eq_false_iff.2 fun hf => absurd (holds_of_free hf hj) (by simp [Position.holds])
  cases hmove with
  | install _ _ hf | commit _ _ _ hf => exact absurd hf (ne_true_of_eq_false hlocked)
  | rollBack => exact absurd (hy.eq_of_saving hj hi) hij
  | _ => rfl

/-- As long as nothing has been loaded after a step, the backend offers what it did. -/
private theorem Upheld.offers_step (h : y.Upheld backend P allowed) (hy : y.Orderly)
    {p q : Position σ α} {s' : Shared σ} (hi : y.calls[i]? = some p)
    (hmove : Position.Move backend y.free y.shared p q s') (hl : s'.loaded = false)
    (hlevel : ∀ p' ∈ y.calls.set i q, p'.isPending = false) : backend.Offers P s'.world := by
  have hmem := List.mem_of_getElem? hi
  have hq : q.isPending = false := hlevel q (mem_set_self hi)
  have hquiet : p.isPending = false → y.shared.loaded = false →
      backend.Offers P y.shared.world := by
    intro hp hl'
    refine h.offers hl' fun p' hp' => Bool.eq_false_iff.2 fun hpending => ?_
    obtain ⟨j, hj⟩ := List.mem_iff_getElem?.1 hp'
    have hij : i ≠ j := by
      rintro rfl
      obtain rfl := Option.some.inj (hi.symm.trans hj)
      exact absurd hpending (ne_true_of_eq_false hp)
    have hstays := hlevel p' (List.mem_of_getElem? ((List.getElem?_set_ne hij).trans hj))
    exact absurd hpending (ne_true_of_eq_false hstays)
  cases hmove with
  | refuse next e w hload => exact (h.offers_of_loading hy hi).of_fail hload
  | fetch | install | commit => cases hq
  | announce => cases hl
  | save | rollBack => exact absurd (hy.loaded_of_mem hmem rfl) (ne_true_of_eq_false hl)
  | pass _ _ _ hl' => exact absurd hl' (ne_true_of_eq_false hl)
  | enter | queue | acquire | request | read | answer => exact hquiet rfl hl

/-- **A step upholds the property**, if the change that it makes is allowed. -/
theorem Upheld.step (h : y.Upheld backend P allowed) (hy : y.Orderly)
    (hallowed : ∀ change, y.commit? i = some change → allowed y.shared.directory change)
    (hstep : y.step? backend i = some z) : z.Upheld backend P allowed := by
  have hupholds := forall_obeys_of_step h.upholds hstep
  obtain ⟨p, q, s', hi, hmove, rfl⟩ := hy.move hstep
  have hmem := List.mem_of_getElem? hi
  refine ⟨h.data_step hallowed hi hmove, fun d next hp => ?_, fun change a hp => ?_,
    h.offers_step hy hi hmove, hupholds⟩
  · -- the data that the call has been handed over are those on offer
    rcases mem_set_cases hp with rfl | ⟨j, -, hold⟩
    · cases hmove with
      | fetch _ _ w hload => exact h.offers_of_loading hy hi _ d w .refl hload
    · exact h.fetched d next (List.mem_of_getElem? hold)
  · rcases mem_set_cases hp with rfl | ⟨j, hij, hold⟩
    · cases hmove with
      | commit decide _ _ hf hd =>
        have hcommit : y.commit? i = some change := by simp [commit?, hi, hf, hd]
        have hupholds :=
          Decision.obeys_commits.1 (h.upholds _ hmem y.shared.directory) change a hd
        have hfits := (hupholds h.data (hallowed change hcommit)).1
        -- without the change the data are what they were
        rw [Change.undo_apply hfits]
        exact h.data
    · rw [hy.directory_eq hi hmove hold hij]
      exact h.undone change a (List.mem_of_getElem? hold)

/-- All changes that a run makes are allowed when they are decided on, whether or not they come to
be saved. -/
def Allows (backend : Backend σ) (allowed : Directory → Change → Prop) (y : Service σ α) :
    List ℕ → Prop
  | [] => True
  | k :: order => (∀ change ∈ y.commit? k, allowed y.shared.directory change) ∧
      Allows backend allowed (y.turn backend k) order

instance decidableAllows [∀ d change, Decidable (allowed d change)] :
    (y : Service σ α) → (order : List ℕ) → Decidable (Allows backend allowed y order)
  | _, [] => isTrue trivial
  | y, k :: order =>
    have : Decidable (Allows backend allowed (y.turn backend k) order) :=
      decidableAllows (y.turn backend k) order
    inferInstanceAs (Decidable (_ ∧ _))

/-- Where all changes are allowed, those of a run are. -/
theorem allows_of_forall (h : ∀ d change, allowed d change) (order : List ℕ) :
    Allows backend allowed y order := by
  induction order generalizing y with
  | nil => trivial
  | cons k order ih => exact ⟨fun _ _ => h _ _, ih⟩

/-- What is allowed in a run is allowed in its beginning. -/
theorem Allows.of_append {before after : List ℕ} (h : Allows backend allowed y (before ++ after)) :
    Allows backend allowed y before := by
  induction before generalizing y with
  | nil => trivial
  | cons k before ih => exact ⟨h.1, ih h.2⟩

/-- **A run upholds the property**, if all changes that it makes are allowed. -/
theorem Upheld.turns (h : y.Upheld backend P allowed) (hy : y.Orderly) {order : List ℕ}
    (hallows : Allows backend allowed y order) :
    (y.turns backend order).Upheld backend P allowed := by
  induction order generalizing y with
  | nil => exact h
  | cons k order ih =>
    obtain ⟨hnow, hlater⟩ := hallows
    rw [turns_cons]
    rw [turn] at hlater ⊢
    cases hstep : y.step? backend k with
    | none =>
      rw [hstep] at hlater
      exact ih h hy hlater
    | some z =>
      rw [hstep] at hlater
      exact ih (h.step hy hnow hstep) (hy.step hstep) hlater

end Service

end SignIn
