import SignIn.Proofs.Service.Tracks

/-!
# Calls that do everything at once

A call that asks no provider and ends with one look at the data, or with one decision on them, is
`Procedure.IsImmediate`. To the settled state it does everything in the step with which it ends. An
`Event` is what one step of such a call comes to, and `Service.Tracks.event` says that there is
nothing else. In between, the state in memory is the settled one or one change ahead of it
(`Service.Tracks.shared_cases`).
-/

namespace SignIn

variable {σ α : Type} {backend : Backend σ}

/-- A call that looks at nothing for a provider's sake. -/
def Procedure.IsImmediate (q : Procedure σ α) : Prop := ∀ ds, q.replay ds = q

theorem Procedure.isImmediate_look (next : Directory → Procedure σ α) :
    IsImmediate (.read next : Procedure σ α) := by
  intro ds
  cases ds <;> rfl

theorem Procedure.isImmediate_write (decide : Directory → Decision α) :
    IsImmediate (.write decide : Procedure σ α) := by
  intro ds
  cases ds <;> rfl

/-- A call that ends with a look has been about to look. -/
private theorem Stands.eq_before_of_read {v v' : Shared σ} {next : Directory → Procedure σ α}
    {ds : List Directory} {p p' : Position σ α} (h : Stands v (.read next) ds p)
    (hadv : Position.Advance backend v p p' v') (hl : v.loaded = true)
    (hr : p'.result?.isSome = true) : p = .before (.read next) := by
  have himmediate := Procedure.isImmediate_look (σ := σ) next ds
  cases h with
  | idle =>
    cases hadv with
    | enter => cases hr
  | entering stage =>
    cases hadv with
    | await | fetch | pass => cases hr
    | refuse _ _ _ hl' => exact absurd hl (ne_true_of_eq_false hl')
  | going => rw [himmediate]
  | consulting _ _ _ _ hreplay | looking _ _ _ hreplay | saving _ _ _ _ _ hreplay =>
    rw [himmediate] at hreplay
    cases hreplay
  | ended => cases hadv

/-- A call that ends before the data have been loaded has failed to load them. -/
private theorem Stands.error_of_not_loaded {v v' : Shared σ} {q : Procedure σ α}
    {ds : List Directory} {p p' : Position σ α} (h : Stands v q ds p)
    (hadv : Position.Advance backend v p p' v')
    (hl : v.loaded = false) {r : Except Failure α} (hr : p'.result? = some r) :
    ∃ e, r = .error e ∧ v.ensureLoaded backend = (.error e, v') := by
  cases hadv with
  | refuse _ e _ _ hload =>
    cases hr
    exact ⟨e, rfl, hload⟩
  | enter | await | fetch | commit => cases hr
  | pass _ _ hl' | read _ hl' | answer _ _ hl' => exact absurd hl' (ne_true_of_eq_false hl)
  | conclude =>
    cases h with
    | saving _ _ _ _ hl' => exact absurd hl' (ne_true_of_eq_false hl)

/-- What one step of such a call does: to the settled state, which was `v` and is `v'`, and to the
result of the call. The state in memory afterwards is `s'`. -/
inductive Event (backend : Backend σ) (q : Procedure σ α) (v s' : Shared σ) :
    Option (Except Failure α) → Shared σ → Prop
  | onward : Event backend q v s' none v
  /-- The data are loaded. -/
  | loads (v' : Shared σ) (hl : v.loaded = false) (h : v.ensureLoaded backend = (.ok (), v')) :
      Event backend q v s' none v'
  /-- The data cannot be loaded. -/
  | fails (e : Failure) (v' : Shared σ) (hl : v.loaded = false)
      (h : v.ensureLoaded backend = (.error e, v')) : Event backend q v s' (some (.error e)) v'
  /-- The call does what it is there for. -/
  | ends (r : Except Failure α) (v' : Shared σ) (hl : v.loaded = true)
      (h : q.run backend v = (r, v')) (hs : ∀ next, q = .read next → s' = v) :
      Event backend q v s' (some r) v'

namespace Service

variable {y z : Service σ α} {bodies : List (Procedure σ α)} {seen : ℕ → List Directory}
  {v : Shared σ} {k : ℕ}

/-- A look at the data finds them settled, and leaves them so. -/
private theorem Settled.shared_of_read (hy : y.Orderly) (hv : y.Settled v)
    {next : Directory → Procedure σ α} (hk : y.calls[k]? = some (.before (.read next)))
    (hstep : y.step? backend k = some z) : z.shared = v := by
  obtain ⟨p, q, s', hp, hmove, rfl⟩ := hy.move hstep
  obtain rfl := Option.some.inj (hk.symm.trans hp)
  cases hmove with
  | read _ hf =>
    have hl := hy.loaded_of_mem (List.mem_of_getElem? hk) rfl
    exact (hv.eq_of_level fun _ hp => hy.isPending_eq_false hl hf hp).symm

/-- **A step of an immediate call is an event.** -/
theorem Tracks.event (h : y.Tracks bodies seen v) (hguided : ∀ q ∈ bodies, q.IsGuided)
    (himmediate : ∀ q ∈ bodies, q.IsImmediate) (hstep : y.step? backend k = some z) :
    ∃ q v' seen', bodies[k]? = some q ∧ z.Tracks bodies seen' v' ∧
      (∀ i, i ≠ k → z.result? i = y.result? i) ∧
      Event backend q v z.shared (z.result? k) v' := by
  obtain ⟨p, p', q, v', hk, hcalls, hq, hadv, -, htracks⟩ := h.step hguided hstep
  have hqmem := List.mem_of_getElem? hq
  refine ⟨q, v', _, hq, htracks, fun i hi => result?_set_of_ne hcalls hi, ?_⟩
  rw [result?_set_self hk hcalls]
  have hstands := h.stands k p q hk hq
  cases hr : p'.result? with
  | none =>
    rcases hadv.eq_or_ensureLoaded hr with rfl | ⟨hl, hload⟩
    · exact .onward
    · exact .loads v' hl hload
  | some r =>
    have hrun := hstands.run_eq (hguided q hqmem) hadv hr
    rw [himmediate q hqmem] at hrun
    cases hl : v.loaded with
    | true =>
      -- a look leaves memory alone and finds it settled; a decision may have been saved
      rw [Procedure.run_load_of_loaded hl] at hrun
      refine .ends r v' hl hrun fun next hnext => ?_
      rw [hnext] at hstands
      have hp := hstands.eq_before_of_read hadv hl (by rw [hr, Option.isSome_some])
      exact h.settled.shared_of_read h.orderly (hp ▸ hk) hstep
    | false =>
      obtain ⟨e, rfl, hload⟩ := hstands.error_of_not_loaded hadv hl hr
      exact .fails e v' hl hload

/-- Once the data are in memory, they are settled there, or with one change that a call has
decided on. -/
theorem Tracks.shared_cases (h : y.Tracks bodies seen v)
    (himmediate : ∀ q ∈ bodies, q.IsImmediate) (hl : y.shared.loaded = true) :
    y.shared = v ∨ ∃ (i : ℕ) (decide : Directory → Decision α) (change : Change) (a : α),
      bodies[i]? = some (.write decide) ∧ decide v.directory = .commit change a ∧
      y.shared.directory = change.apply v.directory := by
  cases h.settled with
  | level => exact Or.inl rfl
  | installing _ _ hmem | announcing _ hmem =>
    exact absurd hl (ne_true_of_eq_false (h.orderly.not_loaded_of_mem hmem rfl))
  | saving change a _ hmem hshared =>
    -- whoever is saving has decided with its body, on the settled directory
    obtain ⟨i, hi⟩ := List.mem_iff_getElem?.1 hmem
    have hlt : i < bodies.length := h.length ▸ (List.getElem?_eq_some_iff.1 hi).1
    have hq : bodies[i]? = some bodies[i] := List.getElem?_eq_getElem hlt
    have hstands := h.stands i _ _ hi hq
    generalize seen i = ds at hstands
    cases hstands with
    | saving _ decide _ _ _ hreplay hd =>
      rw [himmediate _ (List.getElem_mem hlt)] at hreplay
      exact Or.inr ⟨i, decide, change, a, hreplay ▸ hq, hd, by rw [hshared]⟩

end Service

end SignIn
