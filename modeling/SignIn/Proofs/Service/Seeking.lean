import SignIn.Proofs.Service.Attempted

/-!
# Calls that need a provider to be prepared

What a run shows of the preparation of a provider follows from `Service.Attempted`: how often its
hook has been called, how these calls have ended, and what this has to do with the readiness of the
provider.

A call that prepares the provider and then has its result goes on only once the hook has succeeded,
in its own hands or in those of another call, and ends where the hook has failed in its own:
`Position.Seeks`, which `Service.seeks_turns` says of every run, and `Service.explains_turns` of the
calls that have ended. A call that prepares other providers only leaves this one as it is
(`Service.readiness_turn_of_spares`).
-/

namespace SignIn

variable {σ α : Type} {backend : Backend σ} {key : ProviderKey}

namespace Service

variable {y z : Service σ α} {log : Attempts}

/-! ### What the attempts show -/

/-- A provider is ready just if its hook has succeeded. -/
theorem Attempted.ready_iff (h : y.Attempted key log) :
    y.shared.readiness key = .ready ↔ ∃ i, (i, .ends (.ok ())) ∈ log := by
  obtain ⟨failed, now, rfl, hnow⟩ := h.told
  have hold := Attempts.success_notMem_failures failed
  cases hnow with
  | idle hr => simp [hr, hold]
  | calling i hr => simp [hr, hold]
  | ready i hr => simp [hr]

/-- It is being prepared just while some call is at work with its hook. -/
theorem Attempted.initializing_iff (h : y.Attempted key log) :
    y.shared.readiness key = .initializing ↔ ∃ i, y.IsCalling key i := by
  obtain ⟨failed, now, rfl, hnow⟩ := h.told
  cases hnow with
  | idle hr hc => simp [hr, hc]
  | calling i hr hc => simp [hr, show ∃ i, y.IsCalling key i from ⟨i, hc⟩]
  | ready i hr hc => simp [hr, hc]

/-- It is still to be prepared while neither is the case. -/
theorem Attempted.uninitialized_iff (h : y.Attempted key log) :
    y.shared.readiness key = .uninitialized ↔
      (¬ ∃ i, y.IsCalling key i) ∧ ¬ ∃ i, (i, .ends (.ok ())) ∈ log := by
  rw [← h.initializing_iff, ← h.ready_iff]
  cases y.shared.readiness key <;> simp

/-- A call is at work with the hook just while its beginning is the last that has been done. -/
theorem Attempted.isCalling_iff (h : y.Attempted key log) {i : ℕ} :
    y.IsCalling key i ↔ ∃ earlier, log = earlier ++ [(i, .begins)] := by
  obtain ⟨failed, now, rfl, hnow⟩ := h.told
  cases hnow with
  | idle hr hc =>
    refine iff_of_false (hc i) ?_
    rintro ⟨earlier, heq⟩
    rcases List.eq_nil_or_concat failed with rfl | ⟨failed, x, rfl⟩
    · simp [Attempts.failures] at heq
    · rw [List.concat_eq_append, Attempts.failures_concat, List.append_nil, List.append_cons] at heq
      cases List.singleton_inj.1 (List.append_inj' heq rfl).2
  | calling j hr hc =>
    constructor
    · intro hi
      rw [h.exclusive.eq_of_isCalling hi hc]
      exact ⟨_, rfl⟩
    · rintro ⟨earlier, heq⟩
      cases List.singleton_inj.1 (List.append_inj' heq rfl).2
      exact hc
  | ready j hr hc =>
    refine iff_of_false (hc i) ?_
    rintro ⟨earlier, heq⟩
    rw [List.append_cons] at heq
    cases List.singleton_inj.1 (List.append_inj' heq rfl).2

/-- **Once the hook has succeeded it is not called again.** -/
theorem Attempted.eq_nil_of_success (h : y.Attempted key log) {before after : Attempts} {i : ℕ}
    (heq : log = before ++ (i, .ends (.ok ())) :: after) : after = [] := by
  obtain ⟨failed, now, rfl, hnow⟩ := h.told
  have hold := Attempts.success_notMem_failures failed
  rcases List.eq_nil_or_concat after with rfl | ⟨after, x, rfl⟩
  · rfl
  -- the success would stand before the last entry, where there is none
  have hmem : (i, Attempt.ends (.ok ())) ∈ (Attempts.failures failed ++ now).dropLast := by
    rw [heq, List.concat_eq_append, ← List.cons_append, ← List.append_assoc,
      List.dropLast_concat]
    simp
  exfalso
  cases hnow with
  | idle =>
    rw [List.append_nil] at hmem
    exact hold i (List.dropLast_subset _ hmem)
  | calling j =>
    rw [List.dropLast_concat] at hmem
    exact hold i hmem
  | ready j =>
    rw [List.append_cons, List.dropLast_concat] at hmem
    rcases List.mem_append.1 hmem with hmem | hmem
    · exact hold i hmem
    · cases List.mem_singleton.1 hmem

/-- **The hook calls that have ended have failed**, but for one if the provider is ready. -/
theorem Attempted.countP_isEnd (h : y.Attempted key log) :
    log.countP (fun x => x.2.isEnd) = log.countP (fun x => x.2.isFailure)
      + if y.shared.readiness key = .ready then 1 else 0 := by
  obtain ⟨failed, now, rfl, hnow⟩ := h.told
  obtain ⟨hend, hfailure⟩ := Attempts.countP_failures failed
  rw [List.countP_append, List.countP_append, hend, hfailure]
  cases hnow with
  | idle hr => simp [hr]
  | calling i hr => simp [hr, Attempt.isEnd, Attempt.isFailure]
  | ready i hr => simp [hr, Attempt.isEnd, Attempt.isFailure]

end Service

/-! ### Calls that prepare the provider -/

/-- Where a call stands that prepares a provider and then has its result, and what the attempts so
far have to do with it. -/
inductive Position.Seeks (key : ProviderKey) (hook : Hook (Effect σ)) (r : Except Failure α)
    (i : ℕ) (log : Attempts) : Position σ α → Prop
  | waits : Seeks key hook r i log (.before (.prepare key hook (.finish r)))
  | prepares (stage : InitStage σ) : Seeks key hook r i log (.preparing key hook stage (.finish r))
  /-- The hook has succeeded, and has not failed in the hands of the call. -/
  | passed (j : ℕ) (h : (j, .ends (.ok ())) ∈ log) (hown : ∀ e, (i, .ends (.error e)) ∉ log) :
      Seeks key hook r i log (.before (.finish r))
  /-- The hook has failed in the hands of the call. -/
  | failed (e : Failure) (h : (i, .ends (.error e)) ∈ log) :
      Seeks key hook r i log (.before (.finish (.error e)))

/-- The attempts account for how a call has ended that prepares a provider and then has a result:
it has this result, and the hook has succeeded, and not failed in the hands of the call; or the hook
has failed there, and so has the call. -/
def Attempts.Explains (log : Attempts) (i : ℕ) (r a : Except Failure α) : Prop :=
  (a = r ∧ (∃ j, (j, .ends (.ok ())) ∈ log) ∧ ∀ e, (i, .ends (.error e)) ∉ log) ∨
    ∃ e, a = .error e ∧ (i, .ends (.error e)) ∈ log

private theorem Position.Seeks.explains {hook : Hook (Effect σ)} {r a : Except Failure α} {i : ℕ}
    {log : Attempts} {p : Position σ α} (h : p.Seeks key hook r i log) (ha : p.result? = some a) :
    log.Explains i r a := by
  cases h with
  | waits | prepares => cases ha
  | passed j hj hown => exact Or.inl ⟨(Option.some.inj ha).symm, ⟨j, hj⟩, hown⟩
  | failed e he => exact Or.inr ⟨e, (Option.some.inj ha).symm, he⟩

/-- What others do with the hook does not concern a call. -/
theorem Position.Seeks.entry {hook : Hook (Effect σ)} {r : Except Failure α} {i k : ℕ}
    {log : Attempts} {p : Position σ α} (h : p.Seeks key hook r i log) (hk : k ≠ i)
    (attempt? : Option Attempt) : p.Seeks key hook r i (log ++ .entry k attempt?) := by
  have hown : ∀ e, (i, .ends (.error e)) ∈ log ++ .entry k attempt? →
      (i, .ends (.error e)) ∈ log := by
    intro e he
    rcases List.mem_append.1 he with he | he
    · exact he
    · cases attempt? with
      | none => cases he
      | some a => exact absurd (Prod.mk.inj (List.mem_singleton.1 he)).1 (Ne.symm hk)
  cases h with
  | waits => exact .waits
  | prepares stage => exact .prepares stage
  | passed j hj hnot => exact .passed j (List.mem_append_left _ hj) fun e he => hnot e (hown e he)
  | failed e he => exact .failed e (List.mem_append_left _ he)

namespace Service

variable {y z : Service σ α} {log : Attempts}

private theorem Attempted.passed (h : y.Attempted key log) {hook : Hook (Effect σ)}
    {r : Except Failure α} {i j : ℕ} (hnone : y.result? i = none) {attempt? : Option Attempt}
    (hattempt : attempt? = none ∨ attempt? = some (.ends (.ok ())))
    (hj : (j, .ends (.ok ())) ∈ log ++ .entry i attempt?) :
    Position.Seeks key hook r i (log ++ .entry i attempt?) (.before (.finish r)) := by
  refine .passed j hj fun e he => ?_
  rcases List.mem_append.1 he with he | he
  · cases hnone.symm.trans (h.failed i e he)
  · rcases hattempt with rfl | rfl
    · cases he
    · cases List.mem_singleton.1 he

/-- A step of a call that prepares the provider. -/
private theorem Attempted.seeks_step (h : y.Attempted key log) {hook : Hook (Effect σ)}
    {r : Except Failure α} {k : ℕ} {p q : Position σ α} {s' : Shared σ}
    (hnone : y.result? k = none) (hp : p.Seeks key hook r k log)
    (hstep : p.step? backend y.free y.shared = some (q, s')) :
    q.Seeks key hook r k (log ++ .entry k (p.attempt? backend y.free y.shared key)) := by
  cases hp with
  | passed | failed => cases hstep
  | waits =>
    cases hstep
    exact .prepares _
  | prepares stage =>
    rcases hstage : stage.step? backend key hook y.free y.shared with _ | ⟨x, t⟩
    · simp only [Position.step?, hstage] at hstep
      cases hstep
    rw [Position.step?_preparing hstage] at hstep
    cases hstep
    simp only [Position.attempt?, hstage, if_true, Option.bind_some]
    cases x with
    | more stage' => exact .prepares stage'
    | done answer =>
      cases InitStage.act_of_step? hstage with
      | passes _ hc hr =>
        -- the provider is ready, so that some call has succeeded before
        obtain ⟨j, hj⟩ := h.ready_iff.1 hr
        exact h.passed hnone (Or.inl (by simp [InitStage.attempt?, hc])) (List.mem_append_left _ hj)
      | succeeds _ _ hc =>
        have hattempt : stage.attempt? (.done (.ok ())) = some (.ends (.ok ())) := by
          simp [InitStage.attempt?, hc]
        rw [hattempt]
        exact h.passed hnone (Or.inr rfl) (List.mem_append_right _ (List.mem_singleton.2 rfl))
      | fails _ _ e hc =>
        have hattempt : stage.attempt? (.done (.error e)) = some (.ends (.error e)) := by
          simp [InitStage.attempt?, hc]
        rw [hattempt]
        exact .failed e (List.mem_append_right _ (List.mem_singleton.2 rfl))

/-- **Calls that prepare the provider go on only once it is prepared**, at every moment of every
run. -/
theorem seeks_turns {s : Shared σ} {procedures : List (Procedure σ α)}
    (h : s.readiness key = .uninitialized) (order : List ℕ) {i : ℕ} {hook : Hook (Effect σ)}
    {r : Except Failure α} (hi : procedures[i]? = some (.prepare key hook (.finish r))) :
    ∃ p, ((start s procedures).turns backend order).calls[i]? = some p ∧
      p.Seeks key hook r i ((start s procedures).attempts backend key order) := by
  refine (attempts_keeps (P := fun y log => y.Attempted key log ∧
    ∃ p, y.calls[i]? = some p ∧ p.Seeks key hook r i log) ?_ ⟨attempted_start h, ?_⟩ order).2
  · rintro y z k log ⟨hy, p, hp, hseeks⟩ hstep
    refine ⟨hy.step hstep, ?_⟩
    obtain ⟨p', q, s', hk, hp', rfl⟩ := step?_eq_some hstep
    by_cases hki : k = i
    · subst hki
      obtain rfl := Option.some.inj (hp.symm.trans hk)
      rw [attempt?_eq hk]
      obtain ⟨hlt, -⟩ := List.getElem?_eq_some_iff.1 hk
      exact ⟨q, List.getElem?_set_self hlt,
        hy.seeks_step (result?_of_step? hstep) hseeks hp'⟩
    · exact ⟨p, (List.getElem?_set_ne hki).trans hp, hseeks.entry hki _⟩
  · refine ⟨.before (.prepare key hook (.finish r)), ?_, .waits⟩
    simp [start, hi]

/-- **How calls end that prepare the provider** and then have a result, in every run. -/
theorem explains_turns {s : Shared σ} {procedures : List (Procedure σ α)}
    (h : s.readiness key = .uninitialized) (order : List ℕ) {i : ℕ} {hook : Hook (Effect σ)}
    {r a : Except Failure α} (hi : procedures[i]? = some (.prepare key hook (.finish r)))
    (ha : ((start s procedures).turns backend order).result? i = some a) :
    ((start s procedures).attempts backend key order).Explains i r a := by
  obtain ⟨p, hp, hseeks⟩ := seeks_turns h order hi
  rw [result?, hp, Option.bind_some] at ha
  exact hseeks.explains ha

end Service

/-! ### Calls that do not prepare the provider -/

namespace Service

variable {y z : Service σ α}

/-- A call that does not prepare a provider leaves its readiness as it is. -/
theorem readiness_turn_of_spares {k : ℕ} (h : ∀ p, y.calls[k]? = some p → p.Obeys (.spares key)) :
    (y.turn backend k).shared.readiness key = y.shared.readiness key := by
  rw [turn]
  cases hstep : y.step? backend k with
  | none => rfl
  | some z =>
    obtain ⟨p, q, s', hk, hp, rfl⟩ := step?_eq_some hstep
    have htends : Position.Tends key y.shared p q s' _ := Position.tends_of_step? hp
    have hnone : p.attempt? backend y.free y.shared key = none := by
      have hspares := h p hk
      cases p with
      | before | loading | saving => rfl
      | preparing key' hook stage next => exact if_neg hspares.1
    rw [hnone] at htends
    cases htends with
    | aside _ hr => exact hr

end Service

end SignIn
