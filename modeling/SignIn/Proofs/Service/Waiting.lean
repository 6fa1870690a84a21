import SignIn.Proofs.Service.Locks

/-!
# Who waits for which lock

A call that has not finished can take a step, unless it stands before a lock that another call
holds (`Position.step?_eq_none_iff`). The locks are nested in one order only: a call that prepares a
provider may go on to load the data, and one that loads the data puts them into memory at the end.
So whoever waits for a lock holds none but locks of a higher rank (`Position.rank_lt_of_awaits`),
and never the one that it waits for.

That is why calls cannot wait for each other in a circle: the holder of a lock that somebody waits
for can take a step, or waits for a lock of lower rank (`Service.exists_step_of_locked`).
-/

namespace SignIn

variable {σ α : Type} {backend : Backend σ}

/-- The place of a lock in the order in which locks are nested. A call that holds one waits for none
but those further on. -/
def Lock.rank : Lock → ℕ
  | .data => 0
  | .loadGate => 1
  | .initGate _ => 2

/-! ### Standing before a lock -/

/-- The lock before which a call stands at a stage. -/
def LoadStage.awaits? : LoadStage → Option Lock
  | .atGate => some .loadGate
  | .installing _ => some .data
  | .arriving | .inGate | .loading | .announcing => none

/-- The lock before which a call stands at a stage. -/
def InitStage.awaits? (key : ProviderKey) : InitStage σ → Option Lock
  | .atGate => some (.initGate key)
  | .consulting stage _ => stage.awaits?
  | .reading _ => some .data
  | .arriving | .inGate | .running _ => none

/-- The lock before which a call stands at a position. -/
def Position.awaits? : Position σ α → Option Lock
  | .before (.read _) | .before (.write _) => some .data
  | .before (.finish _) | .before (.load _) | .before (.prepare _ _ _) => none
  | .loading stage _ => stage.awaits?
  | .preparing key _ stage _ => stage.awaits? key
  | .saving _ _ => none

/-- Work on a load stands still only before a lock that is not free. -/
theorem LoadStage.step?_eq_none_iff (backend : Backend σ) (free : Lock → Bool) (s : Shared σ)
    (stage : LoadStage) : stage.step? backend free s = none ↔
      ∃ l, stage.awaits? = some l ∧ free l = false := by
  cases stage with
  | arriving | inGate | announcing => simp [step?, awaits?]
  | atGate | installing => simp [step?, awaits?]
  | loading =>
    simp only [step?, awaits?]
    split <;> simp

/-- Work on the preparation of a provider stands still only before a lock that is not free. -/
theorem InitStage.step?_eq_none_iff (backend : Backend σ) (key : ProviderKey)
    (hook : Hook (Effect σ)) (free : Lock → Bool) (s : Shared σ) (stage : InitStage σ) :
    stage.step? backend key hook free s = none ↔
      ∃ l, stage.awaits? key = some l ∧ free l = false := by
  cases stage with
  | arriving | atGate | reading => simp [step?, awaits?]
  | inGate =>
    simp only [step?, awaits?]
    split <;> simp
  | running h =>
    rcases h with (e | effect) | ask
    · simp [step?, awaits?]
    · simp only [step?, awaits?]
      split <;> simp
    · simp [step?, awaits?]
  | consulting load ask =>
    rw [awaits?, ← LoadStage.step?_eq_none_iff backend free s load]
    simp only [step?]
    split <;> simp_all

namespace Position

/-- **A call stands still only where it has finished, or before a lock that is not free.** -/
theorem step?_eq_none_iff (backend : Backend σ) (free : Lock → Bool) (s : Shared σ)
    (p : Position σ α) : p.step? backend free s = none ↔
      p.result?.isSome = true ∨ ∃ l, p.awaits? = some l ∧ free l = false := by
  cases p with
  | before p =>
    cases p with
    | finish | load | prepare | read => simp [step?, result?, awaits?]
    | write decide =>
      simp only [step?, result?, awaits?]
      split
      · split <;> simp_all
      · simp_all
  | loading stage next =>
    rw [awaits?, ← LoadStage.step?_eq_none_iff backend free s stage]
    simp only [step?, result?]
    split <;> simp_all
  | preparing key hook stage next =>
    rw [awaits?, ← InitStage.step?_eq_none_iff backend key hook free s stage]
    simp only [step?, result?]
    split <;> simp_all
  | saving => simp [step?, result?, awaits?]

/-- A call that has finished holds no lock. -/
theorem holds_of_result? {p : Position σ α} (h : p.result?.isSome = true) (l : Lock) :
    p.holds l = false := by
  cases p with
  | before => rfl
  | loading | preparing | saving => cases h

end Position

/-! ### The order of the locks -/

/-- Work on a load holds none but locks of a higher rank than the one it waits for. -/
theorem LoadStage.rank_lt_of_awaits {stage : LoadStage} {l l' : Lock}
    (h : stage.awaits? = some l) (hl' : stage.holds l' = true) : l.rank < l'.rank := by
  cases stage with
  | arriving | inGate | loading | announcing => cases h
  | atGate => cases hl'
  | installing d =>
    cases h
    rw [show l' = .loadGate from beq_iff_eq.1 hl']
    decide

/-- So does work on the preparation of a provider. -/
theorem InitStage.rank_lt_of_awaits {key : ProviderKey} {stage : InitStage σ} {l l' : Lock}
    (h : stage.awaits? key = some l) (hl' : stage.holds key l' = true) : l.rank < l'.rank := by
  cases stage with
  | arriving | inGate | running => cases h
  | atGate => cases hl'
  | reading ask =>
    cases h
    rw [show l' = .initGate key from beq_iff_eq.1 hl']
    exact Nat.zero_lt_two
  | consulting load ask =>
    rcases Bool.or_eq_true_iff.1 hl' with hl' | hl'
    · -- a load never waits for a gate of a provider
      rw [show l' = .initGate key from beq_iff_eq.1 hl']
      cases load with
      | arriving | inGate | loading | announcing => cases h
      | atGate | installing =>
        cases h
        simp [Lock.rank]
    · exact LoadStage.rank_lt_of_awaits h hl'

namespace Position

/-- **Whoever waits for a lock holds none but locks of a higher rank.** -/
theorem rank_lt_of_awaits {p : Position σ α} {l l' : Lock} (h : p.awaits? = some l)
    (hl' : p.holds l' = true) : l.rank < l'.rank := by
  cases p with
  | before => cases hl'
  | loading => exact LoadStage.rank_lt_of_awaits h hl'
  | preparing => exact InitStage.rank_lt_of_awaits h hl'
  | saving => cases h

/-- Nobody waits for a lock that it holds itself. -/
theorem holds_of_awaits {p : Position σ α} {l : Lock} (h : p.awaits? = some l) :
    p.holds l = false :=
  Bool.eq_false_iff.2 fun hl => Nat.lt_irrefl _ (rank_lt_of_awaits h hl)

end Position

/-! ### Somebody can go on -/

namespace Service

variable {y : Service σ α}

/-- A lock that is not free has a holder. -/
private theorem exists_holds {l : Lock} (h : y.free l = false) :
    ∃ (i : ℕ) (p : Position σ α), y.calls[i]? = some p ∧ p.holds l = true := by
  rw [free, List.all_eq_false] at h
  obtain ⟨p, hp, hholds⟩ := h
  obtain ⟨i, hi⟩ := List.mem_iff_getElem?.1 hp
  exact ⟨i, p, hi, by simpa using hholds⟩

/-- A call that can take no step has finished, or stands before a lock that is not free. -/
private theorem step?_eq_none_cases {i : ℕ} {p : Position σ α} (hi : y.calls[i]? = some p)
    (h : y.step? backend i = none) :
    p.result?.isSome = true ∨ ∃ l, p.awaits? = some l ∧ y.free l = false := by
  refine (Position.step?_eq_none_iff backend y.free y.shared p).1 ?_
  cases hp : p.step? backend y.free y.shared with
  | none => rfl
  | some r => simp [step?, hi, hp] at h

/-- A call that has not finished and can take no step waits for another call. -/
theorem exists_holder_of_step?_eq_none {i : ℕ} {p : Position σ α} (hi : y.calls[i]? = some p)
    (hunfinished : p.result? = none) (h : y.step? backend i = none) :
    ∃ (l : Lock) (j : ℕ) (q : Position σ α), p.awaits? = some l ∧ j ≠ i ∧
      y.calls[j]? = some q ∧ q.holds l = true := by
  rcases step?_eq_none_cases hi h with hfinished | ⟨l, hawaits, hlocked⟩
  · rw [hunfinished] at hfinished
    cases hfinished
  · obtain ⟨j, q, hj, hholds⟩ := exists_holds hlocked
    refine ⟨l, j, q, hawaits, ?_, hj, hholds⟩
    rintro rfl
    obtain rfl := Option.some.inj (hi.symm.trans hj)
    exact absurd hholds (ne_true_of_eq_false (Position.holds_of_awaits hawaits))

/-- While a lock is not free, somebody can take a step: its holder, or by induction on the rank the
holder of what the holder waits for. -/
theorem exists_step_of_locked (backend : Backend σ) {l : Lock} (h : y.free l = false) :
    ∃ i z, y.step? backend i = some z := by
  induction hrank : l.rank using Nat.strongRecOn generalizing l with
  | _ n ih =>
    obtain ⟨i, p, hi, hholds⟩ := exists_holds h
    cases hstep : y.step? backend i with
    | some z => exact ⟨i, z, hstep⟩
    | none =>
      rcases step?_eq_none_cases hi hstep with hfinished | ⟨l', hawaits, hlocked⟩
      · rw [Position.holds_of_result? hfinished] at hholds
        cases hholds
      · exact ih _ (hrank ▸ Position.rank_lt_of_awaits hawaits hholds) hlocked rfl

/-- **As long as some call has not finished, somebody can take a step.** -/
theorem exists_step (backend : Backend σ) (h : y.isFinished = false) :
    ∃ i z, y.step? backend i = some z := by
  rw [isFinished, List.all_eq_false] at h
  obtain ⟨p, hp, hunfinished⟩ := h
  obtain ⟨i, hi⟩ := List.mem_iff_getElem?.1 hp
  cases hstep : y.step? backend i with
  | some z => exact ⟨i, z, hstep⟩
  | none =>
    rcases step?_eq_none_cases hi hstep with hfinished | ⟨l, -, hlocked⟩
    · exact absurd hfinished hunfinished
    · exact exists_step_of_locked backend hlocked

end Service

end SignIn
