import Mathlib.Data.Nat.Notation
import SignIn.Proofs.Service.Transitions

/-!
# Locks keep calls apart

A call takes a lock only at a moment at which no call holds it, so that in every state a run can
reach each lock has at most one holder. `Position.holds_of_step?` is the step of this, for every
kind of position; `Service.Exclusive` is the invariant, and `Service.Exclusive.step` keeps it.

The lists of positions before and after a step differ at one place. `mem_set_cases` and
`getElem?_set_cases` are the form in which the other invariants use this;
`getElem?_concat_cases` is the same for a list that becomes longer by one.
-/

namespace SignIn

variable {σ α : Type} {backend : Backend σ}

/-! ### One place of a list changes -/

/-- What stands at a place after a replacement. -/
theorem getElem?_set_cases {β : Type} {xs : List β} {i j : ℕ} {x y : β}
    (h : (xs.set i x)[j]? = some y) : (j = i ∧ y = x) ∨ (j ≠ i ∧ xs[j]? = some y) := by
  rw [List.getElem?_set] at h
  split at h
  · rename_i hij
    split at h
    · exact Or.inl ⟨hij.symm, (Option.some.inj h).symm⟩
    · exact absurd h (by simp)
  · rename_i hij
    exact Or.inr ⟨fun heq => hij heq.symm, h⟩

/-- What is in a list after a replacement: the new item, or an item of another place. -/
theorem mem_set_cases {β : Type} {xs : List β} {i : ℕ} {x y : β} (h : y ∈ xs.set i x) :
    y = x ∨ ∃ j, j ≠ i ∧ xs[j]? = some y := by
  obtain ⟨j, hj⟩ := List.mem_iff_getElem?.1 h
  rcases getElem?_set_cases hj with ⟨-, rfl⟩ | ⟨hne, hj⟩
  · exact Or.inl rfl
  · exact Or.inr ⟨j, hne, hj⟩

/-- The new item of a list after a replacement. -/
theorem mem_set_self {β : Type} {xs : List β} {i : ℕ} {x y : β} (h : xs[i]? = some y) :
    x ∈ xs.set i x := by
  obtain ⟨hi, -⟩ := List.getElem?_eq_some_iff.1 h
  exact List.mem_set hi x

/-- What stands at a place of a list with one more item: the item, or what stood there. -/
theorem getElem?_concat_cases {β : Type} {xs : List β} {i : ℕ} {x y : β}
    (h : (xs ++ [x])[i]? = some y) : (i = xs.length ∧ y = x) ∨ xs[i]? = some y := by
  rcases Nat.lt_trichotomy i xs.length with hi | rfl | hi
  · rw [List.getElem?_append_left hi] at h
    exact Or.inr h
  · rw [List.getElem?_concat_length] at h
    exact Or.inl ⟨rfl, (Option.some.inj h).symm⟩
  · rw [List.getElem?_eq_none (by simp; omega)] at h
    cases h

/-! ### A lock is taken while it is free -/

/-- Work on a load takes a lock only while that is free. -/
private theorem LoadStage.Transition.holds {free : Lock → Bool} {s s' : Shared σ}
    {stage stage' : LoadStage} (h : stage.Transition backend free s (.more stage') s')
    {l : Lock} (hl : stage'.holds l = true) : stage.holds l = true ∨ free l = true := by
  cases h with
  | queue => cases hl
  | acquire hf =>
    -- the only stage at which the gate is taken
    rw [show l = .loadGate from beq_iff_eq.1 hl]
    exact Or.inr hf
  | request | fetch | install => exact Or.inl hl

/-- Work on the preparation of a provider takes a lock only while that is free. -/
private theorem InitStage.Transition.holds {key : ProviderKey} {hook : Hook (Effect σ)}
    {free : Lock → Bool} {s s' : Shared σ} {stage stage' : InitStage σ}
    (h : stage.Transition backend key hook free s (.more stage') s')
    {l : Lock} (hl : stage'.holds key l = true) : stage.holds key l = true ∨ free l = true := by
  cases h with
  | queue => cases hl
  | acquire hf =>
    rw [show l = .initGate key from beq_iff_eq.1 hl]
    exact Or.inr hf
  | start | look => exact Or.inl hl
  | consult => exact Or.inl ((Bool.or_false _).symm.trans hl)
  | resume => exact Or.inl (Bool.or_eq_true_iff.2 (Or.inl hl))
  | await load load' ask _ hload =>
    -- the lock is the provider's own, which it had before, or one of the load inside
    rcases Bool.or_eq_true_iff.1 hl with hl | hl
    · exact Or.inl (Bool.or_eq_true_iff.2 (Or.inl hl))
    · exact (hload.holds hl).imp_left fun hl => Bool.or_eq_true_iff.2 (Or.inr hl)

namespace Position

private theorem holds_after (next : Procedure σ α) (r : Except Failure Unit) (l : Lock) :
    (after next r).holds l = false := by
  cases r <;> rfl

/-- A call takes a lock only while that is free. -/
theorem holds_of_step? {free : Lock → Bool} {s s' : Shared σ} {p q : Position σ α}
    (h : p.step? backend free s = some (q, s')) {l : Lock} (hl : q.holds l = true) :
    p.holds l = true ∨ free l = true := by
  cases transition_of_step? h with
  | enter | approach | read | answer | save | rollBack => cases hl
  | commit decide change a hf =>
    -- the lock that the decision has found free is kept until the change is saved
    rw [show l = .data from beq_iff_eq.1 hl]
    exact Or.inr hf
  | load _ _ _ _ hload => exact hload.holds hl
  | prepare _ _ _ _ _ _ hprepare => exact hprepare.holds hl
  | loaded | prepared =>
    rw [holds_after] at hl
    cases hl

end Position

/-! ### One holder at a time -/

namespace Service

/-- A step of the service is a step of one of its calls. -/
theorem step?_eq_some {y z : Service σ α} {i : ℕ} (h : y.step? backend i = some z) :
    ∃ p q s', y.calls[i]? = some p ∧ p.step? backend y.free y.shared = some (q, s') ∧
      z = ⟨s', y.calls.set i q⟩ := by
  simp only [step?] at h
  split at h
  · cases h
  · rename_i p hp
    split at h
    · cases h
    · rename_i q s' hq
      cases h
      exact ⟨p, q, s', hp, hq, rfl⟩

/-- No lock has two holders. -/
def Exclusive (y : Service σ α) : Prop :=
  ∀ ⦃l : Lock⦄ ⦃i j : ℕ⦄ ⦃p q : Position σ α⦄, y.calls[i]? = some p → y.calls[j]? = some q →
    p.holds l = true → q.holds l = true → i = j

/-- While a lock is free, no call holds it. -/
theorem holds_of_free {y : Service σ α} {l : Lock} (h : y.free l = true) {i : ℕ}
    {p : Position σ α} (hp : y.calls[i]? = some p) : p.holds l = false := by
  have hall := List.all_eq_true.1 h p (List.mem_of_getElem? hp)
  simpa using hall

/-- Calls that have not begun hold no lock. -/
theorem exclusive_start (s : Shared σ) (procedures : List (Procedure σ α)) :
    (start s procedures).Exclusive := by
  intro l i j p q hp _ hl _
  obtain ⟨procedure, -, rfl⟩ := List.mem_map.1 (List.mem_of_getElem? hp)
  exact absurd hl (by simp [Position.holds])

/-- **A lock never comes to have two holders.** -/
theorem Exclusive.step {y z : Service σ α} {i : ℕ} (hy : y.Exclusive)
    (h : y.step? backend i = some z) : z.Exclusive := by
  obtain ⟨p, q, s', hp, hq, rfl⟩ := step?_eq_some h
  -- whoever holds a lock elsewhere is in the way of the call that has moved
  have hmoved : ∀ {l : Lock} {j : ℕ} {p' : Position σ α}, y.calls[j]? = some p' →
      p'.holds l = true → q.holds l = true → i = j := by
    intro l j p' hp' hl hql
    rcases Position.holds_of_step? hq hql with hpl | hfree
    · exact hy hp hp' hpl hl
    · rw [holds_of_free hfree hp'] at hl
      exact absurd hl (by simp)
  intro l j k p₁ p₂ h₁ h₂ hl₁ hl₂
  rcases getElem?_set_cases h₁ with ⟨rfl, rfl⟩ | ⟨-, hold₁⟩ <;>
    rcases getElem?_set_cases h₂ with ⟨rfl, rfl⟩ | ⟨-, hold₂⟩
  · rfl
  · exact hmoved hold₂ hl₂ hl₁
  · exact (hmoved hold₁ hl₁ hl₂).symm
  · exact hy hold₁ hold₂ hl₁ hl₂

end Service

end SignIn
