import SignIn.Proofs.Service.Deeds

/-!
# The gate before the data

A procedure that is guarded (`Procedure.IsGuarded`) touches the data only once they have been
loaded; it may prepare a provider before that. `Service.Gated` is what calls with such procedures
keep up among themselves: before the data have been loaded every call is away from them, and
afterwards nobody is at work on loading them. So there is never more than one call with something at
stake (`Service.Gated.eq_of_stake?`).
-/

namespace SignIn

variable {σ α : Type} {backend : Backend σ}

/-- A procedure that touches the data only after they have been loaded. It may make sure of that
more than once. -/
def Procedure.IsGuarded : Procedure σ α → Prop
  | .finish _ | .load _ => True
  | .prepare _ _ next => next.IsGuarded
  | .read _ | .write _ => False

namespace Position

/-- A position away from the data: they may not have been loaded. -/
def IsAway : Position σ α → Prop
  | .before p => p.IsGuarded
  | .loading _ _ => True
  | .preparing _ _ stage next => (∀ ask, stage ≠ .reading ask) ∧ next.IsGuarded
  | .saving _ _ => False

/-- A call away from the data is not at the data. -/
theorem IsAway.isAtData {p : Position σ α} (h : p.IsAway) : p.isAtData = false := by
  cases p with
  | before p => cases p <;> first | rfl | exact h.elim
  | loading | saving => rfl
  | preparing key hook stage next =>
    cases stage with
    | reading ask => exact absurd rfl (h.1 ask)
    | arriving | atGate | inGate | running | consulting => rfl

/-- A call away from the data is not saving them. -/
theorem IsAway.isLoad {p : Position σ α} (h : p.IsAway) {stake : Stake}
    (hs : p.stake? = some stake) : stake.isLoad = true := by
  have hload : ∀ stage : LoadStage, stage.stake? = some stake → stake.isLoad = true := by
    intro stage hs
    cases stage <;> cases hs <;> rfl
  cases p with
  | before => cases hs
  | loading stage next => exact hload stage hs
  | saving => exact h.elim
  | preparing key hook stage next =>
    cases stage with
    | consulting stage ask => exact hload stage hs
    | arriving | atGate | inGate | running | reading => cases hs

/-- A call that has waited, and goes on with a guarded procedure, is away from the data. -/
private theorem isAway_after {next : Procedure σ α} (h : next.IsGuarded) (r : Except Failure Unit) :
    (after next r).IsAway := by
  cases r with
  | ok => exact h
  | error => trivial

variable {free : Lock → Bool} {s s' : Shared σ} {p q : Position σ α}

/-- A load that has succeeded leaves the data there. -/
private theorem loaded_of_done {stage : LoadStage}
    (h : stage.Transition backend free s (.done (.ok ())) s') : s'.loaded = true := by
  cases h with
  | skip hl | leave hl => exact hl
  | announce => rfl

/-- As long as the data have not been loaded, a step leads no call to them. -/
theorem IsAway.step (h : p.step? backend free s = some (q, s')) (hl : s'.loaded = false)
    (hp : p.IsAway) : q.IsAway := by
  cases transition_of_step? h with
  | enter | load => trivial
  | approach => exact ⟨fun _ => nofun, hp⟩
  | read | answer | commit | save | rollBack => exact hp.elim
  | loaded _ r _ _ hload =>
    -- a load that is over with the data still missing has failed
    cases r with
    | ok => exact absurd (loaded_of_done hload) (ne_true_of_eq_false hl)
    | error => trivial
  | prepare _ _ _ _ _ _ hprepare =>
    refine ⟨?_, hp.2⟩
    rintro ask rfl
    cases hprepare with
    | resume _ _ _ hload => exact absurd (loaded_of_done hload) (ne_true_of_eq_false hl)
  | prepared => exact isAway_after hp.2 _

/-- Whatever a step does, data that have been loaded stay so. -/
theorem Act.loaded {deed : Option Deed} (h : Act backend free s p q s' deed)
    (hl : s.loaded = true) : s'.loaded = true := by
  cases h with
  | announce _ _ hs => rw [hs.loaded]
  | aside _ _ _ _ hs | refuse _ _ _ _ _ hs | fetch _ _ _ _ _ hs | install _ _ _ hs
  | look _ _ _ hs | change _ _ _ _ hs | save _ _ _ _ _ _ hs | rollBack _ _ _ _ _ _ hs =>
    rw [hs.loaded]
    exact hl

/-- Only the call that has put the data into memory lets everyone know. -/
private theorem Act.announces {deed : Option Deed} (h : Act backend free s p q s' deed)
    (hl : s.loaded = false) (hl' : s'.loaded = true) :
    p.stake? = some .announcing ∧ q.stake? = none := by
  cases h with
  | announce hp hq => exact ⟨hp, hq⟩
  | aside _ _ _ _ hs | refuse _ _ _ _ _ hs | fetch _ _ _ _ _ hs | install _ _ _ hs
  | look _ _ _ hs | change _ _ _ _ hs | save _ _ _ _ _ _ hs | rollBack _ _ _ _ _ _ hs =>
    rw [hs.loaded] at hl'
    exact absurd hl' (ne_true_of_eq_false hl)

/-- Once the data have been loaded, a call that is not at work on that does not begin to be. -/
private theorem Act.isLoad_of_loaded {deed : Option Deed} (h : Act backend free s p q s' deed)
    (hl : s.loaded = true) (hp : ∀ stake, p.stake? = some stake → stake.isLoad = false)
    {stake : Stake} (hq : q.stake? = some stake) : stake.isLoad = false := by
  cases h with
  | aside _ _ hq' =>
    rcases hq' with hnone | ⟨-, hl'⟩
    · cases hnone.symm.trans hq
    · exact absurd hl (ne_true_of_eq_false hl')
  | refuse _ _ _ hr | save _ _ _ _ hr | rollBack _ _ _ _ hr =>
    cases (stake?_of_result? hr).symm.trans hq
  | fetch _ _ hp' | install _ hp' | announce hp' => cases hp _ hp'
  | look _ hnone => cases hnone.symm.trans hq
  | change _ _ hsaving =>
    cases hsaving.symm.trans hq
    rfl

end Position

namespace Service

/-- What calls with guarded procedures keep up among themselves. -/
structure Gated (y : Service σ α) : Prop where
  exclusive : y.Exclusive
  /-- Before the data have been loaded, every call is away from them. -/
  away : y.shared.loaded = false → ∀ p ∈ y.calls, p.IsAway
  /-- Once the data have been loaded, nobody is at work on loading them. -/
  settled : y.shared.loaded = true → ∀ p ∈ y.calls, ∀ stake, p.stake? = some stake →
    stake.isLoad = false

theorem gated_start (s : Shared σ) {procedures : List (Procedure σ α)}
    (h : ∀ p ∈ procedures, p.IsGuarded) : (start s procedures).Gated := by
  refine ⟨exclusive_start s procedures, fun _ p hp => ?_, fun _ p hp stake hs => ?_⟩
  · obtain ⟨procedure, hprocedure, rfl⟩ := List.mem_map.1 hp
    exact h procedure hprocedure
  · obtain ⟨procedure, -, rfl⟩ := List.mem_map.1 hp
    cases hs

variable {y z : Service σ α} {i j : ℕ} {p q : Position σ α}

/-- A step of a service is an act of one of its calls. -/
theorem act_of_step? (h : y.step? backend i = some z) :
    ∃ p q s', y.calls[i]? = some p ∧ p.step? backend y.free y.shared = some (q, s') ∧
      Position.Act backend y.free y.shared p q s' (p.deed? backend y.shared) ∧
      z = ⟨s', y.calls.set i q⟩ := by
  obtain ⟨p, q, s', hp, hq, rfl⟩ := step?_eq_some h
  exact ⟨p, q, s', hp, hq, Position.act_of_step? hq, rfl⟩

/-- A call that is at the data shows that they have been loaded. -/
theorem Gated.loaded_of_isAtData (hy : y.Gated) (hp : p ∈ y.calls) (h : p.isAtData = true) :
    y.shared.loaded = true := by
  cases hl : y.shared.loaded with
  | true => rfl
  | false => exact absurd (hy.away hl p hp).isAtData (by simp [h])

/-- What is at stake shows whether the data have been loaded. -/
theorem Gated.loaded_of_stake? (hy : y.Gated) (hp : p ∈ y.calls) {stake : Stake}
    (h : p.stake? = some stake) : y.shared.loaded = !stake.isLoad := by
  cases hl : y.shared.loaded with
  | true => rw [hy.settled hl p hp stake h, Bool.not_false]
  | false => rw [(hy.away hl p hp).isLoad h, Bool.not_true]

/-- **At most one call has something at stake.** -/
theorem Gated.eq_of_stake? (hy : y.Gated) (hi : y.calls[i]? = some p) (hj : y.calls[j]? = some q)
    {stake stake' : Stake} (hp : p.stake? = some stake) (hq : q.stake? = some stake') : i = j := by
  have hsame : stake'.isLoad = stake.isLoad := by
    have hloaded := hy.loaded_of_stake? (List.mem_of_getElem? hi) hp
    rw [hy.loaded_of_stake? (List.mem_of_getElem? hj) hq] at hloaded
    exact Bool.not_inj hloaded
  have hlock : stake'.lock = stake.lock := by rw [Stake.lock, hsame, Stake.lock]
  exact hy.exclusive hi hj (Position.holds_of_stake? hp) (hlock ▸ Position.holds_of_stake? hq)

/-- While the data are there and free, nobody has anything at stake. -/
theorem Gated.stake?_eq_none (hy : y.Gated) (hl : y.shared.loaded = true)
    (hf : y.free .data = true) (hp : p ∈ y.calls) : p.stake? = none := by
  cases hs : p.stake? with
  | none => rfl
  | some stake =>
    obtain ⟨i, hi⟩ := List.mem_iff_getElem?.1 hp
    have hsaving := hy.settled hl p hp stake hs
    have hholds := Position.holds_of_stake? hs
    rw [Stake.lock, hsaving, if_neg (by simp), holds_of_free hf hi] at hholds
    cases hholds

/-- **A step keeps calls gated.** -/
theorem Gated.step (hy : y.Gated) (h : y.step? backend i = some z) : z.Gated := by
  have hexclusive := hy.exclusive.step h
  obtain ⟨p, q, s', hi, hstep, hact, rfl⟩ := act_of_step? h
  have hmem := List.mem_of_getElem? hi
  refine ⟨hexclusive, fun hl p' hp' => ?_, fun hl p' hp' stake hs => ?_⟩
  · -- what is not loaded now has not been loaded before
    have hyl : y.shared.loaded = false :=
      Bool.eq_false_iff.2 fun hyl => absurd (hact.loaded hyl) (ne_true_of_eq_false hl)
    rcases List.mem_or_eq_of_mem_set hp' with hp' | rfl
    · exact hy.away hyl p' hp'
    · exact (hy.away hyl p hmem).step hstep hl
  · cases hyl : y.shared.loaded with
    | true =>
      have hold := hy.settled hyl
      rcases List.mem_or_eq_of_mem_set hp' with hp' | rfl
      · exact hold p' hp' stake hs
      · exact hact.isLoad_of_loaded hyl (hold p hmem) hs
    | false =>
      -- the call that lets everyone know was the only one with something at stake
      obtain ⟨hp, hq⟩ := hact.announces hyl hl
      rcases mem_set_cases hp' with rfl | ⟨j, hij, hj⟩
      · cases hq.symm.trans hs
      · exact absurd (hy.eq_of_stake? hj hi hs hp) hij

end Service

end SignIn
