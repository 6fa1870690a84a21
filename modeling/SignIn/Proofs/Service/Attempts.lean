import SignIn.Proofs.Service.Deeds

/-!
# Attempts to prepare a provider

A provider is prepared by its hook, which a call of the service makes while it holds the gate of the
provider. A hook that is at work has begun and has not ended yet (`Position.isCalling`); in between
it may wait for the data. An `Attempt` is the beginning of such a hook call, or its end with what
has come of it.

`Position.Tends` is what one step of a call does to the preparation of a provider, and
`Position.tends_of_step?` says that there is nothing else.
-/

namespace SignIn

variable {σ α : Type} {backend : Backend σ}

/-- What a call does with the hook that prepares a provider. -/
inductive Attempt where
  | begins
  | ends (answer : Except Failure Unit)

namespace Attempt

/-- Whether a hook call has ended. -/
def isEnd : Attempt → Bool
  | .begins => false
  | .ends _ => true

/-- Whether a hook call has failed. -/
def isFailure : Attempt → Bool
  | .ends (.error _) => true
  | .begins | .ends (.ok ()) => false

end Attempt

/-! ### One step of a preparation -/

namespace InitStage

/-- Whether the hook of the provider is at work. -/
def isCalling : InitStage σ → Bool
  | .arriving | .atGate | .inGate => false
  | .running _ | .consulting _ _ | .reading _ => true

/-- What is done with the hook in a step from a stage. -/
def attempt? (stage : InitStage σ) : Progress (InitStage σ) Unit → Option Attempt
  | .more stage' => if !stage.isCalling && stage'.isCalling then some .begins else none
  | .done r => if stage.isCalling then some (.ends r) else none

/-- The steps of a preparation, told by whether the hook is at work and by the readiness of the
provider. -/
inductive Act (key : ProviderKey) (s : Shared σ) :
    InitStage σ → Progress (InitStage σ) Unit → Shared σ → Prop
  /-- It waits for its turn. -/
  | queues (stage stage' : InitStage σ) (hc : stage.isCalling = false)
      (hc' : stage'.isCalling = false) : Act key s stage (.more stage') s
  /-- It finds the provider ready. -/
  | passes (stage : InitStage σ) (hc : stage.isCalling = false) (hr : s.readiness key = .ready) :
      Act key s stage (.done (.ok ())) s
  /-- The hook sets to work. -/
  | begins (hook : Hook (Effect σ)) (hr : s.readiness key ≠ .ready) :
      Act key s .inGate (.more (.running hook)) (s.setReadiness key .initializing)
  /-- The hook goes on. -/
  | works (stage stage' : InitStage σ) (s' : Shared σ) (hc : stage.isCalling = true)
      (hc' : stage'.isCalling = true) (hr : s'.readiness = s.readiness) :
      Act key s stage (.more stage') s'
  | succeeds (stage : InitStage σ) (s' : Shared σ) (hc : stage.isCalling = true)
      (hr : s'.readiness = (s.setReadiness key .ready).readiness) :
      Act key s stage (.done (.ok ())) s'
  | fails (stage : InitStage σ) (s' : Shared σ) (e : Failure) (hc : stage.isCalling = true)
      (hr : s'.readiness = (s.setReadiness key .uninitialized).readiness) :
      Act key s stage (.done (.error e)) s'

end InitStage

/-- A step of a load leaves providers as far as they have been prepared. -/
private theorem LoadStage.Transition.readiness {free : Lock → Bool} {s s' : Shared σ}
    {stage : LoadStage} {x : Progress LoadStage Unit} (h : stage.Transition backend free s x s') :
    s'.readiness = s.readiness := by
  cases h <;> rfl

/-- A step of a preparation is one of these. -/
theorem InitStage.act_of_step? {key : ProviderKey} {hook : Hook (Effect σ)} {free : Lock → Bool}
    {s s' : Shared σ} {stage : InitStage σ} {x : Progress (InitStage σ) Unit}
    (h : stage.step? backend key hook free s = some (x, s')) : stage.Act key s x s' := by
  cases transition_of_step? h with
  | skip hr | leave hr => exact .passes _ rfl hr
  | queue | acquire => exact .queues _ _ rfl rfl
  | start hr => exact .begins hook hr
  | consult | look => exact .works _ _ _ rfl rfl rfl
  | await _ _ _ _ hload | resume _ _ _ hload => exact .works _ _ _ rfl rfl hload.readiness
  | fail e | breakOff _ e => exact .fails _ _ e rfl rfl
  | succeed => exact .succeeds _ _ rfl rfl
  | giveUp _ _ e _ hload =>
    -- data that cannot be loaded are a failure of the hook
    refine .fails _ _ e rfl ?_
    simp only [Shared.setReadiness, hload.readiness]

namespace Position

variable {key : ProviderKey}

/-- Whether a call is at work with the hook of a provider. -/
def isCalling (key : ProviderKey) : Position σ α → Bool
  | .preparing key' _ stage _ => key' == key && stage.isCalling
  | _ => false

/-- What a call does with the hook of a provider in its next step. -/
def attempt? (backend : Backend σ) (free : Lock → Bool) (s : Shared σ) (key : ProviderKey) :
    Position σ α → Option Attempt
  | .preparing key' hook stage _ =>
    if key' = key then
      (stage.step? backend key' hook free s).bind fun x => stage.attempt? x.1
    else none
  | _ => none

/-- Whoever is at work with the hook of a provider holds its gate. -/
theorem holds_of_isCalling {p : Position σ α} (h : p.isCalling key = true) :
    p.holds (.initGate key) = true := by
  cases p with
  | before | loading | saving => cases h
  | preparing key' hook stage next =>
    obtain ⟨hkey, hstage⟩ := Bool.and_eq_true_iff.1 h
    obtain rfl := beq_iff_eq.1 hkey
    cases stage with
    | arriving | atGate | inGate => cases hstage
    | running | reading => exact beq_self_eq_true _
    | consulting => exact Bool.or_eq_true_iff.2 (Or.inl (beq_self_eq_true _))

@[simp] theorem isCalling_after (next : Procedure σ α) (r : Except Failure Unit) :
    (after next r).isCalling key = false := by
  cases r <;> rfl

/-- Where a call stands after a step of a preparation. -/
def onward (key : ProviderKey) (hook : Hook (Effect σ)) (next : Procedure σ α) :
    Progress (InitStage σ) Unit → Position σ α
  | .more stage => .preparing key hook stage next
  | .done r => after next r

/-- A call that prepares a provider takes the steps of the preparation. -/
theorem step?_preparing {free : Lock → Bool} {s t : Shared σ} {key : ProviderKey}
    {hook : Hook (Effect σ)} {stage : InitStage σ} {x : Progress (InitStage σ) Unit}
    (h : stage.step? backend key hook free s = some (x, t)) (next : Procedure σ α) :
    (preparing key hook stage next).step? backend free s = some (onward key hook next x, t) := by
  rw [step?, h]
  cases x <;> rfl

@[simp] theorem isCalling_preparing_self (hook : Hook (Effect σ)) (stage : InitStage σ)
    (next : Procedure σ α) : (preparing key hook stage next).isCalling key = stage.isCalling := by
  simp [isCalling]

private theorem isCalling_onward_of_ne {key' : ProviderKey} (h : key' ≠ key)
    (hook : Hook (Effect σ)) (next : Procedure σ α) (x : Progress (InitStage σ) Unit) :
    (onward key' hook next x).isCalling key = false := by
  cases x with
  | more stage => simp [onward, isCalling, h]
  | done r => exact isCalling_after next r

/-- What a step of a call does to the preparation of a provider. -/
inductive Tends (key : ProviderKey) (s : Shared σ) (p q : Position σ α) (s' : Shared σ) :
    Option Attempt → Prop
  /-- Nothing. -/
  | aside (hc : q.isCalling key = p.isCalling key) (hr : s'.readiness key = s.readiness key) :
      Tends key s p q s' none
  | begins (hp : p.holds (.initGate key) = true) (hc : p.isCalling key = false)
      (hc' : q.isCalling key = true) (hr : s.readiness key ≠ .ready)
      (hr' : s'.readiness key = .initializing) :
      Tends key s p q s' (some .begins)
  | succeeds (hp : p.isCalling key = true) (hc : q.isCalling key = false)
      (hr : s'.readiness key = .ready) : Tends key s p q s' (some (.ends (.ok ())))
  /-- The call ends with the failure of the hook. -/
  | fails (e : Failure) (hp : p.isCalling key = true) (hq : q = .before (.finish (.error e)))
      (hr : s'.readiness key = .uninitialized) : Tends key s p q s' (some (.ends (.error e)))

/-- A step of a call that prepares another provider, or none. -/
private theorem tends_aside {s s' : Shared σ} {p q : Position σ α}
    (hp : p.isCalling key = false) (hq : q.isCalling key = false)
    (hr : s'.readiness key = s.readiness key) : Tends key s p q s' none :=
  .aside (hq.trans hp.symm) hr

/-- A step of a call that prepares a provider. -/
private theorem tends_of_preparing {free : Lock → Bool} {s s' : Shared σ} {key' : ProviderKey}
    {hook : Hook (Effect σ)} {stage : InitStage σ} {next : Procedure σ α} {q : Position σ α}
    (h : (preparing key' hook stage next).step? backend free s = some (q, s')) :
    Tends key s (.preparing key' hook stage next) q s'
      ((preparing key' hook stage next).attempt? backend free s key) := by
  rcases hstage : stage.step? backend key' hook free s with _ | ⟨x, t⟩
  · simp only [step?, hstage] at h
    cases h
  rw [step?_preparing hstage] at h
  cases h
  have hact := InitStage.act_of_step? hstage
  by_cases hkey : key' = key
  · subst hkey
    simp only [attempt?, hstage, Option.bind_some]
    -- which act it is decides whether the hook is at work before and after it
    cases hact with
    | queues _ stage' hc hc' =>
      simp only [InitStage.attempt?, hc, hc', Bool.and_false, Bool.false_eq_true, if_false]
      exact tends_aside (by simp [hc]) (by simp [onward, hc']) rfl
    | passes _ hc hr =>
      simp only [InitStage.attempt?, hc, Bool.false_eq_true, if_false]
      exact tends_aside (by simp [hc]) (by simp [onward]) rfl
    | begins _ hr =>
      exact .begins (beq_self_eq_true _) (by simp [InitStage.isCalling])
        (by simp [onward, InitStage.isCalling]) hr (by simp [Shared.setReadiness])
    | works _ stage' _ hc hc' hr =>
      simp only [InitStage.attempt?, hc, Bool.not_true, Bool.false_and, Bool.false_eq_true,
        if_false]
      exact .aside (by simp [onward, hc, hc']) (by rw [hr])
    | succeeds _ _ hc hr =>
      simp only [InitStage.attempt?, hc, if_true]
      exact .succeeds (by simp [hc]) (by simp [onward])
        (by rw [hr]; simp [Shared.setReadiness])
    | fails _ _ e hc hr =>
      simp only [InitStage.attempt?, hc, if_true]
      exact .fails e (by simp [hc]) rfl (by rw [hr]; simp [Shared.setReadiness])
  · -- the hook of another provider leaves the readiness of this one alone
    have hr : s'.readiness key = s.readiness key := by
      cases hact with
      | queues | passes => rfl
      | begins => simp [Shared.setReadiness, Ne.symm hkey]
      | works _ _ _ _ _ hr => rw [hr]
      | succeeds _ _ _ hr | fails _ _ _ _ hr =>
        rw [hr]
        simp [Shared.setReadiness, Ne.symm hkey]
    simp only [attempt?, if_neg hkey]
    exact tends_aside (isCalling_onward_of_ne hkey hook next (.more stage))
      (isCalling_onward_of_ne hkey hook next x) hr

/-- **Every step does one of these to the preparation of a provider.** -/
theorem tends_of_step? {free : Lock → Bool} {s s' : Shared σ} {p q : Position σ α}
    (h : p.step? backend free s = some (q, s')) :
    Tends key s p q s' (p.attempt? backend free s key) := by
  cases transition_of_step? h with
  | prepare | prepared => exact tends_of_preparing h
  | approach => exact tends_aside rfl (Bool.and_false _) rfl
  | enter | read | answer | commit | save | rollBack => exact tends_aside rfl rfl rfl
  | load _ _ _ _ hload => exact tends_aside rfl rfl (by rw [hload.readiness])
  | loaded _ _ _ _ hload =>
    exact tends_aside rfl (isCalling_after _ _) (by rw [hload.readiness])

end Position

end SignIn
