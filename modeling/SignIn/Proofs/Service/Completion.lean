import Mathlib.Logic.Hydra
import SignIn.Proofs.Service.Runs
import SignIn.Proofs.Service.Waiting

/-!
# Calls come to an end

Each step brings a call further in its procedure, and no procedure goes on for ever: the stages of a
load lie one behind the other, a hook looks at the data finitely often, and what is left of a
procedure after a step is a part of it. So the positions of a call are well-founded
(`Position.wellFounded_follows`), and with them the states of a service, of which each step moves
one call (`Service.wellFounded_step`): there is no run without end.

Since somebody can go on as long as some call has not finished, every state leads to one in which
all calls have (`Service.exists_reaches_isFinished`).
-/

namespace SignIn

variable {σ α : Type} {backend : Backend σ}

/-! ### Stages -/

namespace LoadStage

/-- One stage of a load follows another one. -/
def Follows (backend : Backend σ) (stage' stage : LoadStage) : Prop :=
  ∃ free s s', stage.Transition backend free s (.more stage') s'

/-- How many stages of a load lie ahead. -/
def ahead : LoadStage → ℕ
  | .arriving => 5
  | .atGate => 4
  | .inGate => 3
  | .loading => 2
  | .installing _ => 1
  | .announcing => 0

/-- The next stage of a load lies closer to its end. -/
private theorem Follows.ahead_lt {stage stage' : LoadStage} (h : Follows backend stage' stage) :
    stage'.ahead < stage.ahead := by
  obtain ⟨free, s, s', h⟩ := h
  cases h <;> exact Nat.lt_succ_self _

theorem wellFounded_follows (backend : Backend σ) : WellFounded (Follows backend) :=
  Subrelation.wf Follows.ahead_lt (measure ahead).wf

end LoadStage

namespace InitStage

variable {key : ProviderKey} {hook : Hook (Effect σ)}

/-- One stage of the preparation of a provider follows another one. -/
def Follows (backend : Backend σ) (key : ProviderKey) (hook : Hook (Effect σ))
    (stage' stage : InitStage σ) : Prop :=
  ∃ free s s', stage.Transition backend key hook free s (.more stage') s'

/-- A hook that waits for the data reads them in the end. -/
private theorem acc_consulting {ask : List Credentials → Hook (Effect σ)}
    (h : Acc (Follows backend key hook) (.reading ask)) (load : LoadStage) :
    Acc (Follows backend key hook) (.consulting load ask) := by
  induction (LoadStage.wellFounded_follows backend).apply load with
  | intro load _ ih =>
    refine Acc.intro _ ?_
    rintro stage' ⟨free, s, s', hstep⟩
    cases hstep with
    | await _ load' _ _ hload => exact ih load' ⟨free, s, s', hload⟩
    | resume => exact h

/-- A hook comes to an end, however often it looks at the data. -/
private theorem acc_running (h : Hook (Effect σ)) :
    Acc (Follows backend key hook) (.running h) := by
  induction h with
  | answer r =>
    refine Acc.intro _ ?_
    rintro stage' ⟨free, s, s', hstep⟩
    cases hstep
  | consult ask ih =>
    refine Acc.intro _ ?_
    rintro stage' ⟨free, s, s', hstep⟩
    cases hstep with
    | consult =>
      refine acc_consulting (Acc.intro _ ?_) _
      rintro stage' ⟨free, s, s', hstep⟩
      cases hstep with
      | look => exact ih _

theorem wellFounded_follows (backend : Backend σ) (key : ProviderKey) (hook : Hook (Effect σ)) :
    WellFounded (Follows backend key hook) := by
  have hingate : Acc (Follows backend key hook) .inGate := by
    refine Acc.intro _ ?_
    rintro stage' ⟨free, s, s', hstep⟩
    cases hstep with
    | start => exact acc_running hook
  have hgate : Acc (Follows backend key hook) .atGate := by
    refine Acc.intro _ ?_
    rintro stage' ⟨free, s, s', hstep⟩
    cases hstep with
    | acquire => exact hingate
  have hreading : ∀ ask, Acc (Follows backend key hook) (.reading ask) := by
    refine fun ask => Acc.intro _ ?_
    rintro stage' ⟨free, s, s', hstep⟩
    cases hstep with
    | look => exact acc_running _
  refine ⟨fun stage => ?_⟩
  cases stage with
  | inGate => exact hingate
  | atGate => exact hgate
  | running h => exact acc_running h
  | reading ask => exact hreading ask
  | consulting load ask => exact acc_consulting (hreading ask) load
  | arriving =>
    refine Acc.intro _ ?_
    rintro stage' ⟨free, s, s', hstep⟩
    cases hstep with
    | queue => exact hgate

end InitStage

/-! ### Positions -/

namespace Position

/-- One position follows another one in the course of a call. -/
def Follows (backend : Backend σ) (q p : Position σ α) : Prop :=
  ∃ free s s', p.step? backend free s = some (q, s')

variable {next : Procedure σ α}

private theorem acc_finish (r : Except Failure α) :
    Acc (Follows backend) (.before (.finish r) : Position σ α) := by
  refine Acc.intro _ ?_
  rintro q ⟨free, s, s', hstep⟩
  cases transition_of_step? hstep

/-- After a piece of work a call goes on with its procedure, or it ends. -/
private theorem acc_after (h : Acc (Follows backend) (.before next)) (r : Except Failure Unit) :
    Acc (Follows backend) (after next r) := by
  cases r with
  | ok => exact h
  | error e => exact acc_finish _

private theorem acc_loading (h : Acc (Follows backend) (.before next)) (stage : LoadStage) :
    Acc (Follows backend) (.loading stage next) := by
  induction (LoadStage.wellFounded_follows backend).apply stage with
  | intro stage _ ih =>
    refine Acc.intro _ ?_
    rintro q ⟨free, s, s', hstep⟩
    cases transition_of_step? hstep with
    | load _ stage' _ _ hstage => exact ih stage' ⟨free, s, s', hstage⟩
    | loaded => exact acc_after h _

/-- A call gets over the preparation of a provider. -/
private theorem acc_preparing (h : Acc (Follows backend) (.before next)) (key : ProviderKey)
    (hook : Hook (Effect σ)) (stage : InitStage σ) :
    Acc (Follows backend) (.preparing key hook stage next) := by
  induction (InitStage.wellFounded_follows backend key hook).apply stage with
  | intro stage _ ih =>
    refine Acc.intro _ ?_
    rintro q ⟨free, s, s', hstep⟩
    cases transition_of_step? hstep with
    | prepare _ _ _ stage' _ _ hstage => exact ih stage' ⟨free, s, s', hstage⟩
    | prepared => exact acc_after h _

/-- A call ends once its change has been saved, or could not be. -/
private theorem acc_saving (change : Change) (a : α) :
    Acc (Follows backend) (.saving change a) := by
  refine Acc.intro _ ?_
  rintro q ⟨free, s, s', hstep⟩
  cases transition_of_step? hstep <;> exact acc_finish _

/-- A call gets to the end of its procedure. -/
private theorem acc_before (p : Procedure σ α) : Acc (Follows backend) (.before p) := by
  -- a procedure comes to an end since it is finite, whatever it reads
  induction p with
  | finish r => exact acc_finish r
  | load next ih =>
    refine Acc.intro _ ?_
    rintro q ⟨free, s, s', hstep⟩
    cases transition_of_step? hstep with
    | enter => exact acc_loading ih _
  | prepare key hook next ih =>
    refine Acc.intro _ ?_
    rintro q ⟨free, s, s', hstep⟩
    cases transition_of_step? hstep with
    | approach => exact acc_preparing ih key hook _
  | read next ih =>
    refine Acc.intro _ ?_
    rintro q ⟨free, s, s', hstep⟩
    cases transition_of_step? hstep with
    | read => exact ih _
  | write decide =>
    refine Acc.intro _ ?_
    rintro q ⟨free, s, s', hstep⟩
    cases transition_of_step? hstep with
    | answer => exact acc_finish _
    | commit => exact acc_saving _ _

/-- **No call goes on for ever.** -/
theorem wellFounded_follows (backend : Backend σ) :
    WellFounded (Follows backend : Position σ α → Position σ α → Prop) := by
  refine ⟨fun p => ?_⟩
  cases p with
  | before p => exact acc_before p
  | loading stage next => exact acc_loading (acc_before next) stage
  | preparing key hook stage next => exact acc_preparing (acc_before next) key hook stage
  | saving change a => exact acc_saving change a

end Position

/-! ### Whole runs -/

namespace Service

/-- **No run goes on for ever**: each step moves one of finitely many calls. -/
theorem wellFounded_step (backend : Backend σ) :
    WellFounded fun z y : Service σ α => Step backend y z := by
  refine Subrelation.wf ?_ (InvImage.wf (fun y : Service σ α => Multiset.ofList y.calls)
    (Position.wellFounded_follows backend).cutExpand)
  rintro z y ⟨i, hstep⟩
  obtain ⟨p, q, s', hi, hq, rfl⟩ := step?_eq_some hstep
  obtain ⟨hlt, rfl⟩ := List.getElem?_eq_some_iff.1 hi
  refine ⟨{q}, y.calls[i], fun q' hq' => ?_, ?_⟩
  · rw [Multiset.mem_singleton.1 hq']
    exact ⟨_, _, _, hq⟩
  · -- both are the calls with the one that has moved, before and after its step
    have hafter := Multiset.coe_eq_coe.2 (List.set_perm_cons_eraseIdx hlt q)
    have hbefore := Multiset.coe_eq_coe.2 (List.getElem_cons_eraseIdx_perm hlt)
    simp only [hafter, ← hbefore, ← Multiset.cons_coe, ← Multiset.singleton_add]
    rw [Multiset.add_assoc, Multiset.add_comm {q}, Multiset.add_comm _ {y.calls[i]}]

variable {y z w : Service σ α}

/-- A run that begins with a step. -/
theorem Reaches.head (hs : Step backend y z) (h : Reaches backend z w) : Reaches backend y w := by
  induction h with
  | refl => exact .step .refl hs
  | step _ hs' ih => exact .step ih hs'

/-- A run leads to a state that can be reached. -/
theorem reaches_turns (backend : Backend σ) (y : Service σ α) (order : List ℕ) :
    Reaches backend y (y.turns backend order) :=
  turns_keeps (fun _ _ i h hstep => h.step ⟨i, hstep⟩) .refl order

/-- **Every state leads to one in which all calls have finished.** -/
theorem exists_reaches_isFinished (backend : Backend σ) (y : Service σ α) :
    ∃ z, Reaches backend y z ∧ z.isFinished = true := by
  induction (wellFounded_step backend).apply y with
  | intro y _ ih =>
    cases hy : y.isFinished with
    | true => exact ⟨y, .refl, hy⟩
    | false =>
      obtain ⟨i, z, hstep⟩ := exists_step backend hy
      obtain ⟨w, hreaches, hw⟩ := ih z ⟨i, hstep⟩
      exact ⟨w, .head ⟨i, hstep⟩ hreaches, hw⟩

/-- What the order of the locks does for the calls of a service: as long as some have not ended, one
of those can go on, and nobody waits for itself. -/
structure Flowing (backend : Backend σ) (y : Service σ α) : Prop where
  /-- No lock has two holders. -/
  exclusive : y.Exclusive
  /-- As long as some call has not finished, one that has not can take a step. -/
  progress : y.isFinished = false → ∃ i z, y.result? i = none ∧ y.step? backend i = some z
  /-- A call that has not finished and can take no step waits for a lock of another one. -/
  waits : ∀ (i : ℕ) (p : Position σ α), y.calls[i]? = some p → p.result? = none →
    y.step? backend i = none → ∃ (l : Lock) (j : ℕ) (q : Position σ α), p.awaits? = some l ∧
      j ≠ i ∧ y.calls[j]? = some q ∧ q.holds l = true
  /-- Whoever waits for a lock holds none but locks of a higher rank. -/
  ordered : ∀ p ∈ y.calls, ∀ l l', p.awaits? = some l → p.holds l' = true → l.rank < l'.rank
  /-- Nobody waits for a lock that it holds itself. -/
  apart : ∀ p ∈ y.calls, ∀ l, p.awaits? = some l → p.holds l = false
  /-- A call that has finished holds no lock. -/
  released : ∀ p ∈ y.calls, p.result?.isSome = true → ∀ l, p.holds l = false
  /-- The calls can be brought to their end. -/
  completes : ∃ z, Reaches backend y z ∧ z.isFinished = true

/-- **Calls never block each other for good**, whatever their procedures are. -/
theorem flowing_of_reaches {s : Shared σ} {procedures : List (Procedure σ α)}
    (h : Reaches backend (start s procedures) y) : y.Flowing backend where
  exclusive := by
    induction h with
    | refl => exact exclusive_start s procedures
    | step _ hs ih =>
      obtain ⟨i, hstep⟩ := hs
      exact ih.step hstep
  progress := fun hunfinished => by
    obtain ⟨i, z, hstep⟩ := exists_step backend hunfinished
    exact ⟨i, z, result?_of_step? hstep, hstep⟩
  waits := fun _ _ => exists_holder_of_step?_eq_none
  ordered := fun _ _ _ _ => Position.rank_lt_of_awaits
  apart := fun _ _ _ => Position.holds_of_awaits
  released := fun _ _ => Position.holds_of_result?
  completes := exists_reaches_isFinished backend y

end Service

end SignIn
