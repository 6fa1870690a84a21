import Mathlib.Data.List.Induction
import SignIn.Proofs.Service.Attempts
import SignIn.Proofs.Service.Runs

/-!
# The attempts of a run

`Service.attempts` lists the attempts of a run to prepare a provider, in the order in which they are
made, with the calls that make them. `Service.Attempted` is the invariant of a run: hook calls that
have failed, one after another, each of which has ended its call with its own failure; then none, or
one that is at work, or one that has succeeded, as the readiness of the provider says.
-/

namespace SignIn

variable {σ α : Type} {backend : Backend σ}

/-- Attempts, in the order in which they are made, with the calls that make them. -/
abbrev Attempts := List (ℕ × Attempt)

namespace Attempts

/-- Hook calls that have failed, one after another, with the calls that have made them. -/
def failures (failed : List (ℕ × Failure)) : Attempts :=
  failed.flatMap fun x => [(x.1, .begins), (x.1, .ends (.error x.2))]

/-- One more entry, if there is one. -/
def entry (i : ℕ) (attempt? : Option Attempt) : Attempts := (attempt?.map fun a => (i, a)).toList

theorem failures_concat (failed : List (ℕ × Failure)) (i : ℕ) (e : Failure) :
    failures (failed ++ [(i, e)]) = failures failed ++ [(i, .begins), (i, .ends (.error e))] := by
  simp [failures]

/-- What has been done in hook calls that have failed. -/
private theorem mem_failures {failed : List (ℕ × Failure)} {i : ℕ} {a : Attempt}
    (h : (i, a) ∈ failures failed) : a = .begins ∨ ∃ e, a = .ends (.error e) := by
  obtain ⟨x, -, hx⟩ := List.mem_flatMap.1 h
  rcases List.mem_cons.1 hx with hx | hx
  · exact Or.inl (Prod.mk.inj hx).2
  · exact Or.inr ⟨x.2, (Prod.mk.inj (List.mem_singleton.1 hx)).2⟩

theorem success_notMem_failures (failed : List (ℕ × Failure)) (i : ℕ) :
    (i, .ends (.ok ())) ∉ failures failed := by
  intro h
  rcases mem_failures h with h | ⟨e, h⟩ <;> cases h

/-- Hook calls that have failed have all ended. -/
theorem countP_failures (failed : List (ℕ × Failure)) :
    (failures failed).countP (fun x => x.2.isEnd) = failed.length ∧
      (failures failed).countP (fun x => x.2.isFailure) = failed.length := by
  induction failed using List.reverseRecOn with
  | nil => exact ⟨rfl, rfl⟩
  | append_singleton failed x ih =>
    obtain ⟨hend, hfailure⟩ := ih
    rw [failures_concat, List.countP_append, List.countP_append, hend, hfailure,
      List.length_append]
    exact ⟨rfl, rfl⟩

end Attempts

namespace Service

/-- What a call does with the hook of a provider in its next turn. -/
def attempt? (backend : Backend σ) (key : ProviderKey) (y : Service σ α) (i : ℕ) : Option Attempt :=
  y.calls[i]?.bind fun p => p.attempt? backend y.free y.shared key

/-- What is done with the hook of a provider in the course of a run. -/
def attempts (backend : Backend σ) (key : ProviderKey) (y : Service σ α) : List ℕ → Attempts
  | [] => []
  | i :: order =>
    .entry i (y.attempt? backend key i) ++ attempts backend key (y.turn backend i) order

/-- Whether a call of the service is at work with the hook of a provider. -/
def IsCalling (key : ProviderKey) (y : Service σ α) (i : ℕ) : Prop :=
  ∃ p, y.calls[i]? = some p ∧ p.isCalling key = true

variable {key : ProviderKey} {y z : Service σ α}

/-- The attempts after the last turn of a run. -/
private theorem attempts_concat (y : Service σ α) (order : List ℕ) (i : ℕ) :
    y.attempts backend key (order ++ [i]) = y.attempts backend key order
      ++ .entry i ((y.turns backend order).attempt? backend key i) := by
  induction order generalizing y with
  | nil => simp [attempts]
  | cons k order ih => rw [List.cons_append, attempts, ih, attempts, turns_cons, List.append_assoc]

/-- What a call does with the hook in its next turn depends on its position. -/
theorem attempt?_eq {i : ℕ} {p : Position σ α} (h : y.calls[i]? = some p) :
    y.attempt? backend key i = p.attempt? backend y.free y.shared key := by
  rw [attempt?, h, Option.bind_some]

/-- Where no step is taken, no attempt is made. -/
private theorem attempt?_of_step?_eq_none {i : ℕ} (h : y.step? backend i = none) :
    y.attempt? backend key i = none := by
  rw [attempt?]
  cases hp : y.calls[i]? with
  | none => rfl
  | some p =>
    rw [Option.bind_some]
    cases p with
    | before | loading | saving => rfl
    | preparing key' hook stage next =>
      rw [Position.attempt?]
      split
      · cases hstage : stage.step? backend key' hook y.free y.shared with
        | none => rfl
        | some x =>
          -- a preparation that goes on is a step of the service
          obtain ⟨x, t⟩ := x
          cases x <;> simp [step?, hp, Position.step?, hstage] at h
      · rfl

/-- **What every step keeps of the state and the attempts up to it, every run keeps.** -/
theorem attempts_keeps {P : Service σ α → Attempts → Prop}
    (hstep : ∀ y z i log, P y log → y.step? backend i = some z →
      P z (log ++ .entry i (y.attempt? backend key i)))
    (hy : P y []) (order : List ℕ) :
    P (y.turns backend order) (y.attempts backend key order) := by
  induction order using List.reverseRecOn with
  | nil => exact hy
  | append_singleton order i ih =>
    rw [turns_concat, attempts_concat, turn]
    cases h : (y.turns backend order).step? backend i with
    | none =>
      rw [attempt?_of_step?_eq_none h, Attempts.entry, Option.map_none, Option.toList_none,
        List.append_nil]
      exact ih
    | some z => exact hstep _ z i _ ih h

/-! ### The invariant -/

/-- What the attempts say about a provider, after the hook calls that have failed. -/
inductive Attempting (key : ProviderKey) (y : Service σ α) : Attempts → Prop
  /-- The provider is still to be prepared, and nobody is at work with its hook. -/
  | idle (hr : y.shared.readiness key = .uninitialized) (hc : ∀ i, ¬ y.IsCalling key i) :
      Attempting key y []
  /-- A call is at work with the hook. -/
  | calling (i : ℕ) (hr : y.shared.readiness key = .initializing) (hc : y.IsCalling key i) :
      Attempting key y [(i, .begins)]
  /-- The provider is ready, and nobody is at work with its hook. -/
  | ready (i : ℕ) (hr : y.shared.readiness key = .ready) (hc : ∀ i, ¬ y.IsCalling key i) :
      Attempting key y [(i, .begins), (i, .ends (.ok ()))]

/-- How far a provider has been prepared at a moment of a run, and the attempts so far. The log
determines the readiness, and which call is at work with the hook. -/
structure Attempted (key : ProviderKey) (y : Service σ α) (log : Attempts) : Prop where
  exclusive : y.Exclusive
  told : ∃ failed now, log = .failures failed ++ now ∧ y.Attempting key now
  /-- Where the hook has failed, the call has ended with its failure. -/
  failed : ∀ i e, (i, .ends (.error e)) ∈ log → y.result? i = some (.error e)

/-- At the beginning of a run no attempt has been made. -/
theorem attempted_start {s : Shared σ} {procedures : List (Procedure σ α)}
    (h : s.readiness key = .uninitialized) : (start s procedures).Attempted key [] where
  exclusive := exclusive_start s procedures
  told := by
    refine ⟨[], [], rfl, .idle h fun i hcalling => ?_⟩
    obtain ⟨p, hp, hc⟩ := hcalling
    obtain ⟨procedure, -, rfl⟩ := List.mem_map.1 (List.mem_of_getElem? hp)
    cases hc
  failed i e h := by cases h

/-- At most one call is at work with the hook of a provider. -/
theorem Exclusive.eq_of_isCalling (hy : y.Exclusive) {i j : ℕ} (hi : y.IsCalling key i)
    (hj : y.IsCalling key j) : i = j := by
  obtain ⟨p, hp, hpc⟩ := hi
  obtain ⟨q, hq, hqc⟩ := hj
  exact hy hp hq (Position.holds_of_isCalling hpc) (Position.holds_of_isCalling hqc)

variable {s' : Shared σ} {k : ℕ} {p q : Position σ α} {now : Attempts} {attempt? : Option Attempt}

/-- Who is at work with the hook after a step. -/
theorem isCalling_set_iff (hk : y.calls[k]? = some p) {i : ℕ} :
    IsCalling key ⟨s', y.calls.set k q⟩ i ↔
      if i = k then q.isCalling key = true else y.IsCalling key i := by
  obtain ⟨hlt, -⟩ := List.getElem?_eq_some_iff.1 hk
  split
  · rename_i hik
    subst hik
    simp [IsCalling, List.getElem?_set_self hlt]
  · rename_i hik
    simp [IsCalling, List.getElem?_set_ne (Ne.symm hik)]

/-- Nobody is at work with the hook once whoever has been is not any more. -/
private theorem Exclusive.not_isCalling_set (hy : y.Exclusive) (hk : y.calls[k]? = some p)
    (hp : p.isCalling key = true) (hq : q.isCalling key = false) (i : ℕ) :
    ¬ IsCalling key ⟨s', y.calls.set k q⟩ i := by
  intro hi
  rw [isCalling_set_iff hk] at hi
  split at hi
  · exact absurd hi (ne_true_of_eq_false hq)
  · rename_i hik
    exact hik (hy.eq_of_isCalling hi ⟨p, hk, hp⟩)

/-- **A step makes of the attempts what it does to the preparation.** -/
private theorem Attempting.step (h : y.Attempting key now) (hy : y.Exclusive)
    (hk : y.calls[k]? = some p) (htends : Position.Tends key y.shared p q s' attempt?) :
    ∃ failed now', now ++ .entry k attempt? = .failures failed ++ now' ∧
      Attempting key ⟨s', y.calls.set k q⟩ now' := by
  have hpk : y.IsCalling key k ↔ p.isCalling key = true := by simp [IsCalling, hk]
  cases htends with
  | aside hc hr =>
    have hsame : ∀ i, IsCalling key ⟨s', y.calls.set k q⟩ i ↔ y.IsCalling key i := by
      intro i
      rw [isCalling_set_iff hk]
      split
      · rename_i hik
        rw [hik, hc, hpk]
      · rfl
    refine ⟨[], now, by simp [Attempts.entry, Attempts.failures], ?_⟩
    cases h with
    | idle hr' hc' => exact .idle (hr.trans hr') fun i hi => hc' i ((hsame i).1 hi)
    | calling i hr' hc' => exact .calling i (hr.trans hr') ((hsame i).2 hc')
    | ready i hr' hc' => exact .ready i (hr.trans hr') fun i hi => hc' i ((hsame i).1 hi)
  | begins hp hc hc' hr hr' =>
    cases h with
    | ready _ hready => exact absurd hready hr
    | idle =>
      refine ⟨[], [(k, .begins)], rfl, .calling k hr' ?_⟩
      rw [isCalling_set_iff hk, if_pos rfl]
      exact hc'
    | calling i _ hi =>
      -- whoever is at work keeps the others from the gate
      obtain ⟨p', hp', hcalling⟩ := hi
      obtain rfl : i = k := hy hp' hk (Position.holds_of_isCalling hcalling) hp
      obtain rfl := Option.some.inj (hk.symm.trans hp')
      exact absurd hcalling (ne_true_of_eq_false hc)
  | succeeds hp hc hr =>
    cases h with
    | idle _ hnone | ready _ _ hnone => exact absurd (hpk.2 hp) (hnone k)
    | calling i _ hi =>
      obtain rfl := hy.eq_of_isCalling hi (hpk.2 hp)
      exact ⟨[], _, rfl, .ready i hr (hy.not_isCalling_set hk hp hc)⟩
  | fails e hp hq hr =>
    cases h with
    | idle _ hnone | ready _ _ hnone => exact absurd (hpk.2 hp) (hnone k)
    | calling i _ hi =>
      obtain rfl := hy.eq_of_isCalling hi (hpk.2 hp)
      exact ⟨[(i, e)], [], rfl, .idle hr (hy.not_isCalling_set hk hp (hq ▸ rfl))⟩

/-- **A step of the service keeps the invariant.** -/
theorem Attempted.step {log : Attempts} (h : y.Attempted key log)
    (hstep : y.step? backend k = some z) :
    z.Attempted key (log ++ .entry k (y.attempt? backend key k)) := by
  obtain ⟨p, q, s', hk, hp, rfl⟩ := step?_eq_some hstep
  have htends : Position.Tends key y.shared p q s' _ := Position.tends_of_step? hp
  rw [attempt?_eq hk]
  refine ⟨h.exclusive.step hstep, ?_, fun i e hmem => ?_⟩
  · -- failures of this step go to the end of those before
    obtain ⟨failed, now, rfl, hnow⟩ := h.told
    obtain ⟨failed', now', heq, hnow'⟩ := hnow.step h.exclusive hk htends
    refine ⟨failed ++ failed', now', ?_, hnow'⟩
    rw [List.append_assoc, heq, Attempts.failures, Attempts.failures, Attempts.failures,
      List.flatMap_append, List.append_assoc]
  · rcases List.mem_append.1 hmem with hmem | hmem
    · -- a call that has ended takes no step
      have hold := h.failed i e hmem
      have hik : i ≠ k := by
        rintro rfl
        rw [result?_of_step? hstep] at hold
        cases hold
      rw [result?_set_of_ne rfl hik, hold]
    · generalize p.attempt? backend y.free y.shared key = attempt? at htends hmem
      cases htends with
      | aside => cases hmem
      | begins | succeeds => cases List.mem_singleton.1 hmem
      | fails e' _ hq =>
        cases List.mem_singleton.1 hmem
        rw [result?_set_self hk rfl, hq]
        rfl

/-- **The attempts of a run**, with a provider that has not been prepared before. -/
theorem attempted_turns {s : Shared σ} {procedures : List (Procedure σ α)}
    (h : s.readiness key = .uninitialized) (order : List ℕ) :
    ((start s procedures).turns backend order).Attempted key
      ((start s procedures).attempts backend key order) :=
  attempts_keeps (fun _ _ _ _ hy hstep => hy.step hstep) (attempted_start h) order

end Service

end SignIn
