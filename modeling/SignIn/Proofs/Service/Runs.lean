import SignIn.Proofs.Service.Settled

/-!
# Runs of a service

A run is given by the list of calls in the order in which they take their turns; a call that has
finished, or waits for a lock, lets its turn pass. So every list is a run, and `Service.turns`
says where it leads.

What a run shows to its callers are the results (`Service.result?`) and the order of calls that
do not overlap (`Service.Precedes`). `Service.seen` is what a call has looked at on its way.
-/

namespace SignIn

variable {σ α : Type} {backend : Backend σ}

namespace Service

/-- The service after a turn of one call. -/
def turn (backend : Backend σ) (y : Service σ α) (i : ℕ) : Service σ α :=
  (y.step? backend i).getD y

@[simp] theorem turns_nil (y : Service σ α) : y.turns backend [] = y := rfl

theorem turns_cons (y : Service σ α) (i : ℕ) (order : List ℕ) :
    y.turns backend (i :: order) = (y.turn backend i).turns backend order := rfl

theorem turns_concat (y : Service σ α) (order : List ℕ) (i : ℕ) :
    y.turns backend (order ++ [i]) = (y.turns backend order).turn backend i := by
  simp [turns, turn]

/-- **What every step keeps, every run keeps.** -/
theorem turns_keeps {P : Service σ α → Prop}
    (hstep : ∀ y z i, P y → y.step? backend i = some z → P z) {y : Service σ α} (hy : P y)
    (order : List ℕ) : P (y.turns backend order) := by
  induction order generalizing y with
  | nil => exact hy
  | cons i order ih =>
    rw [turns_cons]
    refine ih ?_
    rw [turn]
    cases h : y.step? backend i with
    | none => exact hy
    | some z => exact hstep y z i hy h

theorem Orderly.turns {y : Service σ α} (hy : y.Orderly) (order : List ℕ) :
    (y.turns backend order).Orderly :=
  turns_keeps (fun _ _ _ hy h => hy.step h) hy order

/-- **In a run a call obeys its rule to the end**, whatever other calls do in between. -/
theorem obeys_turns {rule : Rule σ α} {s : Shared σ} {procedures : List (Procedure σ α)} {k : ℕ}
    (hk : ∀ procedure, procedures[k]? = some procedure → procedure.Obeys rule) (order : List ℕ)
    {p : Position σ α} (hp : ((start s procedures).turns backend order).calls[k]? = some p) :
    p.Obeys rule :=
  turns_keeps (P := fun y => ∀ p, y.calls[k]? = some p → p.Obeys rule)
    (fun _ _ _ hy h _ => obeys_of_step hy h) (fun _ => obeys_start hk) order p hp

/-! ### Results -/

/-- How a call has ended, if it has. -/
def result? (y : Service σ α) (i : ℕ) : Option (Except Failure α) :=
  y.calls[i]?.bind Position.result?

/-- So all that calls can answer with in a run is what they may answer with. -/
theorem answers_turns {rule : Rule σ α} {s : Shared σ} {procedures : List (Procedure σ α)}
    {order : List ℕ} {k : ℕ} {p : Procedure σ α} {a : α} (hk : procedures[k]? = some p)
    (hp : p.Obeys rule)
    (h : ((start s procedures).turns backend order).result? k = some (.ok a)) :
    rule.answers a := by
  obtain ⟨q, hq, hresult⟩ := Option.bind_eq_some_iff.1 h
  have hobeys : q.Obeys rule := by
    refine obeys_turns (fun p' hp' => ?_) order hq
    obtain rfl := Option.some.inj (hk.symm.trans hp')
    exact hp
  exact hobeys.answers hresult

private theorem step?_of_result? {y : Service σ α} {i : ℕ} (h : (y.result? i).isSome = true) :
    y.step? backend i = none := by
  rw [result?] at h
  cases hp : y.calls[i]? with
  | none => simp [step?, hp]
  | some p =>
    rw [hp] at h
    cases p with
    | loading | preparing | saving => cases h
    | before p =>
      cases p with
      | load | prepare | read | write => cases h
      | finish r => simp [step?, hp, Position.step?]

/-- A call that takes a step has not ended. -/
theorem result?_of_step? {y z : Service σ α} {i : ℕ} (h : y.step? backend i = some z) :
    y.result? i = none := by
  rw [← Option.not_isSome_iff_eq_none]
  intro hr
  rw [step?_of_result? hr] at h
  cases h

/-- A step of a call does not concern the results of others. -/
theorem result?_set_of_ne {y z : Service σ α} {i j : ℕ} {q : Position σ α}
    (hz : z.calls = y.calls.set i q) (hij : j ≠ i) : z.result? j = y.result? j := by
  rw [result?, hz, List.getElem?_set_ne (Ne.symm hij), result?]

/-- The result of the call that has taken a step. -/
theorem result?_set_self {y z : Service σ α} {i : ℕ} {p q : Position σ α}
    (hi : y.calls[i]? = some p) (hz : z.calls = y.calls.set i q) :
    z.result? i = q.result? := by
  obtain ⟨hlt, -⟩ := List.getElem?_eq_some_iff.1 hi
  rw [result?, hz, List.getElem?_set_self hlt, Option.bind_some]

private theorem result?_turn {y : Service σ α} {i k : ℕ} (h : (y.result? i).isSome = true) :
    (y.turn backend k).result? i = y.result? i := by
  rw [turn]
  cases hstep : y.step? backend k with
  | none => rfl
  | some z =>
    obtain ⟨p, q, s', -, -, rfl⟩ := step?_eq_some hstep
    refine result?_set_of_ne rfl ?_
    rintro rfl
    rw [result?_of_step? hstep] at h
    cases h

/-- A result stays to the end of a run. -/
private theorem isSome_result?_turns {y : Service σ α} {i : ℕ} (h : (y.result? i).isSome = true)
    (order : List ℕ) : ((y.turns backend order).result? i).isSome = true :=
  turns_keeps (P := fun y => (y.result? i).isSome = true)
    (fun y z k hy hstep => by
      have hturn : y.turn backend k = z := by rw [turn, hstep, Option.getD_some]
      rw [← hturn, result?_turn hy]
      exact hy) h order

/-- A call that never takes a turn stays where it is. -/
theorem getElem?_calls_turns {y : Service σ α} {i : ℕ} {order : List ℕ} (h : i ∉ order) :
    (y.turns backend order).calls[i]? = y.calls[i]? := by
  induction order generalizing y with
  | nil => rfl
  | cons k order ih =>
    rw [List.mem_cons, not_or] at h
    obtain ⟨hne, hmem⟩ := h
    rw [turns_cons, ih hmem, turn]
    cases hstep : y.step? backend k with
    | none => rfl
    | some z =>
      obtain ⟨p, q, s', -, -, rfl⟩ := step?_eq_some hstep
      exact List.getElem?_set_ne (Ne.symm hne)

/-- A run neither adds calls nor takes any away. -/
theorem length_calls_turns (y : Service σ α) (order : List ℕ) :
    (y.turns backend order).calls.length = y.calls.length :=
  turns_keeps (P := fun z => z.calls.length = y.calls.length)
    (fun z w i hz h => by
      obtain ⟨p, q, s', -, -, rfl⟩ := step?_eq_some h
      rw [List.length_set, hz]) rfl order

/-- When all calls have finished, each of them has. -/
theorem isSome_result?_of_isFinished {y : Service σ α} (h : y.isFinished = true) {i : ℕ}
    (hi : i < y.calls.length) : (y.result? i).isSome = true := by
  rw [result?, List.getElem?_eq_getElem hi, Option.bind_some]
  exact List.all_eq_true.1 h _ (List.getElem_mem hi)

/-! ### The order of calls that do not overlap -/

/-- In a run, a call has finished before another one takes its first turn. This is the order that a
caller can notice who makes one call after the other; calls that overlap have none. -/
def Precedes (backend : Backend σ) (y : Service σ α) (order : List ℕ) (i j : ℕ) : Prop :=
  ∃ before after, order = before ++ after ∧
    ((y.turns backend before).result? i).isSome = true ∧ j ∉ before

/-- What precedes in a run up to its last turn: it did so before, or it has finished by now, and
the other call has not had a turn yet. -/
theorem Precedes.concat {y : Service σ α} {order : List ℕ} {k i j : ℕ}
    (h : Precedes backend y (order ++ [k]) i j) :
    Precedes backend y order i j ∨ j ∉ order ++ [k] := by
  obtain ⟨before, after, heq, hi, hj⟩ := h
  rcases List.eq_nil_or_concat after with rfl | ⟨after, l, rfl⟩
  · rw [List.append_nil] at heq
    rw [heq]
    exact Or.inr hj
  · rw [List.concat_eq_append, ← List.append_assoc] at heq
    obtain ⟨heq, -⟩ := List.append_inj' heq rfl
    exact Or.inl ⟨before, after, heq, hi, hj⟩

theorem Precedes.isSome_result? {y : Service σ α} {order : List ℕ} {i j : ℕ}
    (h : Precedes backend y order i j) :
    ((y.turns backend order).result? i).isSome = true := by
  obtain ⟨before, after, rfl, hi, -⟩ := h
  rw [turns, List.foldl_append]
  exact isSome_result?_turns hi after

end Service

/-! ### What a call has looked at -/

/-- What a call looks at in its next step: the data, where it is about to go on with them as they
are. -/
def Position.glimpse (s : Shared σ) : Position σ α → List Directory
  | .before (.read _) => [s.directory]
  | _ => []

namespace Position

variable {s : Shared σ}

@[simp] theorem glimpse_read (next : Directory → Procedure σ α) :
    (Position.before (.read next)).glimpse s = [s.directory] := rfl

@[simp] theorem glimpse_load (next : Procedure σ α) :
    (Position.before (.load next)).glimpse s = [] := rfl

@[simp] theorem glimpse_write (decide : Directory → Decision α) :
    (Position.before (.write decide)).glimpse s = [] := rfl

@[simp] theorem glimpse_loading (stage : LoadStage) (next : Procedure σ α) :
    (Position.loading stage next).glimpse s = [] := rfl

@[simp] theorem glimpse_saving (change : Change) (a : α) :
    (Position.saving change a : Position σ α).glimpse s = [] := rfl

end Position

namespace Service

/-- What a call looks at in its next turn. -/
def glimpse (y : Service σ α) (i : ℕ) : List Directory :=
  match y.calls[i]? with
  | none => []
  | some p => if y.free .data then p.glimpse y.shared else []

/-- What a call looks at in the course of a run. -/
def seen (backend : Backend σ) (y : Service σ α) : List ℕ → ℕ → List Directory
  | [], _ => []
  | k :: order, i =>
    (if k = i then y.glimpse k else []) ++ seen backend (y.turn backend k) order i

/-- What a call has looked at after the last turn of a run. -/
theorem seen_concat (y : Service σ α) (order : List ℕ) (k i : ℕ) :
    y.seen backend (order ++ [k]) i
      = y.seen backend order i ++ if k = i then (y.turns backend order).glimpse k else [] := by
  induction order generalizing y with
  | nil => simp [seen]
  | cons l order ih =>
    rw [List.cons_append, seen, ih, seen, turns_cons, List.append_assoc]

/-- A call that takes no step looks at nothing. -/
theorem glimpse_of_step?_eq_none {y : Service σ α} {i : ℕ} (h : y.step? backend i = none) :
    y.glimpse i = [] := by
  rw [glimpse]
  cases hp : y.calls[i]? with
  | none => rfl
  | some p =>
    cases hf : y.free .data with
    | false => rfl
    | true =>
      cases p with
      | loading | preparing | saving => rfl
      | before p =>
        cases p with
        | finish | load | prepare | write => rfl
        | read next => simp [step?, hp, Position.step?, hf] at h

/-- What a call looks at in a step is settled. -/
theorem Settled.glimpse_eq {y z : Service σ α} {v : Shared σ} {i : ℕ} {p : Position σ α}
    (hy : y.Orderly) (hv : y.Settled v) (hi : y.calls[i]? = some p)
    (h : y.step? backend i = some z) : y.glimpse i = p.glimpse v := by
  cases p with
  | loading | preparing | saving => simp [glimpse, hi, Position.glimpse]
  | before p =>
    cases p with
    | finish | load | prepare | write => simp [glimpse, hi, Position.glimpse]
    | read next =>
      have hf : y.free .data = true := by
        cases hf : y.free .data with
        | true => rfl
        | false => simp [step?, hi, Position.step?, hf] at h
      have hl := hy.loaded_of_mem (List.mem_of_getElem? hi) rfl
      obtain rfl := hv.eq_of_level fun _ hp => hy.isPending_eq_false hl hf hp
      simp [glimpse, hi, Position.glimpse, hf]

end Service

end SignIn
