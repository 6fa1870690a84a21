import SignIn.Proofs.Service.Serial
import SignIn.Proofs.Store.Calls

/-!
# Calls of the store that overlap

Calls of the store that are under way together come out as if they had been made one after
another: `Store.exists_serial_outcomes`. What a call comes out with is an `Outcome`, the result
together with the credentials that the call was handed; `Store.serve` makes calls one after
another.

Both ways begin with the same state, and with it the same world. So the backend answers each load
and each save as it does in the other, in whatever pattern it fails, and what has been saved in the
end is the same as well. Ids, instants and what providers have looked at are those of the calls.
-/

namespace SignIn.Store

variable {σ : Type}

/-- What a call comes out with. -/
structure Outcome where
  result : Except Failure Reply
  /-- The credentials that were handed to the call, as they are afterwards. -/
  credentials : Option Credentials

/-- What a call comes out with when it has a result. -/
def Call.outcome (c : Call σ) (r : Except Failure Reply) : Outcome := ⟨r, c.credentialsAfter r⟩

/-- Makes calls one after another: what they come out with, and the state afterwards. -/
def serve (backend : Backend σ) (s : Shared σ) : List (Call σ) → List Outcome × Shared σ
  | [] => ([], s)
  | c :: cs =>
    let (r, s) := c.procedure.run backend s
    let (os, s) := serve backend s cs
    (c.outcome r :: os, s)

/-- What a call has come out with, if it has ended. -/
def outcome? (calls : List (Call σ)) (y : Service σ Reply) (i : ℕ) : Option Outcome :=
  match calls[i]?, y.result? i with
  | some c, some r => some (c.outcome r)
  | _, _ => none

/-- A call of a run, with a provider that answers as it did in the run. -/
def answered? (backend : Backend σ) (s : Shared σ) (calls : List (Call σ)) (order : List ℕ)
    (i : ℕ) : Option (Call σ) :=
  calls[i]?.map fun c => c.replaying ((opening s calls).seen backend order i)

variable {backend : Backend σ}

/-- Calls that are made one after another are procedures that are carried out so. -/
private theorem serve_eq {s t : Shared σ} {cs : List (Call σ)} {rs : List (Except Failure Reply)}
    (h : Procedure.runAll backend s (cs.map Call.procedure) = (rs, t)) :
    serve backend s cs = (List.zipWith Call.outcome cs rs, t) := by
  induction cs generalizing s rs with
  | nil =>
    cases h
    rfl
  | cons c cs ih =>
    rcases hrun : c.procedure.run backend s with ⟨r, s'⟩
    rcases hrest : Procedure.runAll backend s' (cs.map Call.procedure) with ⟨rs', t'⟩
    simp only [List.map_cons, Procedure.runAll, hrun, hrest, Prod.mk.injEq] at h
    obtain ⟨rfl, rfl⟩ := h
    simp [serve, hrun, ih hrest]

/-- Calls are procedures that load the data and go on with a body. -/
theorem opening_eq (s : Shared σ) (calls : List (Call σ)) :
    opening s calls = .begun s (calls.map Call.body) := by
  rw [opening, Service.begun, List.map_map]
  congr 2
  funext c
  exact c.procedure_eq

/-- What the calls of a run do when their providers answer as they did. -/
private theorem map_procedure_answered (s : Shared σ) (calls : List (Call σ))
    (order done : List ℕ) : (done.filterMap (answered? backend s calls order)).map Call.procedure
      = Service.replayed backend s (calls.map Call.body) order done := by
  rw [Service.replayed, List.map_filterMap]
  congr 1
  funext i
  rw [answered?, List.getElem?_map, opening_eq]
  cases calls[i]? with
  | none => rfl
  | some c => exact congrArg some (c.procedure_replaying _)

private theorem map_outcome? {s : Shared σ} {calls : List (Call σ)} {order done : List ℕ}
    {y : Service σ Reply} {rs : List (Except Failure Reply)}
    (hdone : ∀ i ∈ done, i < calls.length) (h : done.map y.result? = rs.map some) :
    done.map (outcome? calls y)
      = (List.zipWith Call.outcome (done.filterMap (answered? backend s calls order)) rs).map
          some := by
  induction done generalizing rs with
  | nil => rfl
  | cons i done ih =>
    have hi : i < calls.length := hdone i (List.mem_cons_self ..)
    obtain ⟨c, hc⟩ : ∃ c, calls[i]? = some c := ⟨calls[i], List.getElem?_eq_getElem hi⟩
    have hanswered : answered? backend s calls order i
        = some (c.replaying ((opening s calls).seen backend order i)) := by
      rw [answered?, hc, Option.map_some]
    cases rs with
    | nil => cases h
    | cons r rs =>
      rw [List.map_cons, List.map_cons, List.cons.injEq] at h
      have hrest := ih (fun j hj => hdone j (List.mem_cons_of_mem i hj)) h.2
      rw [List.map_cons, hrest, List.filterMap_cons_some hanswered]
      simp [outcome?, hc, h.1, Call.outcome, Call.credentialsAfter_replaying]

/-- **Calls that overlap have a serial order.** However the steps of some calls have followed each
other until all calls have finished, and whichever loads, saves and providers have failed: made one
after another in some order, the calls come out with the same outcomes and lead to the same state.
A call that had finished before another one began comes before it. -/
theorem exists_serial_outcomes (backend : Backend σ) (s : Shared σ) (calls : List (Call σ))
    (order : List ℕ)
    (hfinished : ((opening s calls).turns backend order).isFinished = true) :
    ∃ (serial : List ℕ) (outcomes : List Outcome),
      serial.Perm (List.range calls.length) ∧
      (serial.Pairwise fun i j => ¬ Service.Precedes backend (opening s calls) order j i) ∧
      serve backend s (serial.filterMap (answered? backend s calls order))
        = (outcomes, ((opening s calls).turns backend order).shared) ∧
      serial.map (outcome? calls ((opening s calls).turns backend order))
        = outcomes.map some := by
  have hbodies : ∀ q ∈ calls.map Call.body, q.IsGuided := by
    intro q hq
    obtain ⟨c, -, rfl⟩ := List.mem_map.1 hq
    exact c.isGuided_body
  rw [opening_eq] at hfinished
  obtain ⟨serial, results, hperm, hpairwise, hruns, hresults⟩ :=
    Service.exists_serial_order hbodies hfinished
  rw [List.length_map] at hperm
  rw [← opening_eq] at hpairwise hruns hresults
  rw [← map_procedure_answered] at hruns
  refine ⟨serial, _, hperm, hpairwise, serve_eq hruns, map_outcome? (fun i hi => ?_) hresults⟩
  exact List.mem_range.1 (hperm.mem_iff.1 hi)

theorem exists_serial_outcomes_rush :
    ((opening flaky rush).turns scripted rushTurns).isFinished = true ∧
      ∃ (serial : List ℕ) (outcomes : List Outcome), serial.Perm (List.range 3) ∧
        (serial.Pairwise fun i j =>
          ¬ Service.Precedes scripted (opening flaky rush) rushTurns j i) ∧
        serve scripted flaky (serial.filterMap (answered? scripted flaky rush rushTurns))
          = (outcomes, ((opening flaky rush).turns scripted rushTurns).shared) ∧
        serial.map (outcome? rush ((opening flaky rush).turns scripted rushTurns))
          = outcomes.map some :=
  have hfinished : ((opening flaky rush).turns scripted rushTurns).isFinished = true := by
    decide +kernel
  ⟨hfinished, exists_serial_outcomes scripted flaky rush rushTurns hfinished⟩

end SignIn.Store
