import SignIn.Proofs.Service.Serial
import SignIn.Proofs.Service.Upheld

/-!
# Turns with which calls end

A turn of a run ends a call (`Service.Ends`), or it ends none. Told about the settled state, a turn
that ends none does nothing more than load the data, and one that ends a call does what the call
does when it is made at this moment and alone (`Service.Along.turn`). With the data loaded, such a
call leaves them as they are, or it succeeds and makes one change (`Procedure.Obeys.run_of_loaded`).

What calls uphold, they uphold of the settled state as well (`Service.Tracks.upheld`).
-/

namespace SignIn

variable {σ α : Type} {backend : Backend σ}

namespace Procedure

/-- **With the data loaded, a call leaves them as they are**, or it succeeds and makes a change that
it can decide on. -/
theorem Obeys.run_of_loaded {R : Directory → Change → Prop}
    (hfits : ∀ d change, R d change → change.Fits d) {p : Procedure σ α} (hp : p.Obeys .plain)
    (h : p.Obeys (.commits R)) {s t : Shared σ} {r : Except Failure α} (hl : s.loaded = true)
    (hrun : p.run backend s = (r, t)) : t.loaded = true ∧
      (t.directory = s.directory ∨ ∃ change a, r = .ok a ∧ R s.directory change ∧
        t.directory = change.apply s.directory) := by
  induction p with
  | finish =>
    cases hrun
    exact ⟨hl, Or.inl rfl⟩
  | load next ih =>
    rw [run_load_of_loaded hl] at hrun
    exact ih hp h hrun
  | prepare => exact hp.1.elim
  | read next ih => exact ih s.directory (hp s.directory) (h s.directory) hrun
  | write decide =>
    simp only [Procedure.run] at hrun
    cases hd : decide s.directory with
    | answer =>
      rw [hd] at hrun
      cases hrun
      exact ⟨hl, Or.inl rfl⟩
    | commit change a =>
      have hR := Decision.obeys_commits.1 (h s.directory) change a hd
      simp only [hd, Shared.settle, Shared.save] at hrun
      split at hrun <;> cases hrun
      · exact ⟨hl, Or.inr ⟨change, a, rfl, hR, rfl⟩⟩
      · -- the change could not be saved, and taking it back is exact since it fits
        exact ⟨hl, Or.inl (Change.undo_apply (hfits _ _ hR))⟩

/-- A call with some looks known obeys what it obeys. -/
theorem Obeys.replay {rule : Rule σ α} {q : Procedure σ α} (h : q.Obeys rule)
    (ds : List Directory) : (q.replay ds).Obeys rule := by
  induction ds generalizing q with
  | nil => rwa [replay_nil]
  | cons d ds ih =>
    cases q with
    | finish | prepare | read | write => exact h
    | load q =>
      cases q with
      | read next => exact ih (h d)
      | finish | load | prepare | write => exact h

end Procedure

namespace Service

/-- A call of a run ends with its next turn. -/
def Ends (backend : Backend σ) (y : Service σ α) (order : List ℕ) (k : ℕ)
    (r : Except Failure α) : Prop :=
  (y.turns backend order).result? k = none ∧ (y.turns backend (order ++ [k])).result? k = some r

/-- **What one turn of a run does to the settled state.** It ends no call, and has loaded the data
if it has done anything; or it ends a call, which comes out as if it were made now. -/
theorem Along.turn {s v : Shared σ} {bodies : List (Procedure σ α)} {order : List ℕ}
    (hbodies : ∀ q ∈ bodies, q.IsGuided) (h : Along backend s bodies order v) (k : ℕ) :
    ∃ v', Along backend s bodies (order ++ [k]) v' ∧
      (((∀ i, ((begun s bodies).turns backend (order ++ [k])).result? i
          = ((begun s bodies).turns backend order).result? i) ∧
        (v' = v ∨ (v.loaded = false ∧ v.ensureLoaded backend = (.ok (), v')))) ∨
      ∃ q r, bodies[k]? = some q ∧ Ends backend (begun s bodies) order k r ∧
        (Procedure.load (q.replay ((begun s bodies).seen backend (order ++ [k]) k))).run backend v
          = (r, v')) := by
  cases hstep : ((begun s bodies).turns backend order).step? backend k with
  | none =>
    -- the call has ended or waits, and nothing has happened
    obtain ⟨hturns, hseen⟩ := turns_concat_of_none hstep
    refine ⟨v, ?_, Or.inl ⟨fun i => by rw [hturns], Or.inl rfl⟩⟩
    rw [Along, hturns, funext hseen]
    exact h
  | some z =>
    have hz : (begun s bodies).turns backend (order ++ [k]) = z := by
      rw [turns_concat, Service.turn, hstep, Option.getD_some]
    have hunfinished := result?_of_step? hstep
    obtain ⟨p, p', q, v', hp, hcalls, hq, hadv, hglimpse, htracks⟩ := h.step hbodies hstep
    have hseen : ∀ i, (begun s bodies).seen backend (order ++ [k]) i
        = (begun s bodies).seen backend order i ++ if k = i then p.glimpse v else [] := by
      intro i
      rw [seen_concat, hglimpse]
    have hself : ((begun s bodies).turns backend (order ++ [k])).result? k = p'.result? := by
      rw [hz, result?_set_self hp hcalls]
    rw [← funext hseen, ← hz] at htracks
    refine ⟨v', htracks, ?_⟩
    cases hr : p'.result? with
    | some r =>
      -- the call ends here, and its looks are all known
      have hrun := (h.stands k p q hp hq).run_eq (hbodies q (List.mem_of_getElem? hq)) hadv hr
      have hseenk := hseen k
      rw [if_pos rfl] at hseenk
      rw [← hseenk] at hrun
      exact Or.inr ⟨q, r, hq, ⟨hunfinished, hself.trans hr⟩, hrun⟩
    | none =>
      refine Or.inl ⟨fun i => ?_, hadv.eq_or_ensureLoaded hr⟩
      by_cases hik : i = k
      · rw [hik, hself, hr, hunfinished]
      · rw [hz, result?_set_of_ne hcalls hik]

/-- What calls uphold, they uphold of the settled state. -/
theorem Tracks.upheld {P : Directory → Prop} {allowed : Directory → Change → Prop}
    {y : Service σ α} {bodies : List (Procedure σ α)} {seen : ℕ → List Directory} {v : Shared σ}
    (h : y.Tracks bodies seen v) (hy : y.Upheld backend P allowed)
    (hfits : ∀ q ∈ bodies, q.Obeys (.commits fun d change => change.Fits d)) :
    P v.directory := by
  have hsettled := h.settled
  cases hsettled with
  | level => exact hy.data
  | installing d next hmem => exact hy.fetched d next hmem
  | announcing => exact hy.data
  | saving change a _ hmem hshared =>
    -- the change that is being saved has been decided on in the settled state, and fits it
    obtain ⟨i, hi⟩ := List.mem_iff_getElem?.1 hmem
    have hlt : i < bodies.length := h.length ▸ (List.getElem?_eq_some_iff.1 hi).1
    have hstands := h.stands i _ _ hi (List.getElem?_eq_getElem hlt)
    have hcommits := (hfits _ (List.getElem_mem hlt)).replay (seen i)
    generalize seen i = ds at hstands hcommits
    cases hstands with
    | saving _ decide _ _ _ hreplay hd =>
      rw [hreplay] at hcommits
      have hundone := hy.undone change a hmem
      rw [hshared] at hundone
      have hchange := Decision.obeys_commits.1 (hcommits v.directory) change a hd
      rwa [Change.undo_apply hchange] at hundone

end Service

end SignIn
