import Mathlib.Data.List.Induction
import Mathlib.Data.List.Nodup
import Mathlib.Data.List.Perm.Basic
import SignIn.Proofs.Service.Tracks

/-!
# A serial order of calls

Calls that run side by side come out as if they had been made one after another, in the order in
which they finish. `Procedure.runAll` makes calls one after another, and
`Service.exists_serial_order` is the theorem, for calls that `Procedure.IsGuided` describes.

The state that the serial order leads to lags behind the settled one in one respect: data that a
call has loaded without having finished are loaded there by the first call that finishes.
-/

namespace SignIn

variable {σ α : Type} {backend : Backend σ}

/-! ### One call after another -/

namespace Procedure

/-- Carries out procedures one after another: their results, and the state afterwards. -/
def runAll (backend : Backend σ) (s : Shared σ) :
    List (Procedure σ α) → List (Except Failure α) × Shared σ
  | [] => ([], s)
  | p :: ps =>
    let (r, s) := p.run backend s
    let (rs, s) := runAll backend s ps
    (r :: rs, s)

private theorem runAll_concat {s t t' : Shared σ} {ps : List (Procedure σ α)} {p : Procedure σ α}
    {rs : List (Except Failure α)} {r : Except Failure α} (h : runAll backend s ps = (rs, t))
    (hp : p.run backend t = (r, t')) : runAll backend s (ps ++ [p]) = (rs ++ [r], t') := by
  induction ps generalizing s rs with
  | nil =>
    cases h
    simp [runAll, hp]
  | cons p' ps ih =>
    rcases hrun : p'.run backend s with ⟨r', s'⟩
    rcases hrest : runAll backend s' ps with ⟨rs', t''⟩
    simp only [runAll, hrun, hrest, Prod.mk.injEq] at h
    obtain ⟨rfl, rfl⟩ := h
    simp [runAll, hrun, ih hrest]

end Procedure

namespace Service

/-- The calls of a run, in some order, with what they have looked at for a provider's sake. A
provider that has looked at the data between the changes of others has been told something that the
call by itself would not be told again. -/
def replayed (backend : Backend σ) (s : Shared σ) (bodies : List (Procedure σ α))
    (order done : List ℕ) : List (Procedure σ α) :=
  done.filterMap fun i =>
    bodies[i]?.map fun q => .load (q.replay ((begun s bodies).seen backend order i))

section

variable {s : Shared σ} {bodies : List (Procedure σ α)} {order : List ℕ} {k : ℕ}

/-! ### The turns of a run -/

/-- A turn that a call lets pass changes nothing. -/
theorem turns_concat_of_none {y : Service σ α}
    (hstep : (y.turns backend order).step? backend k = none) :
    y.turns backend (order ++ [k]) = y.turns backend order ∧
      ∀ i, y.seen backend (order ++ [k]) i = y.seen backend order i := by
  constructor
  · rw [turns_concat, turn, hstep, Option.getD_none]
  · intro i
    rw [seen_concat, glimpse_of_step?_eq_none hstep, ite_self, List.append_nil]

/-! ### The serial order grows with every call that finishes -/

/-- A call that has finished has had a turn. -/
private theorem mem_of_isSome_result? {i : ℕ}
    (h : (((begun s bodies).turns backend order).result? i).isSome = true) : i ∈ order := by
  by_contra hmem
  rw [result?, getElem?_calls_turns hmem, getElem?_begun] at h
  cases hq : bodies[i]? <;> simp [hq, Position.result?] at h

/-- A serial order of the calls that have finished in a run, with their results and the state that
it leads to. A call comes to stand at its end in the turn in which the call ends. -/
structure Serial (backend : Backend σ) (s : Shared σ) (bodies : List (Procedure σ α))
    (order : List ℕ) (v : Shared σ) (done : List ℕ) (results : List (Except Failure α))
    (t : Shared σ) : Prop where
  runs : Procedure.runAll backend s (replayed backend s bodies order done) = (results, t)
  results : done.map ((begun s bodies).turns backend order).result? = results.map some
  /-- It leads to the settled state, or to one from which the data have not been loaded yet; in
  that case some call is still under way. -/
  behind : t = v ∨ (v.loaded = true ∧ t.ensureLoaded backend = (.ok (), v) ∧
    ∃ i, i < bodies.length ∧ ((begun s bodies).turns backend order).result? i = none)
  nodup : done.Nodup
  mem_iff : ∀ i, i ∈ done ↔ (((begun s bodies).turns backend order).result? i).isSome = true
  realTime : done.Pairwise fun i j => ¬ Precedes backend (begun s bodies) order j i

/-- Nothing has finished at the beginning of a run. -/
theorem Serial.nil : Serial backend s bodies [] s [] [] s where
  runs := rfl
  results := rfl
  behind := Or.inl rfl
  nodup := List.nodup_nil
  mem_iff i := by
    rw [turns_nil, result?, getElem?_begun]
    cases bodies[i]? <;> simp [Position.result?]
  realTime := .nil

/-- What has been looked at by the calls that have finished does not change any more. -/
private theorem replayed_congr {order order' done : List ℕ}
    (h : ∀ i ∈ done, (begun s bodies).seen backend order' i
      = (begun s bodies).seen backend order i) :
    replayed backend s bodies order' done = replayed backend s bodies order done := by
  refine List.filterMap_congr fun i hi => ?_
  rw [h i hi]

/-- The order of calls that have finished is not affected by one more turn. -/
private theorem Serial.realTime_concat {v t : Shared σ} {done : List ℕ}
    {results : List (Except Failure α)} (h : Serial backend s bodies order v done results t)
    (k : ℕ) :
    done.Pairwise fun i j => ¬ Precedes backend (begun s bodies) (order ++ [k]) j i := by
  refine h.realTime.imp_of_mem fun {i j} hi _ hij hprecedes => ?_
  rcases hprecedes.concat with hprecedes | hmem
  · exact hij hprecedes
  · have hi' := mem_of_isSome_result? ((h.mem_iff i).1 hi)
    exact hmem (List.mem_append_left [k] hi')

/-- A call comes to the same from the settled state and from the one that the serial order leads
to. -/
private theorem Serial.run_load {v v' t : Shared σ} {done : List ℕ}
    {results : List (Except Failure α)}
    (h : Serial backend s bodies order v done results t) {q : Procedure σ α}
    {r : Except Failure α} (hrun : (Procedure.load q).run backend v = (r, v')) :
    (Procedure.load q).run backend t = (r, v') := by
  rcases h.behind with rfl | ⟨hl, hload, -⟩
  · exact hrun
  · rw [Procedure.run_load_of_ensureLoaded hload, ← hrun, Procedure.run_load_of_loaded hl]

/-- A turn with which no call finishes leaves the serial order as it is. -/
private theorem Serial.extend {v v' t : Shared σ} {done : List ℕ}
    {results : List (Except Failure α)} (h : Serial backend s bodies order v done results t)
    (hseen : ∀ i ∈ done, (begun s bodies).seen backend (order ++ [k]) i
      = (begun s bodies).seen backend order i)
    (hresult : ∀ i, ((begun s bodies).turns backend (order ++ [k])).result? i
      = ((begun s bodies).turns backend order).result? i)
    (hbehind : t = v' ∨ (v'.loaded = true ∧ t.ensureLoaded backend = (.ok (), v') ∧
      ∃ i, i < bodies.length ∧ ((begun s bodies).turns backend order).result? i = none)) :
    Serial backend s bodies (order ++ [k]) v' done results t := by
  refine ⟨?_, ?_, ?_, h.nodup, fun i => ?_, h.realTime_concat k⟩
  · rw [replayed_congr hseen]
    exact h.runs
  · rw [funext hresult]
    exact h.results
  · simp only [hresult]
    exact hbehind
  · rw [hresult]
    exact h.mem_iff i

/-- **A call that finishes comes last in the serial order.** -/
theorem Serial.concat {v v' t : Shared σ} {done : List ℕ} {results : List (Except Failure α)}
    {q : Procedure σ α} {r : Except Failure α}
    (h : Serial backend s bodies order v done results t) (hk : k ∉ done)
    (hq : bodies[k]? = some q)
    (hrun : (Procedure.load (q.replay ((begun s bodies).seen backend (order ++ [k]) k))).run
      backend t = (r, v'))
    (hr : ((begun s bodies).turns backend (order ++ [k])).result? k = some r)
    (hresult : ∀ i, i ≠ k → ((begun s bodies).turns backend (order ++ [k])).result? i
      = ((begun s bodies).turns backend order).result? i) :
    Serial backend s bodies (order ++ [k]) v' (done ++ [k]) (results ++ [r]) v' := by
  have hne : ∀ i ∈ done, i ≠ k := by
    rintro i hi rfl
    exact hk hi
  have hseen : ∀ i ∈ done, (begun s bodies).seen backend (order ++ [k]) i
      = (begun s bodies).seen backend order i := by
    intro i hi
    rw [seen_concat, if_neg (Ne.symm (hne i hi)), List.append_nil]
  refine ⟨?_, ?_, Or.inl rfl, ?_, fun i => ?_, ?_⟩
  · -- what the others have looked at is not affected by this turn
    have hlast : replayed backend s bodies (order ++ [k]) (done ++ [k])
        = replayed backend s bodies order done
          ++ [.load (q.replay ((begun s bodies).seen backend (order ++ [k]) k))] := by
      rw [← replayed_congr hseen]
      simp [replayed, hq]
    rw [hlast]
    exact Procedure.runAll_concat h.runs hrun
  · rw [List.map_append, List.map_append, ← h.results,
      List.map_congr_left fun i hi => hresult i (hne i hi)]
    simp [hr]
  · refine List.nodup_append.2 ⟨h.nodup, List.nodup_singleton k, fun i hi j hj => ?_⟩
    rw [List.mem_singleton.1 hj]
    exact hne i hi
  · by_cases hik : i = k
    · subst hik
      simp [hr]
    · rw [hresult i hik, ← h.mem_iff i]
      simp [hik]
  · refine List.pairwise_append.2 ⟨h.realTime_concat k, List.pairwise_singleton _ _, ?_⟩
    intro i hi j hj hprecedes
    rw [List.mem_singleton.1 hj] at hprecedes
    -- the call that finishes now has not finished before, and the others have begun
    rcases hprecedes.concat with hprecedes | hmem
    · exact hk ((h.mem_iff k).2 hprecedes.isSome_result?)
    · have hi' := mem_of_isSome_result? ((h.mem_iff i).1 hi)
      exact hmem (List.mem_append_left [k] hi')

/-- Where a run has come to. -/
abbrev Along (backend : Backend σ) (s : Shared σ) (bodies : List (Procedure σ α))
    (order : List ℕ) (v : Shared σ) : Prop :=
  ((begun s bodies).turns backend order).Tracks bodies ((begun s bodies).seen backend order) v

/-- **Each turn of a run keeps a serial order of the calls that have finished.** -/
theorem Serial.turn {v t : Shared σ} {done : List ℕ} {results : List (Except Failure α)}
    (hbodies : ∀ q ∈ bodies, q.IsGuided) (htracks : Along backend s bodies order v)
    (h : Serial backend s bodies order v done results t) (k : ℕ) :
    ∃ v' done' results' t', Along backend s bodies (order ++ [k]) v' ∧
      Serial backend s bodies (order ++ [k]) v' done' results' t' := by
  cases hstep : ((begun s bodies).turns backend order).step? backend k with
  | none =>
    -- the call has finished, or waits for a lock
    obtain ⟨hturns, hseen⟩ := turns_concat_of_none hstep
    refine ⟨v, done, results, t, ?_, h.extend (fun i _ => hseen i) ?_ h.behind⟩
    · rw [Along, hturns, funext hseen]
      exact htracks
    · intro i
      rw [hturns]
  | some z =>
    have hz : (begun s bodies).turns backend (order ++ [k]) = z := by
      rw [turns_concat, Service.turn, hstep, Option.getD_some]
    have hunfinished : ((begun s bodies).turns backend order).result? k = none :=
      result?_of_step? hstep
    -- the call is still under way, so that it is not in the order yet
    have hk : k ∉ done := by
      rw [h.mem_iff, hunfinished]
      simp
    obtain ⟨p, p', q, v', hp, hcalls, hq, hadv, hglimpse, htracks'⟩ :=
      htracks.step hbodies hstep
    have hseen : ∀ i, (begun s bodies).seen backend (order ++ [k]) i
        = (begun s bodies).seen backend order i ++ if k = i then p.glimpse v else [] := by
      intro i
      rw [seen_concat, hglimpse]
    have hother : ∀ i, i ≠ k → ((begun s bodies).turns backend (order ++ [k])).result? i
        = ((begun s bodies).turns backend order).result? i := by
      intro i hi
      rw [hz, result?_set_of_ne hcalls hi]
    have hself : ((begun s bodies).turns backend (order ++ [k])).result? k = p'.result? := by
      rw [hz, result?_set_self hp hcalls]
    rw [← funext hseen, ← hz] at htracks'
    cases hr : p'.result? with
    | some r =>
      have hq' : q.IsGuided := hbodies q (List.mem_of_getElem? hq)
      have hrun := (htracks.stands k p q hp hq).run_eq hq' hadv hr
      have hseenk := hseen k
      rw [if_pos rfl] at hseenk
      rw [← hseenk] at hrun
      refine ⟨v', done ++ [k], results ++ [r], v', htracks', ?_⟩
      exact h.concat hk hq (h.run_load hrun) (by rw [hself, hr]) hother
    | none =>
      refine ⟨v', done, results, t, htracks', h.extend ?_ ?_ ?_⟩
      · rintro i hi
        have hik : k ≠ i := by
          rintro rfl
          exact hk hi
        rw [hseen, if_neg hik, List.append_nil]
      · intro i
        by_cases hik : i = k
        · rw [hik, hself, hr, hunfinished]
        · exact hother i hik
      · have hlt := (List.getElem?_eq_some_iff.1 hq).1
        -- if the call has loaded the data, the serial order is now behind by this load
        rcases hadv.eq_or_ensureLoaded hr with rfl | ⟨hl, hload⟩
        · exact h.behind
        · rcases h.behind with rfl | ⟨hl', -⟩
          · exact Or.inr ⟨Shared.loaded_of_ensureLoaded hload, hload, k, hlt, hunfinished⟩
          · exact absurd hl' (ne_true_of_eq_false hl)

/-- A run keeps a serial order of the calls that have finished. -/
theorem exists_serial (hbodies : ∀ q ∈ bodies, q.IsGuided) (order : List ℕ) :
    ∃ v done results t, Along backend s bodies order v ∧
      Serial backend s bodies order v done results t := by
  induction order using List.reverseRecOn with
  | nil => exact ⟨s, [], [], s, tracks_begun s hbodies, .nil⟩
  | append_singleton order k ih =>
    obtain ⟨v, done, results, t, htracks, hserial⟩ := ih
    exact hserial.turn hbodies htracks k

end

/-- **A serial order.** When all calls have finished, they have the results, and lead to the
state, that they have when they are made one after another in some order. A call that had
finished before another one began comes before it. -/
theorem exists_serial_order {s : Shared σ} {bodies : List (Procedure σ α)}
    (hbodies : ∀ q ∈ bodies, q.IsGuided) {order : List ℕ}
    (hfinished : ((begun s bodies).turns backend order).isFinished = true) :
    ∃ (done : List ℕ) (results : List (Except Failure α)),
      done.Perm (List.range bodies.length) ∧
      (done.Pairwise fun i j => ¬ Precedes backend (begun s bodies) order j i) ∧
      Procedure.runAll backend s (replayed backend s bodies order done)
        = (results, ((begun s bodies).turns backend order).shared) ∧
      done.map ((begun s bodies).turns backend order).result? = results.map some := by
  obtain ⟨v, done, results, t, htracks, hserial⟩ := exists_serial hbodies order
  have hlength : ((begun s bodies).turns backend order).calls.length = bodies.length := by
    rw [length_calls_turns]
    simp [begun, start]
  have hmem : ∀ i, i ∈ done ↔ i ∈ List.range bodies.length := by
    intro i
    rw [hserial.mem_iff, List.mem_range]
    constructor
    · intro h
      by_contra hi
      have hge := Nat.le_of_not_lt hi
      rw [result?, List.getElem?_eq_none (hlength.symm ▸ hge)] at h
      cases h
    · intro hi
      exact isSome_result?_of_isFinished hfinished (hlength.symm ▸ hi)
  -- nobody has the state in hands any more, and nobody is left who could have loaded the data
  have hv : v = ((begun s bodies).turns backend order).shared := by
    refine htracks.settled.eq_of_level fun p hp => ?_
    have hp' := List.all_eq_true.1 hfinished p hp
    cases p with
    | before | preparing => rfl
    | loading | saving => cases hp'
  have ht : t = v := by
    rcases hserial.behind with ht | ⟨-, -, i, hi, hnone⟩
    · exact ht
    · have hsome := isSome_result?_of_isFinished hfinished (hlength.symm ▸ hi)
      rw [hnone] at hsome
      cases hsome
  refine ⟨done, results, ?_, hserial.realTime, ?_, hserial.results⟩
  · exact (List.perm_ext_iff_of_nodup hserial.nodup List.nodup_range).2 hmem
  · rw [hserial.runs, ht, hv]

end Service

end SignIn
