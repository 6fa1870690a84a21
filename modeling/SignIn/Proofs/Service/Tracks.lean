import SignIn.Proofs.Service.Standing

/-!
# Where a run has come to

`Service.Tracks` puts together what is known about a service in the course of a run: it is
orderly, there is a settled state behind it, and each call stands where it should, with what it has
looked at so far. It holds where calls are about to begin (`Service.tracks_begun`), a step leads on
(`Service.Tracks.step`), and so does one more call (`Service.Tracks.withCall`).
-/

namespace SignIn

variable {σ α : Type} {backend : Backend σ}

/-- An advance that does not finish a call leaves the settled state as it is, or loads the data. -/
theorem Position.Advance.eq_or_ensureLoaded {v v' : Shared σ} {p q : Position σ α}
    (h : Advance backend v p q v') (hq : q.result? = none) :
    v' = v ∨ (v.loaded = false ∧ v.ensureLoaded backend = (.ok (), v')) := by
  cases h with
  | fetch _ _ _ hl hload => exact Or.inr ⟨hl, hload⟩
  | refuse | conclude => cases hq
  | _ => exact Or.inl rfl

namespace Service

/-- Calls that are about to begin: each loads the data first. -/
def begun (s : Shared σ) (bodies : List (Procedure σ α)) : Service σ α :=
  start s (bodies.map .load)

/-- The service with one more call that is about to begin. -/
def withCall (y : Service σ α) (p : Procedure σ α) : Service σ α :=
  ⟨y.shared, y.calls ++ [.before p]⟩

/-- The positions of the calls, one for each body, come from the bodies, and behind the service is
a settled state. -/
structure Tracks (y : Service σ α) (bodies : List (Procedure σ α)) (seen : ℕ → List Directory)
    (v : Shared σ) : Prop where
  orderly : y.Orderly
  settled : y.Settled v
  length : y.calls.length = bodies.length
  stands : ∀ i p q, y.calls[i]? = some p → bodies[i]? = some q → Stands v q (seen i) p

variable {y z : Service σ α} {bodies : List (Procedure σ α)} {seen : ℕ → List Directory}
  {v : Shared σ} {q : Procedure σ α} {k : ℕ}

/-! ### The beginning -/

/-- Where a call is about to begin. -/
theorem getElem?_begun (s : Shared σ) (i : ℕ) :
    (begun s bodies).calls[i]? = bodies[i]?.map fun q => .before (.load q) := by
  simp [begun, start, List.getElem?_map, Function.comp_def]

theorem tracks_begun (s : Shared σ) (hbodies : ∀ q ∈ bodies, q.IsGuided) :
    (begun s bodies).Tracks bodies (fun _ => []) s where
  orderly := by
    refine orderly_start s fun p hp => ?_
    obtain ⟨q, hq, rfl⟩ := List.mem_map.1 hp
    exact ⟨q, rfl, (hbodies q hq).plain⟩
  settled := settled_start s _
  length := by simp [begun, start]
  stands := by
    intro i p q hp hq
    rw [getElem?_begun, hq] at hp
    obtain rfl := Option.some.inj hp
    exact .idle

/-! ### One more call -/

theorem Orderly.withCall (hy : y.Orderly) (hq : q.Obeys .plain) :
    (y.withCall (.load q)).Orderly := by
  have hcases : ∀ p ∈ (y.withCall (.load q)).calls, p ∈ y.calls ∨ p = .before (.load q) := by
    intro p hp
    simpa [Service.withCall] using hp
  refine ⟨fun p hp => ?_, ?_, fun hl p hp => ?_, fun hl stage next hmem => ?_⟩
  · -- the new call holds no lock and is not at the data
    rcases hcases p hp with hp | rfl
    · exact hy.plain p hp
    · exact hq
  · intro l i j p p' hi hj hl hl'
    rcases getElem?_concat_cases hi with ⟨-, rfl⟩ | hi
    · cases hl
    · rcases getElem?_concat_cases hj with ⟨-, rfl⟩ | hj
      · cases hl'
      · exact hy.exclusive hi hj hl hl'
  · rcases hcases p hp with hp | rfl
    · exact hy.outside hl p hp
    · rfl
  · rcases hcases _ hmem with hmem | heq
    · exact hy.early hl stage next hmem
    · cases heq

/-- One more call leaves the settled state as it is. -/
theorem Settled.withCall (hv : y.Settled v) (p : Procedure σ α) : (y.withCall p).Settled v := by
  have hstays : ∀ p' ∈ y.calls, p' ∈ (y.withCall p).calls :=
    fun p' hp' => List.mem_append_left _ hp'
  cases hv with
  | level hlevel =>
    refine .level fun p' hp' => ?_
    rcases List.mem_append.1 hp' with hp' | hp'
    · exact hlevel p' hp'
    · rw [List.mem_singleton.1 hp']
      rfl
  | installing d next hmem => exact .installing d next (hstays _ hmem)
  | announcing next hmem => exact .announcing next (hstays _ hmem)
  | saving change a _ hmem hshared => exact .saving change a v (hstays _ hmem) hshared

/-- **One more call stands where it should.** -/
theorem Tracks.withCall (h : y.Tracks bodies seen v) (hq : q.Obeys .plain) :
    (y.withCall (.load q)).Tracks (bodies ++ [q])
      (fun i => if i < bodies.length then seen i else []) v where
  orderly := h.orderly.withCall hq
  settled := h.settled.withCall _
  length := by simp [Service.withCall, h.length]
  stands := by
    intro i p q' hp hq'
    rcases getElem?_concat_cases hp with ⟨rfl, rfl⟩ | hp
    · rw [h.length, List.getElem?_concat_length] at hq'
      obtain rfl := Option.some.inj hq'
      rw [if_neg (by simp [h.length])]
      exact .idle
    · have hi : i < bodies.length := h.length ▸ (List.getElem?_eq_some_iff.1 hp).1
      rw [List.getElem?_append_left hi] at hq'
      rw [if_pos hi]
      exact h.stands i p q' hp hq'

/-- One more call has no result yet. -/
theorem result?_withCall (p : Procedure σ α) (i : ℕ) :
    (y.withCall (.load p)).result? i = y.result? i := by
  cases hp : (y.withCall (.load p)).calls[i]? with
  | none =>
    have hlength := List.getElem?_eq_none_iff.1 hp
    have hi : y.calls.length ≤ i := by
      simp only [Service.withCall, List.length_append, List.length_singleton] at hlength
      omega
    rw [result?, result?, hp, List.getElem?_eq_none hi]
  | some p' =>
    rcases getElem?_concat_cases hp with ⟨rfl, rfl⟩ | hold
    · rw [result?, result?, hp, List.getElem?_eq_none (Nat.le_refl _)]
      rfl
    · rw [result?, result?, hp, hold]

/-! ### A step -/

/-- **A step advances one call and leaves the others where they stand.** -/
theorem Tracks.step (h : y.Tracks bodies seen v) (hbodies : ∀ q ∈ bodies, q.IsGuided)
    (hstep : y.step? backend k = some z) :
    ∃ p p' q v', y.calls[k]? = some p ∧ z.calls = y.calls.set k p' ∧ bodies[k]? = some q ∧
      Position.Advance backend v p p' v' ∧ y.glimpse k = p.glimpse v ∧
      z.Tracks bodies (fun i => seen i ++ if k = i then p.glimpse v else []) v' := by
  obtain ⟨p, p', v', hk, hcalls, hsettled, hadv⟩ := h.settled.step h.orderly hstep
  have hlt : k < bodies.length := h.length ▸ (List.getElem?_eq_some_iff.1 hk).1
  have hq : bodies[k]? = some bodies[k] := List.getElem?_eq_getElem hlt
  have hglimpse := h.settled.glimpse_eq h.orderly hk hstep
  refine ⟨p, p', bodies[k], v', hk, hcalls, hq, hadv, hglimpse, ⟨h.orderly.step hstep, hsettled,
    ?_, fun i p₁ q₁ hp₁ hq₁ => ?_⟩⟩
  · rw [hcalls, List.length_set, h.length]
  · rw [hcalls] at hp₁
    rcases getElem?_set_cases hp₁ with ⟨rfl, rfl⟩ | ⟨hne, hold⟩
    · obtain rfl := Option.some.inj (hq.symm.trans hq₁)
      rw [if_pos rfl]
      exact (h.stands i p _ hk hq).advance (hbodies _ (List.getElem_mem hlt)) hadv
    · rw [if_neg (Ne.symm hne), List.append_nil]
      refine (h.stands i p₁ q₁ hold hq₁).frame hadv.loaded fun hbusy => ?_
      -- only one call is dealing with the backend, so that the one that has moved is not
      refine hadv.eq_of_not_isBusy (Bool.eq_false_iff.2 fun hp => hne ?_)
      exact h.orderly.eq_of_isBusy hold hk hbusy hp

end Service

end SignIn
