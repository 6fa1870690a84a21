import SignIn.Proofs.Service.Moves

/-!
# The settled state of a service

While calls are under way, the state in memory is at times ahead of what has been decided or
behind it: a change is made before it has been saved, and data that have been loaded are put into
memory in three steps. `Service.Settled` says which state stands behind the one in memory: every
change that is still being saved is left out, and data that the backend has handed over are in.

`Position.Advance` is the moves of a call told about the settled state. It has no locks and no
half-made changes: whatever a call does to the settled state, it does in one step.
`Service.Settled.step` is the simulation: each step of the service advances one call.
-/

namespace SignIn

variable {σ α : Type} {backend : Backend σ}

namespace Position

/-- Whether a call has the state in memory in its hands, such that it differs from the settled
one. -/
def isPending : Position σ α → Bool
  | .loading (.installing _) _ | .loading .announcing _ | .saving _ _ => true
  | _ => false

/-- Whether a call is dealing with the backend. -/
def isBusy : Position σ α → Bool
  | .loading stage _ => stage.isLate
  | .saving _ _ => true
  | _ => false

/-- Whoever has the state in hands is dealing with the backend. -/
theorem isBusy_of_isPending {p : Position σ α} (h : p.isPending = true) : p.isBusy = true := by
  cases p with
  | before | preparing => cases h
  | saving => rfl
  | loading stage next => cases stage <;> first | rfl | cases h

/-- The moves of a call, told about the settled state. -/
inductive Advance (backend : Backend σ) (v : Shared σ) :
    Position σ α → Position σ α → Shared σ → Prop
  /-- It begins to load. -/
  | enter (next : Procedure σ α) : Advance backend v (.before (.load next))
      (.loading .arriving next) v
  /-- It comes further with a load. -/
  | await (stage stage' : LoadStage) (next : Procedure σ α) : Advance backend v
      (.loading stage next) (.loading stage' next) v
  /-- The backend answers. -/
  | fetch (next : Procedure σ α) (d : Directory) (v' : Shared σ) (hl : v.loaded = false)
      (h : v.ensureLoaded backend = (.ok (), v')) : Advance backend v
      (.loading .loading next) (.loading (.installing d) next) v'
  /-- The backend fails. -/
  | refuse (next : Procedure σ α) (e : Failure) (v' : Shared σ) (hl : v.loaded = false)
      (h : v.ensureLoaded backend = (.error e, v')) : Advance backend v
      (.loading .loading next) (.before (.finish (.error e))) v'
  /-- It goes on, since the data are there. -/
  | pass (stage : LoadStage) (next : Procedure σ α) (hl : v.loaded = true) :
      Advance backend v (.loading stage next) (.before next) v
  /-- It looks at the data. -/
  | read (next : Directory → Procedure σ α) (hl : v.loaded = true) : Advance backend v
      (.before (.read next)) (.before (next v.directory)) v
  /-- It decides on the data without changing them. -/
  | answer (decide : Directory → Decision α) (r : Except Failure α) (hl : v.loaded = true)
      (h : decide v.directory = .answer r) : Advance backend v
      (.before (.write decide)) (.before (.finish r)) v
  /-- It decides on a change. -/
  | commit (decide : Directory → Decision α) (change : Change) (a : α) (hl : v.loaded = true)
      (h : decide v.directory = .commit change a) : Advance backend v
      (.before (.write decide)) (.saving change a) v
  /-- Its change has been saved, or could not be. -/
  | conclude (change : Change) (a : α) (r : Except Failure α) (v' : Shared σ)
      (h : { v with directory := change.apply v.directory }.save backend change a = (r, v')) :
      Advance backend v (.saving change a) (.before (.finish r)) v'

/-- Only a call that is dealing with the backend does anything to the settled state. -/
theorem Advance.eq_of_not_isBusy {v v' : Shared σ} {p q : Position σ α}
    (h : Advance backend v p q v') (hp : p.isBusy = false) : v' = v := by
  cases h with
  | fetch | refuse | conclude => cases hp
  | _ => rfl

theorem Advance.loaded {v v' : Shared σ} {p q : Position σ α} (h : Advance backend v p q v')
    (hl : v.loaded = true) : v'.loaded = true := by
  cases h with
  | fetch _ _ _ hl' | refuse _ _ _ hl' => exact absurd hl (ne_true_of_eq_false hl')
  | conclude change a r v' h =>
    simp only [Shared.save] at h
    split at h <;> cases h <;> exact hl
  | _ => exact hl

end Position

namespace Service

/-- At most one call is dealing with the backend. -/
theorem Orderly.eq_of_isBusy {y : Service σ α} (hy : y.Orderly) {i j : ℕ} {p q : Position σ α}
    (hp : y.calls[i]? = some p) (hq : y.calls[j]? = some q) (hbp : p.isBusy = true)
    (hbq : q.isBusy = true) : i = j := by
  have hmemp := List.mem_of_getElem? hp
  have hmemq := List.mem_of_getElem? hq
  cases p with
  | before | preparing => cases hbp
  | loading stage next =>
    cases q with
    | before | preparing => cases hbq
    | loading stage' next' => exact hy.eq_of_isLate hp hbp hq hbq
    | saving change a =>
      have hl := hy.loaded_of_mem hmemq rfl
      exact absurd hl (ne_true_of_eq_false (hy.not_loaded_of_mem hmemp hbp))
  | saving change a =>
    cases q with
    | before | preparing => cases hbq
    | saving change' a' => exact hy.eq_of_saving hp hq
    | loading stage' next' =>
      have hl := hy.loaded_of_mem hmemp rfl
      exact absurd hl (ne_true_of_eq_false (hy.not_loaded_of_mem hmemq hbq))

/-- Two calls that are dealing with the backend stand at one position. -/
theorem Orderly.position_eq_of_isBusy {y : Service σ α} (hy : y.Orderly) {p q : Position σ α}
    (hp : p ∈ y.calls) (hq : q ∈ y.calls) (hbp : p.isBusy = true) (hbq : q.isBusy = true) :
    p = q := by
  obtain ⟨i, hi⟩ := List.mem_iff_getElem?.1 hp
  obtain ⟨j, hj⟩ := List.mem_iff_getElem?.1 hq
  obtain rfl := hy.eq_of_isBusy hi hj hbp hbq
  exact Option.some.inj (hi.symm.trans hj)

/-- While the data are there and free, no call has them in hands. -/
theorem Orderly.isPending_eq_false {y : Service σ α} (hy : y.Orderly)
    (hl : y.shared.loaded = true) (hf : y.free .data = true) {p : Position σ α}
    (hp : p ∈ y.calls) : p.isPending = false := by
  refine Bool.eq_false_iff.2 fun hpending => ?_
  obtain ⟨i, hi⟩ := List.mem_iff_getElem?.1 hp
  cases p with
  | before | preparing => cases hpending
  | loading stage next =>
    have hlate := hy.early hl stage next hp
    exact absurd (Position.isBusy_of_isPending hpending) (by simp [Position.isBusy, hlate])
  | saving change a => exact absurd (holds_of_free hf hi) (by simp [Position.holds])

/-- The state that stands behind the one in memory: what the calls that have ended have made of the
data. It lacks a change that is being saved, which may still be undone, and has the data already
that a load is bringing in. -/
inductive Settled (y : Service σ α) : Shared σ → Prop
  /-- It is the one in memory, as long as no call has that in hands. -/
  | level (h : ∀ p ∈ y.calls, p.isPending = false) : Settled y y.shared
  /-- Data that the backend has handed over are in. -/
  | installing (d : Directory) (next : Procedure σ α)
      (h : .loading (.installing d) next ∈ y.calls) :
      Settled y { y.shared with directory := d, loaded := true }
  /-- So they are once they are in memory. -/
  | announcing (next : Procedure σ α) (h : .loading .announcing next ∈ y.calls) :
      Settled y { y.shared with loaded := true }
  /-- A change that is being saved is left out. -/
  | saving (change : Change) (a : α) (v : Shared σ) (h : .saving change a ∈ y.calls)
      (hv : y.shared = { v with directory := change.apply v.directory }) : Settled y v

/-- Data that are in memory for everyone are settled. -/
theorem Settled.loaded {y : Service σ α} {v : Shared σ} (h : y.Settled v)
    (hl : y.shared.loaded = true) : v.loaded = true := by
  cases h with
  | level => exact hl
  | installing | announcing => rfl
  | saving change a _ _ hv =>
    rw [hv] at hl
    exact hl

/-- As long as no call has the state in hands, the one in memory is settled. -/
theorem Settled.eq_of_level {y : Service σ α} {v : Shared σ} (h : y.Settled v)
    (hlevel : ∀ p ∈ y.calls, p.isPending = false) : v = y.shared := by
  cases h with
  | level => rfl
  | installing d next hmem => exact absurd (hlevel _ hmem) (by simp [Position.isPending])
  | announcing next hmem => exact absurd (hlevel _ hmem) (by simp [Position.isPending])
  | saving change a _ hmem => exact absurd (hlevel _ hmem) (by simp [Position.isPending])

/-- A service whose calls have not begun is settled. -/
theorem settled_start (s : Shared σ) (procedures : List (Procedure σ α)) :
    (start s procedures).Settled s :=
  .level fun p hp => by
    obtain ⟨procedure, -, rfl⟩ := List.mem_map.1 hp
    rfl

variable {y : Service σ α} {v : Shared σ} {i : ℕ} {p q : Position σ α}

/-- A move between two positions without the state in hands, which leaves the state as it is,
leaves what is settled as it is. -/
private theorem Settled.quiet (hv : y.Settled v) (hi : y.calls[i]? = some p)
    (hp : p.isPending = false) (hq : q.isPending = false) :
    Settled ⟨y.shared, y.calls.set i q⟩ v := by
  -- a position with the state in hands is that of another call
  have hstays : ∀ p' ∈ y.calls, p'.isPending = true → p' ∈ y.calls.set i q := by
    intro p' hp' hpending
    obtain ⟨j, hj⟩ := List.mem_iff_getElem?.1 hp'
    have hij : i ≠ j := by
      rintro rfl
      obtain rfl := Option.some.inj (hi.symm.trans hj)
      exact absurd hpending (ne_true_of_eq_false hp)
    exact List.mem_of_getElem? ((List.getElem?_set_ne hij).trans hj)
  cases hv with
  | level hlevel =>
    refine .level fun p' hp' => ?_
    rcases List.mem_or_eq_of_mem_set hp' with hp' | rfl
    · exact hlevel p' hp'
    · exact hq
  | installing d next hmem => exact .installing d next (hstays _ hmem rfl)
  | announcing next hmem => exact .announcing next (hstays _ hmem rfl)
  | saving change a _ hmem hv => exact .saving change a v (hstays _ hmem rfl) hv

/-- When a call is done with the backend, no call has the state in hands. -/
private theorem Orderly.level_after (hy : y.Orderly) (hi : y.calls[i]? = some p)
    (hp : p.isBusy = true) (hq : q.isPending = false) :
    ∀ p' ∈ y.calls.set i q, p'.isPending = false := by
  intro p' hp'
  rcases mem_set_cases hp' with rfl | ⟨j, hj, hold⟩
  · exact hq
  · exact Bool.eq_false_iff.2 fun hpending =>
      hj (hy.eq_of_isBusy hold hi (Position.isBusy_of_isPending hpending) hp)

/-- While a call waits for the backend, the state in memory is settled. -/
private theorem Orderly.eq_of_loading (hy : y.Orderly) (hv : y.Settled v)
    {next : Procedure σ α} (hi : y.calls[i]? = some (.loading .loading next)) :
    v = y.shared := by
  refine hv.eq_of_level fun p hp => Bool.eq_false_iff.2 fun hpending => ?_
  have hbusy := Position.isBusy_of_isPending hpending
  rw [hy.position_eq_of_isBusy hp (List.mem_of_getElem? hi) hbusy rfl] at hpending
  cases hpending

/-- While a call puts data into memory, they are settled. -/
private theorem Orderly.eq_of_installing (hy : y.Orderly) (hv : y.Settled v) {d : Directory}
    {next : Procedure σ α} (hmem : .loading (.installing d) next ∈ y.calls) :
    v = { y.shared with directory := d, loaded := true } := by
  cases hv with
  | level hlevel => exact absurd (hlevel _ hmem) (by simp [Position.isPending])
  | installing d' next' hmem' =>
    cases hy.position_eq_of_isBusy hmem hmem' rfl rfl
    rfl
  | announcing next' hmem' => cases hy.position_eq_of_isBusy hmem hmem' rfl rfl
  | saving change a _ hmem' => cases hy.position_eq_of_isBusy hmem hmem' rfl rfl

private theorem Orderly.eq_of_announcing (hy : y.Orderly) (hv : y.Settled v)
    {next : Procedure σ α} (hmem : .loading .announcing next ∈ y.calls) :
    v = { y.shared with loaded := true } := by
  cases hv with
  | level hlevel => exact absurd (hlevel _ hmem) (by simp [Position.isPending])
  | installing d' next' hmem' => cases hy.position_eq_of_isBusy hmem hmem' rfl rfl
  | announcing next' hmem' => rfl
  | saving change a _ hmem' => cases hy.position_eq_of_isBusy hmem hmem' rfl rfl

/-- While a call saves a change, the state in memory is the settled one with the change. -/
private theorem Orderly.eq_of_settled_saving (hy : y.Orderly) (hv : y.Settled v) {change : Change}
    {a : α} (hmem : .saving change a ∈ y.calls) :
    y.shared = { v with directory := change.apply v.directory } := by
  cases hv with
  | level hlevel => exact absurd (hlevel _ hmem) (by simp [Position.isPending])
  | installing d' next' hmem' => cases hy.position_eq_of_isBusy hmem hmem' rfl rfl
  | announcing next' hmem' => cases hy.position_eq_of_isBusy hmem hmem' rfl rfl
  | saving change' a' v hmem' hshared =>
    cases hy.position_eq_of_isBusy hmem hmem' rfl rfl
    exact hshared

/-- **Each step of the service advances one call.** -/
theorem Settled.step {z : Service σ α} (hy : y.Orderly) (hv : y.Settled v)
    (h : y.step? backend i = some z) :
    ∃ p q v', y.calls[i]? = some p ∧ z.calls = y.calls.set i q ∧ z.Settled v' ∧
      Position.Advance backend v p q v' := by
  obtain ⟨p, q, s', hi, hmove, rfl⟩ := hy.move h
  have hmem := List.mem_of_getElem? hi
  -- whoever is at the data finds them settled
  have hdata : p.isOutside = false → y.free .data = true →
      y.shared.loaded = true ∧ v = y.shared := by
    intro hout hfree
    have hl := hy.loaded_of_mem hmem hout
    exact ⟨hl, hv.eq_of_level fun _ hp => hy.isPending_eq_false hl hfree hp⟩
  cases hmove with
  | enter next => exact ⟨_, _, v, hi, rfl, hv.quiet hi rfl rfl, .enter next⟩
  | queue next hl => exact ⟨_, _, v, hi, rfl, hv.quiet hi rfl rfl, .await _ _ next⟩
  | acquire next hf => exact ⟨_, _, v, hi, rfl, hv.quiet hi rfl rfl, .await _ _ next⟩
  | request next hl => exact ⟨_, _, v, hi, rfl, hv.quiet hi rfl rfl, .await _ _ next⟩
  | pass stage next hs hl =>
    have hp : (Position.loading stage next).isPending = false := by
      cases stage <;> first | rfl | cases hs
    exact ⟨_, _, v, hi, rfl, hv.quiet hi hp rfl, .pass stage next (hv.loaded hl)⟩
  | refuse next e w hload =>
    have hl := hy.not_loaded_of_mem hmem rfl
    obtain rfl := hy.eq_of_loading hv hi
    refine ⟨_, _, _, hi, rfl, .level (hy.level_after hi rfl rfl), .refuse next e _ hl ?_⟩
    simp [Shared.ensureLoaded, hl, hload]
  | fetch next d w hload =>
    have hl := hy.not_loaded_of_mem hmem rfl
    obtain rfl := hy.eq_of_loading hv hi
    refine ⟨_, _, _, hi, rfl, .installing d next (mem_set_self hi), .fetch next d _ hl ?_⟩
    simp [Shared.ensureLoaded, hl, hload]
  | install next d hf =>
    -- memory catches up with the settled state, which stays as it is
    obtain rfl := hy.eq_of_installing hv hmem
    exact ⟨_, _, _, hi, rfl, .announcing next (mem_set_self hi), .await _ _ next⟩
  | announce next =>
    obtain rfl := hy.eq_of_announcing hv hmem
    exact ⟨_, _, _, hi, rfl, .level (hy.level_after hi rfl rfl), .pass _ next rfl⟩
  | read next hf =>
    obtain ⟨hl, rfl⟩ := hdata rfl hf
    exact ⟨_, _, _, hi, rfl, hv.quiet hi rfl rfl, .read next hl⟩
  | answer decide r hf hd =>
    obtain ⟨hl, rfl⟩ := hdata rfl hf
    exact ⟨_, _, _, hi, rfl, hv.quiet hi rfl rfl, .answer decide r hl hd⟩
  | commit decide change a hf hd =>
    -- memory runs ahead with the change until it has been saved
    obtain ⟨hl, rfl⟩ := hdata rfl hf
    exact ⟨_, _, y.shared, hi, rfl, .saving change a _ (mem_set_self hi) rfl,
      .commit decide change a hl hd⟩
  | save change a w hsave =>
    have hshared := hy.eq_of_settled_saving hv hmem
    refine ⟨_, _, _, hi, rfl, .level (hy.level_after hi rfl rfl), .conclude change a _ _ ?_⟩
    rw [← hshared]
    simp [Shared.save, hsave]
  | rollBack change a e w hsave =>
    -- the settled state never had the change, in memory it is taken back
    have hshared := hy.eq_of_settled_saving hv hmem
    refine ⟨_, _, _, hi, rfl, .level (hy.level_after hi rfl rfl), .conclude change a _ _ ?_⟩
    rw [← hshared]
    simp [Shared.save, hsave]

end Service

end SignIn
