import SignIn.Proofs.Service.Rules

/-!
# What one step of a call does

A call of the store prepares no provider: it obeys `Rule.plain`. Each of its steps is one of the
moves that `Position.Move` lists, with what the move needs and what it does to the shared
state: the transitions of such a call, with those of a load told as moves of the call that waits
for it.

`Service.Orderly` is what such calls keep up among themselves: no lock has two holders, the data
are touched only once they have been loaded, and once they have been loaded nobody is at work on
loading them.
-/

namespace SignIn

variable {σ α : Type} {backend : Backend σ}

namespace LoadStage

/-- The stages after the decision to ask the backend. -/
def isLate : LoadStage → Bool
  | .arriving | .atGate | .inGate => false
  | .loading | .installing _ | .announcing => true

/-- Whoever is past the decision to ask the backend holds the gate. -/
private theorem holds_of_isLate {stage : LoadStage} (h : stage.isLate = true) :
    stage.holds .loadGate = true := by
  cases stage <;> first | rfl | cases h

end LoadStage

namespace Position

/-- Whether a position is one before the data, at which nothing is read or changed. -/
def isOutside : Position σ α → Bool
  | .before (.finish _) | .before (.load _) | .loading _ _ => true
  | _ => false

/-- The moves of a call that prepares no provider, from one position to the next, with the shared
state afterwards. -/
inductive Move (backend : Backend σ) (free : Lock → Bool) (s : Shared σ) :
    Position σ α → Position σ α → Shared σ → Prop
  /-- It begins to load. -/
  | enter (next : Procedure σ α) : Move backend free s (.before (.load next))
      (.loading .arriving next) s
  /-- It goes to the gate, since the data are not there. -/
  | queue (next : Procedure σ α) (hl : s.loaded = false) : Move backend free s
      (.loading .arriving next) (.loading .atGate next) s
  /-- It goes through the gate. -/
  | acquire (next : Procedure σ α) (hf : free .loadGate = true) : Move backend free s
      (.loading .atGate next) (.loading .inGate next) s
  /-- It asks the backend, since the data are still not there. -/
  | request (next : Procedure σ α) (hl : s.loaded = false) : Move backend free s
      (.loading .inGate next) (.loading .loading next) s
  /-- It goes on, since the data are there. -/
  | pass (stage : LoadStage) (next : Procedure σ α) (hs : stage.isLate = false)
      (hl : s.loaded = true) : Move backend free s (.loading stage next) (.before next) s
  /-- The backend fails. -/
  | refuse (next : Procedure σ α) (e : Failure) (w : σ)
      (h : backend.load s.world = (.error e, w)) : Move backend free s
      (.loading .loading next) (.before (.finish (.error e))) { s with world := w }
  /-- The backend answers. -/
  | fetch (next : Procedure σ α) (d : Directory) (w : σ)
      (h : backend.load s.world = (.ok d, w)) : Move backend free s
      (.loading .loading next) (.loading (.installing d) next) { s with world := w }
  /-- It puts the data into memory. -/
  | install (next : Procedure σ α) (d : Directory) (hf : free .data = true) :
      Move backend free s (.loading (.installing d) next) (.loading .announcing next)
        { s with directory := d }
  /-- It lets everyone know. -/
  | announce (next : Procedure σ α) : Move backend free s (.loading .announcing next)
      (.before next) { s with loaded := true }
  /-- It looks at the data. -/
  | read (next : Directory → Procedure σ α) (hf : free .data = true) : Move backend free s
      (.before (.read next)) (.before (next s.directory)) s
  /-- It decides on the data without changing them. -/
  | answer (decide : Directory → Decision α) (r : Except Failure α) (hf : free .data = true)
      (h : decide s.directory = .answer r) : Move backend free s (.before (.write decide))
      (.before (.finish r)) s
  /-- It makes a change. -/
  | commit (decide : Directory → Decision α) (change : Change) (a : α)
      (hf : free .data = true) (h : decide s.directory = .commit change a) :
      Move backend free s (.before (.write decide)) (.saving change a)
        { s with directory := change.apply s.directory }
  /-- Its change has been saved. -/
  | save (change : Change) (a : α) (w : σ)
      (h : backend.save s.directory s.world = (.ok (), w)) : Move backend free s
      (.saving change a) (.before (.finish (.ok a))) { s with world := w }
  /-- Its change could not be saved and is taken back. -/
  | rollBack (change : Change) (a : α) (e : Failure) (w : σ)
      (h : backend.save s.directory s.world = (.error e, w)) : Move backend free s
      (.saving change a) (.before (.finish (.error e)))
        { s with world := w, directory := change.undo s.directory }

/-- **A step is a move**, if the call prepares no provider. -/
theorem move_of_step? {free : Lock → Bool} {s s' : Shared σ} {p q : Position σ α}
    (hp : p.Obeys .plain) (h : p.step? backend free s = some (q, s')) :
    Move backend free s p q s' := by
  cases transition_of_step? h with
  | enter next => exact .enter next
  | approach | prepare | prepared => exact hp.1.elim
  | read next hf => exact .read next hf
  | answer decide r hf hd => exact .answer decide r hf hd
  | commit decide change a hf hd => exact .commit decide change a hf hd
  | load _ _ next _ hload =>
    cases hload with
    | queue hl => exact .queue next hl
    | acquire hf => exact .acquire next hf
    | request hl => exact .request next hl
    | fetch d w hd => exact .fetch next d w hd
    | install d hf => exact .install next d hf
  | loaded _ _ next _ hload =>
    cases hload with
    | skip hl | leave hl => exact .pass _ next rfl hl
    | refuse e w he => exact .refuse next e w he
    | announce => exact .announce next
  | save change a w hsave => exact .save change a w hsave
  | rollBack change a e w hsave => exact .rollBack change a e w hsave

/-- Data that have been loaded stay so. -/
theorem Move.loaded {free : Lock → Bool} {s s' : Shared σ} {p q : Position σ α}
    (h : Move backend free s p q s') (hl : s.loaded = true) : s'.loaded = true := by
  cases h with
  | announce => rfl
  | _ => exact hl

/-- Before the data have been loaded, a call stays outside. -/
theorem Move.isOutside {free : Lock → Bool} {s s' : Shared σ} {p q : Position σ α}
    (h : Move backend free s p q s') (hl : s'.loaded = false) (hp : p.isOutside = true) :
    q.isOutside = true := by
  cases h with
  | enter | queue | acquire | request | refuse | fetch | install => rfl
  | pass _ _ _ hl' => exact absurd hl' (ne_true_of_eq_false hl)
  | announce => cases hl
  | read | answer | commit | save | rollBack => cases hp

/-- Once the data have been loaded, a call that is not at work on a load does not get there. -/
private theorem Move.isLate_of_loaded {free : Lock → Bool} {s s' : Shared σ} {p : Position σ α}
    {stage : LoadStage} {next : Procedure σ α}
    (h : Move backend free s p (.loading stage next) s') (hl : s.loaded = true)
    (hp : ∀ stage next, p = .loading stage next → stage.isLate = false) :
    stage.isLate = false := by
  cases h with
  | enter | queue | acquire => rfl
  | request _ hl' => exact absurd hl (ne_true_of_eq_false hl')
  | fetch | install => exact absurd (hp _ _ rfl) (by simp [LoadStage.isLate])

end Position

namespace Service

/-- What calls that prepare no provider keep up among themselves. -/
structure Orderly (y : Service σ α) : Prop where
  plain : ∀ p ∈ y.calls, p.Obeys .plain
  exclusive : y.Exclusive
  /-- Before the data have been loaded, no call is at them. -/
  outside : y.shared.loaded = false → ∀ p ∈ y.calls, p.isOutside = true
  /-- Once the data have been loaded, no call loads them. -/
  early : y.shared.loaded = true → ∀ stage next, Position.loading stage next ∈ y.calls →
    stage.isLate = false

/-- A step of a plain service is a move of one of its calls. -/
theorem Orderly.move {y z : Service σ α} (hy : y.Orderly) {i : ℕ}
    (h : y.step? backend i = some z) :
    ∃ p q s', y.calls[i]? = some p ∧ Position.Move backend y.free y.shared p q s' ∧
      z = ⟨s', y.calls.set i q⟩ := by
  obtain ⟨p, q, s', hp, hq, rfl⟩ := step?_eq_some h
  exact ⟨p, q, s', hp, Position.move_of_step? (hy.plain p (List.mem_of_getElem? hp)) hq, rfl⟩

/-- At most one call is past the decision to ask the backend. -/
theorem Orderly.eq_of_isLate {y : Service σ α} (hy : y.Orderly) {i j : ℕ}
    {stage stage' : LoadStage} {next next' : Procedure σ α}
    (hi : y.calls[i]? = some (.loading stage next)) (hs : stage.isLate = true)
    (hj : y.calls[j]? = some (.loading stage' next')) (hs' : stage'.isLate = true) : i = j :=
  hy.exclusive hi hj (LoadStage.holds_of_isLate hs) (LoadStage.holds_of_isLate hs')

theorem Orderly.eq_of_saving {y : Service σ α} (hy : y.Orderly) {i j : ℕ}
    {change change' : Change} {a a' : α} (hi : y.calls[i]? = some (.saving change a))
    (hj : y.calls[j]? = some (.saving change' a')) : i = j :=
  hy.exclusive hi hj (l := .data) rfl rfl

/-- A call at the data shows that they have been loaded. -/
theorem Orderly.loaded_of_mem {y : Service σ α} (hy : y.Orderly) {p : Position σ α}
    (hp : p ∈ y.calls) (h : p.isOutside = false) : y.shared.loaded = true := by
  cases hl : y.shared.loaded with
  | true => rfl
  | false => exact absurd (hy.outside hl p hp) (ne_true_of_eq_false h)

/-- A call at work on a load shows that the data have not been loaded. -/
theorem Orderly.not_loaded_of_mem {y : Service σ α} (hy : y.Orderly) {stage : LoadStage}
    {next : Procedure σ α} (hp : Position.loading stage next ∈ y.calls)
    (h : stage.isLate = true) : y.shared.loaded = false := by
  cases hl : y.shared.loaded with
  | true => exact absurd h (ne_true_of_eq_false (hy.early hl stage next hp))
  | false => rfl

/-- **A step keeps calls orderly.** -/
theorem Orderly.step {y z : Service σ α} (hy : y.Orderly) {i : ℕ}
    (h : y.step? backend i = some z) : z.Orderly := by
  have hexclusive := hy.exclusive.step h
  have hplain := forall_obeys_of_step hy.plain h
  obtain ⟨p, q, s', hp, hmove, rfl⟩ := hy.move h
  have hpmem := List.mem_of_getElem? hp
  refine ⟨hplain, hexclusive, fun hl p' hp' => ?_, fun hl stage next hmem => ?_⟩
  · -- what is not loaded now has not been loaded before
    have hyl : y.shared.loaded = false := by
      cases hyl : y.shared.loaded with
      | true => exact absurd (hmove.loaded hyl) (ne_true_of_eq_false hl)
      | false => rfl
    rcases List.mem_or_eq_of_mem_set hp' with hp' | rfl
    · exact hy.outside hyl p' hp'
    · exact hmove.isOutside hl (hy.outside hyl p hpmem)
  · rcases mem_set_cases hmem with rfl | ⟨j, hj, hold⟩
    · cases hyl : y.shared.loaded with
      | true => exact hmove.isLate_of_loaded hyl fun _ _ hp' => hy.early hyl _ _ (hp' ▸ hpmem)
      | false =>
        -- the only move that lets everyone know leaves the load
        cases hmove with
        | enter | queue | acquire => rfl
        | request | fetch | install => exact absurd hl (ne_true_of_eq_false hyl)
    · cases hyl : y.shared.loaded with
      | true => exact hy.early hyl stage next (List.mem_of_getElem? hold)
      | false =>
        cases hmove with
        | announce =>
          -- the gate kept others from being at work on the load
          exact Bool.eq_false_iff.2 fun hlate => hj (hy.eq_of_isLate hold hlate hp rfl)
        | _ => exact absurd hl (ne_true_of_eq_false hyl)

/-- Procedures that load the data first, and prepare no provider, are orderly where they begin. -/
theorem orderly_start (s : Shared σ) {procedures : List (Procedure σ α)}
    (h : ∀ p ∈ procedures, ∃ next, p = .load next ∧ next.Obeys .plain) :
    (start s procedures).Orderly := by
  have hmem : ∀ p ∈ (start s procedures).calls,
      ∃ next : Procedure σ α, p = .before (.load next) ∧ next.Obeys .plain := by
    intro p hp
    obtain ⟨procedure, hprocedure, rfl⟩ := List.mem_map.1 hp
    obtain ⟨next, rfl, hnext⟩ := h procedure hprocedure
    exact ⟨next, rfl, hnext⟩
  refine ⟨fun p hp => ?_, exclusive_start s procedures, fun _ p hp => ?_,
    fun _ stage next hp => ?_⟩
  · obtain ⟨next, rfl, hnext⟩ := hmem p hp
    exact hnext
  · obtain ⟨next, rfl, -⟩ := hmem p hp
    rfl
  · obtain ⟨next', heq, -⟩ := hmem _ hp
    cases heq

end Service

end SignIn
