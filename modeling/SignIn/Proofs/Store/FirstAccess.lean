import SignIn.Proofs.Service.FirstLoad
import SignIn.Proofs.Store.Writes

/-!
# First access to a store

However many calls find a store without its data, and however they take turns, and whichever loads
fail: `Store.FirstAccess` says what happens, and `Store.firstAccess_turns` that it does. In
particular nobody becomes the owner of a store on the ground that its users have not been loaded.
-/

namespace SignIn

variable {σ α : Type} {backend : Backend σ}

namespace Service

/-- Before the data have been loaded, a call that has ended has failed to load them itself. -/
theorem Orderly.load_of_result? {y : Service σ α} (hy : y.Orderly)
    (hstart : ∀ i, y.result? i = none) (order : List ℕ)
    (hl : (y.turns backend order).shared.loaded = false) {i : ℕ} {r : Except Failure α}
    (hr : (y.turns backend order).result? i = some r) :
    ∃ e, r = .error e ∧ (i, .load (.error e)) ∈ y.journal backend order := by
  revert hl i r
  refine (journal_keeps (P := fun z log => z.Orderly ∧ (z.shared.loaded = false → ∀ i r,
    z.result? i = some r → ∃ e, r = .error e ∧ (i, Deed.load (.error e)) ∈ log)) ?_
    ⟨hy, fun _ i r hr => by simp [hstart] at hr⟩ order).2
  rintro y z k log ⟨hy, hold⟩ h
  refine ⟨hy.step h, fun hl i r hr => ?_⟩
  obtain ⟨p, q, s', hk, hmove, rfl⟩ := hy.move h
  have hmem := List.mem_of_getElem? hk
  have hyl : y.shared.loaded = false :=
    Bool.eq_false_iff.2 fun hyl => absurd (hmove.loaded hyl) (ne_true_of_eq_false hl)
  by_cases hik : i = k
  · obtain rfl := hik
    rw [result?_set_self hk rfl] at hr
    have hdeed := deed?_of_step? h hk
    -- with the data still missing, only a refused load can end the call
    cases hmove with
    | enter | queue | acquire | request | fetch | install | commit => cases hr
    | pass _ _ _ hl' => exact absurd hl' (ne_true_of_eq_false hyl)
    | announce => cases hl
    | read | answer | save | rollBack =>
      exact absurd (hy.loaded_of_mem hmem rfl) (ne_true_of_eq_false hyl)
    | refuse next e w hload =>
      cases hr
      refine ⟨e, rfl, List.mem_append_right _ ?_⟩
      simp [hdeed, Position.deed?, LoadStage.deed?, hload]
  · rw [result?_set_of_ne rfl hik] at hr
    obtain ⟨e, rfl, hlog⟩ := hold hyl i r hr
    exact ⟨e, rfl, List.mem_append_left _ hlog⟩

end Service

namespace Store

/-- What calls that come to a store without its data find out: how they stand after some turns, and
the journal up to then. The first state is the one that they have come to. -/
structure FirstAccess (s : Shared σ) (y : Service σ Reply) (log : Journal) : Prop where
  /-- One call at a time has the backend load the data. -/
  alone : ∀ (i j : ℕ) (p q : Position σ Reply), y.calls[i]? = some p → y.calls[j]? = some q →
    p.stake? = some .asking → q.stake? = some .asking → i = j
  /-- One load at most succeeds, and is the last. Nothing is done with the data before that, or
  before they have been put into memory. -/
  ordered : log.IsFirstLoad
  /-- A load that fails is returned to the call that has made it. -/
  returned : ∀ i e, (i, .load (.error e)) ∈ log → y.result? i = some (.error e)
  /-- It is returned to no other call: until the data have been loaded, none ends in another way. -/
  others : y.shared.loaded = false → ∀ i r, y.result? i = some r →
    ∃ e, r = .error e ∧ (i, .load (.error e)) ∈ log
  /-- It leaves everything as it was. -/
  untouched : (∀ i d, (i, .install d) ∉ log) →
    y.shared.loaded = false ∧ y.shared.directory = s.directory
  /-- An owner is made only once all users who have been loaded have been removed. -/
  heirs : ∀ before i d u after, log = before ++ (i, .change d (.addUser u)) :: after →
    u.isOwner = true → d.users = [] ∧ ∃ j d₀, (j, .load (.ok d₀)) ∈ before ∧
      ∀ v ∈ d₀.users, ∃ k snapshot n w,
        (k, .save snapshot (.removeUser n w) (.ok ())) ∈ before ∧ w.id = v.id

variable {calls : List (Call σ)} {log : Journal}

/-- **Users who have been loaded are there until they are removed.** -/
theorem removed_of_lawful {d₀ d : Directory} (h : Journal.Lawful (Alter calls) (some d₀) log)
    (hd : Journal.secured (some d₀) log = some d) (hempty : d.users = []) {v : User}
    (hv : v ∈ d₀.users) : ∃ k snapshot n w,
      (k, .save snapshot (.removeUser n w) (.ok ())) ∈ log ∧ w.id = v.id := by
  by_contra hnone
  obtain ⟨d', hd', u, hu, -⟩ := h.keeps (P := fun d => ∃ u ∈ d.users, u.id = v.id) ⟨v, hv, rfl⟩
    fun k d' c hmem hc hd' => by
      refine Directory.exists_id_apply hd' hc.fits ?_
      rintro n w rfl hid
      exact hnone ⟨k, _, n, w, hmem, hid⟩
  cases hd.symm.trans hd'
  rw [hempty] at hu
  cases hu

/-- An owner is made only once all users who have been loaded are removed. -/
private theorem heirs_of_lawful {before after : Journal} {i : ℕ} {d : Directory} {u : User}
    (h : Journal.Lawful (Alter calls) none (before ++ (i, .change d (.addUser u)) :: after))
    (howner : u.isOwner = true) : d.users = [] ∧ ∃ j d₀, (j, .load (.ok d₀)) ∈ before ∧
      ∀ v ∈ d₀.users, ∃ k snapshot n w,
        (k, .save snapshot (.removeUser n w) (.ok ())) ∈ before ∧ w.id = v.id := by
  obtain ⟨hd, halter⟩ := h before i _ after rfl
  have hempty : d.users = [] := by
    rw [← List.isEmpty_iff, ← halter.ordains.1]
    exact howner
  have hbefore := h.of_append_left
  obtain ⟨first, j, d₀, rest, rfl⟩ := Journal.exists_load hd
  obtain ⟨hrest, hsecured⟩ := hbefore.of_load
  refine ⟨hempty, j, d₀, by simp, fun v hv => ?_⟩
  obtain ⟨k, snapshot, n, w, hmem, hid⟩ :=
    removed_of_lawful hrest (hsecured.symm.trans hd) hempty hv
  exact ⟨k, snapshot, n, w, by simp [hmem], hid⟩

/-- **First access to a store**, with any calls that take turns in any order: one call at a time
asks the backend, as long as it fails, and each failure is the answer of the call that has asked;
nothing is done with the data before, and nothing is loaded after. -/
theorem firstAccess_turns {s : Shared σ} (hl : s.loaded = false) (calls : List (Call σ))
    (order : List ℕ) : FirstAccess s ((opening s calls).turns backend order)
      ((opening s calls).journal backend order) := by
  have hfirst : ((opening s calls).turns backend order).FirstLoad s
      ((opening s calls).journal backend order) := by
    refine (Service.firstLoad_start hl fun p hp => ?_).turns order
    obtain ⟨c, -, rfl⟩ := List.mem_map.1 hp
    exact c.isGuarded_procedure
  obtain ⟨hlawful, -⟩ := course_turns backend s calls order
  rw [Shared.data?, hl] at hlawful
  have hstart : ∀ i, (opening s calls).result? i = none := by
    intro i
    rw [opening, Service.start, Service.result?, List.map_map, List.getElem?_map]
    cases calls[i]? with
    | none => rfl
    | some c =>
      simp only [Option.map_some, Function.comp_apply, Call.procedure_eq]
      rfl
  exact {
    alone := fun i j p q hi hj => hfirst.eq_of_asking hi hj
    ordered := hfirst.isFirstLoad
    returned := hfirst.returned
    others := fun hy i r => (orderly_opening s calls).load_of_result? hstart order hy
    untouched := hfirst.untouched
    heirs := fun before i d u after hlog => heirs_of_lawful (hlog ▸ hlawful) }

/-- A store whose backend holds an owner, and whose first load will fail. -/
def inherited : Shared (List Bool × Directory) :=
  { world := ([false], { users := [User.create "u0" true true none] }) }

/-- Three people log in at once. The load of the first fails, and nobody becomes owner. -/
theorem firstAccess_turns_arrivals :
    inherited.loaded = false ∧
      FirstAccess inherited ((opening inherited arrivals).turns archive rushTurns)
        ((opening inherited arrivals).journal archive rushTurns) ∧
      ((opening inherited arrivals).turns archive rushTurns).shared.directory.roster.map
        (fun v => (v.id, v.isOwner)) = [("u0", true), ("u2", false), ("u3", false)] :=
  ⟨rfl, firstAccess_turns rfl arrivals rushTurns, by decide +kernel⟩

end Store

end SignIn
