import SignIn.Proofs.Service.Course

/-!
# The first load of the data

Calls that find the data missing load them one at a time. A load that fails ends the call that has
made it; one that succeeds puts the data into memory, and is the last. `Journal.IsFirstLoad` is what
this makes of the journal of a run: loads that fail, of a call each, then at most one that succeeds,
then its data are put into memory by the same call, and only then anything is done with them.

`Service.FirstLoad` is the invariant behind it, with the stages of it in `Service.Loading`.
-/

namespace SignIn

variable {σ α : Type} {backend : Backend σ}

/-- Whether a deed does something with data that are in memory. -/
def Deed.isUse : Deed → Bool
  | .load _ | .install _ => false
  | .look _ | .change _ _ | .save _ _ _ => true

namespace Journal

/-- Loads that have failed, with the calls that have made them. -/
def refusals (failed : List (ℕ × Failure)) : Journal :=
  failed.map fun x => (x.1, .load (.error x.2))

/-- Loads that fail, each made by a call of its own; at most one load that succeeds; the data put
into memory by the call that has made it; and whatever is done with them. -/
def IsFirstLoad (log : Journal) : Prop :=
  ∃ failed rest, log = refusals failed ++ rest ∧ (failed.map Prod.fst).Nodup ∧
    (rest = [] ∨ ∃ i d, rest = [(i, .load (.ok d))] ∨
      ∃ uses, rest = (i, .load (.ok d)) :: (i, .install d) :: uses ∧ ∀ x ∈ uses, x.2.isUse = true)

private theorem mem_refusals {failed : List (ℕ × Failure)} {i : ℕ} {deed : Deed} :
    (i, deed) ∈ refusals failed ↔ ∃ e, deed = .load (.error e) ∧ (i, e) ∈ failed := by
  simp only [refusals, List.mem_map, Prod.mk.injEq]
  constructor
  · rintro ⟨⟨j, e⟩, hmem, rfl, rfl⟩
    exact ⟨e, rfl, hmem⟩
  · rintro ⟨e, rfl, hmem⟩
    exact ⟨(i, e), hmem, rfl, rfl⟩

end Journal

namespace Service

/-- How far calls have come with loading the data, and what the journal says of it after the loads
that have failed. The state is the one at the beginning. -/
inductive Loading (s : Shared σ) (y : Service σ α) : Journal → Prop
  /-- The data are still to be loaded. -/
  | missing (hl : y.shared.loaded = false) (hd : y.shared.directory = s.directory)
      (hs : ∀ p ∈ y.calls, ∀ stake, p.stake? = some stake → stake = .asking) : Loading s y []
  /-- A call has been handed the data. -/
  | fetched (i : ℕ) (d : Directory) (p : Position σ α) (hl : y.shared.loaded = false)
      (hd : y.shared.directory = s.directory) (hi : y.calls[i]? = some p)
      (hp : p.stake? = some (.installing d)) : Loading s y [(i, .load (.ok d))]
  /-- It has put them into memory. -/
  | installed (i : ℕ) (d : Directory) (p : Position σ α) (hl : y.shared.loaded = false)
      (hi : y.calls[i]? = some p) (hp : p.stake? = some .announcing) :
      Loading s y [(i, .load (.ok d)), (i, .install d)]
  /-- Everyone knows. -/
  | done (i : ℕ) (d : Directory) (uses : Journal) (hl : y.shared.loaded = true)
      (huses : ∀ x ∈ uses, x.2.isUse = true) :
      Loading s y ((i, .load (.ok d)) :: (i, .install d) :: uses)

/-- What calls keep up among themselves from the beginning, before the data have been loaded. The
journal is split at the first load that succeeds: failures come before it, and everything that is
done with the data comes after. -/
structure FirstLoad (s : Shared σ) (y : Service σ α) (log : Journal) : Prop where
  gated : y.Gated
  /-- A load that fails ends the call that has made it. -/
  returned : ∀ i e, (i, .load (.error e)) ∈ log → y.result? i = some (.error e)
  stage : ∃ failed rest, log = .refusals failed ++ rest ∧ (failed.map Prod.fst).Nodup ∧
    y.Loading s rest

variable {s : Shared σ} {y z : Service σ α} {i : ℕ} {log rest : Journal}

theorem firstLoad_start (hl : s.loaded = false) {procedures : List (Procedure σ α)}
    (h : ∀ p ∈ procedures, p.IsGuarded) : (start s procedures).FirstLoad s [] := by
  refine ⟨gated_start s h, by simp, [], [], rfl, List.nodup_nil, .missing hl rfl ?_⟩
  intro p hp stake hs
  obtain ⟨procedure, -, rfl⟩ := List.mem_map.1 hp
  cases hs

/-- A load that fails is returned to the call that has made it. -/
private theorem FirstLoad.returned_step (hy : y.FirstLoad s log)
    (h : y.step? backend i = some z) (j : ℕ) (e : Failure)
    (hmem : (j, Deed.load (.error e)) ∈ log ++ .entry i (y.deed? backend i)) :
    z.result? j = some (.error e) := by
  have hend := result?_of_step? h
  obtain ⟨p, q, s', hi, -, hact, rfl⟩ := act_of_step? h
  rw [deed?_of_step? h hi] at hmem
  rcases List.mem_append.1 hmem with hmem | hmem
  · have hresult := hy.returned j e hmem
    rw [result?_set_of_ne rfl (i := i) (q := q)]
    · exact hresult
    · rintro rfl
      cases hend.symm.trans hresult
  · cases hdeed : p.deed? backend y.shared with
    | none =>
      rw [hdeed] at hmem
      cases hmem
    | some deed =>
      rw [hdeed, Journal.entry_some, List.mem_singleton] at hmem
      cases hmem
      rw [hdeed] at hact
      rw [result?_set_self hi rfl]
      cases hact with
      | refuse _ _ _ hq => exact hq

variable {p q : Position σ α} {s' : Shared σ} {free : Lock → Bool} {deed? : Option Deed}

/-- What a call has at stake tells how far the load has come. -/
private theorem Loading.eq_of_stake? (hstage : y.Loading s rest) (hy : y.Gated)
    (hi : y.calls[i]? = some p) {stake : Stake} (hp : p.stake? = some stake) :
    match stake with
    | .asking => rest = []
    | .installing d => rest = [(i, .load (.ok d))]
    | .announcing => ∃ d, rest = [(i, .load (.ok d)), (i, .install d)]
    | .saving _ => y.shared.loaded = true := by
  have hmem := List.mem_of_getElem? hi
  cases hstage with
  | missing hl _ hs =>
    obtain rfl := hs p hmem stake hp
    rfl
  | fetched j d p' _ _ hj hp' =>
    obtain rfl := hy.eq_of_stake? hi hj hp hp'
    cases hi.symm.trans hj
    cases hp.symm.trans hp'
    rfl
  | installed j d p' _ hj hp' =>
    obtain rfl := hy.eq_of_stake? hi hj hp hp'
    cases hi.symm.trans hj
    cases hp.symm.trans hp'
    exact ⟨d, rfl⟩
  | done _ _ _ hl =>
    -- once the data are loaded, nobody has anything of a load at stake
    have hload := hy.settled hl p hmem stake hp
    cases stake with
    | asking | installing | announcing => cases hload
    | saving => exact hl

/-- Once the data have been loaded, the load is done. -/
private theorem Loading.concat_of_loaded (hstage : y.Loading s rest)
    (hl : y.shared.loaded = true) (hl' : z.shared.loaded = true) {deed : Deed}
    (hdeed : deed.isUse = true) : z.Loading s (rest ++ [(i, deed)]) := by
  cases hstage with
  | missing hl'' | fetched _ _ _ hl'' | installed _ _ _ hl'' =>
    exact absurd hl (ne_true_of_eq_false hl'')
  | done j d uses _ huses =>
    refine .done j d (uses ++ [(i, deed)]) hl' fun x hx => ?_
    rcases List.mem_append.1 hx with hx | hx
    · exact huses x hx
    · obtain rfl := List.mem_singleton.1 hx
      exact hdeed

/-- Where a call goes on for itself, the load stays where it is. -/
private theorem Loading.aside (hstage : y.Loading s rest) (hi : y.calls[i]? = some p)
    (hp : p.stake? = none) (hq : q.stake? = none ∨ q.stake? = some .asking)
    (hl : s'.loaded = y.shared.loaded) (hd : s'.directory = y.shared.directory) :
    (Service.mk s' (y.calls.set i q)).Loading s rest := by
  have hother : ∀ {j : ℕ} {p' : Position σ α} {stake : Stake}, y.calls[j]? = some p' →
      p'.stake? = some stake → (y.calls.set i q)[j]? = some p' := by
    intro j p' stake hj hp'
    rw [List.getElem?_set_ne, hj]
    rintro rfl
    cases hi.symm.trans hj
    cases hp.symm.trans hp'
  cases hstage with
  | missing hl' hd' hs =>
    refine .missing (hl.trans hl') (hd.trans hd') fun p' hp' stake hstake => ?_
    rcases List.mem_or_eq_of_mem_set hp' with hp' | rfl
    · exact hs p' hp' stake hstake
    · rcases hq with hq | hq <;> cases hq.symm.trans hstake
      rfl
  | fetched j d p' hl' hd' hj hp' =>
    exact .fetched j d p' (hl.trans hl') (hd.trans hd') (hother hj hp') hp'
  | installed j d p' hl' hj hp' => exact .installed j d p' (hl.trans hl') (hother hj hp') hp'
  | done j d uses hl' huses => exact .done j d uses (hl.trans hl') huses

/-- **A step of the first load**: a load fails, or the journal goes on after those that have. -/
private theorem Loading.step (hstage : y.Loading s rest) (hy : y.Gated)
    (hi : y.calls[i]? = some p)
    (hact : Position.Act backend free y.shared p q s' deed?) :
    (∃ e, deed? = some (.load (.error e)) ∧ rest = [] ∧
        (Service.mk s' (y.calls.set i q)).Loading s []) ∨
      (Service.mk s' (y.calls.set i q)).Loading s (rest ++ .entry i deed?) := by
  have hmem := List.mem_of_getElem? hi
  obtain ⟨hlt, -⟩ := List.getElem?_eq_some_iff.1 hi
  have hset : (y.calls.set i q)[i]? = some q := List.getElem?_set_self hlt
  -- what the call has at stake leaves one stage of the load only
  cases hact with
  | aside w hp hq _ hs =>
    rw [Journal.entry_none, List.append_nil]
    exact Or.inr (hstage.aside hi hp (hq.imp_right And.left) hs.loaded hs.directory)
  | refuse e w hp hq _ hs =>
    obtain rfl := hstage.eq_of_stake? hy hi hp
    cases hstage with
    | missing hl hd hstake =>
      refine Or.inl ⟨e, rfl, rfl, .missing (hs.loaded.trans hl) (hs.directory.trans hd) ?_⟩
      intro p' hp' stake hstake'
      rcases List.mem_or_eq_of_mem_set hp' with hp' | rfl
      · exact hstake p' hp' stake hstake'
      · cases (Position.stake?_of_result? hq).symm.trans hstake'
  | fetch d w hp hq _ hs =>
    obtain rfl := hstage.eq_of_stake? hy hi hp
    cases hstage with
    | missing hl hd =>
      exact Or.inr (.fetched i d q (hs.loaded.trans hl) (hs.directory.trans hd) hset hq)
  | install d hp hq hs =>
    obtain rfl := hstage.eq_of_stake? hy hi hp
    cases hstage with
    | fetched _ _ _ hl => exact Or.inr (.installed i d q (hs.loaded.trans hl) hset hq)
  | announce hp hq hs =>
    obtain ⟨d, rfl⟩ := hstage.eq_of_stake? hy hi hp
    exact Or.inr (.done i d [] hs.loaded (by simp))
  | look hp _ _ hs | change _ hp _ _ hs =>
    have hl := hy.loaded_of_isAtData hmem hp
    exact Or.inr (hstage.concat_of_loaded hl (hs.loaded.trans hl) rfl)
  | save _ _ _ hp _ _ hs | rollBack _ _ _ hp _ _ hs =>
    have hl := hy.loaded_of_stake? hmem hp
    exact Or.inr (hstage.concat_of_loaded hl (hs.loaded.trans hl) rfl)

/-- **A step keeps to the order of the first load.** -/
theorem FirstLoad.step (hy : y.FirstLoad s log) (h : y.step? backend i = some z) :
    z.FirstLoad s (log ++ .entry i (y.deed? backend i)) := by
  refine ⟨hy.gated.step h, hy.returned_step h, ?_⟩
  have hend := result?_of_step? h
  obtain ⟨failed, rest, rfl, hnodup, hstage⟩ := hy.stage
  obtain ⟨p, q, s', hi, -, hact, rfl⟩ := act_of_step? h
  rw [deed?_of_step? h hi]
  rcases hstage.step hy.gated hi hact with ⟨e, hdeed, rfl, hstage'⟩ | hstage'
  · -- whoever has failed before has ended, and cannot have made this load
    refine ⟨failed ++ [(i, e)], [], ?_, ?_, hstage'⟩
    · simp [hdeed, Journal.refusals]
    · rw [List.map_append, List.map_singleton, List.nodup_append]
      refine ⟨hnodup, by simp, fun j hj k hk heq => ?_⟩
      obtain rfl := List.mem_singleton.1 hk
      obtain ⟨⟨_, e'⟩, hmem, rfl⟩ := List.mem_map.1 hj
      obtain rfl : _ = k := heq
      have hlog : (_, Deed.load (.error e')) ∈ Journal.refusals failed ++ [] :=
        List.mem_append_left _ (Journal.mem_refusals.2 ⟨e', rfl, hmem⟩)
      cases hend.symm.trans (hy.returned _ _ hlog)
  · exact ⟨failed, rest ++ .entry i (p.deed? backend y.shared), List.append_assoc .., hnodup,
      hstage'⟩

/-- **The first load in a run.** -/
theorem FirstLoad.turns (hy : y.FirstLoad s []) (order : List ℕ) :
    (y.turns backend order).FirstLoad s (y.journal backend order) :=
  journal_keeps (fun _ _ _ _ hy h => hy.step h) hy order

theorem FirstLoad.isFirstLoad (hy : y.FirstLoad s log) : log.IsFirstLoad := by
  obtain ⟨failed, rest, rfl, hnodup, hstage⟩ := hy.stage
  refine ⟨failed, rest, rfl, hnodup, ?_⟩
  cases hstage with
  | missing => exact Or.inl rfl
  | fetched i d => exact Or.inr ⟨i, d, Or.inl rfl⟩
  | installed i d => exact Or.inr ⟨i, d, Or.inr ⟨[], rfl, by simp⟩⟩
  | done i d uses _ huses => exact Or.inr ⟨i, d, Or.inr ⟨uses, rfl, huses⟩⟩

/-- Before data have been put into memory, everything is as at the beginning. -/
theorem FirstLoad.untouched (hy : y.FirstLoad s log) (h : ∀ i d, (i, .install d) ∉ log) :
    y.shared.loaded = false ∧ y.shared.directory = s.directory := by
  obtain ⟨failed, rest, rfl, -, hstage⟩ := hy.stage
  cases hstage with
  | missing hl hd | fetched _ _ _ hl hd => exact ⟨hl, hd⟩
  | installed i d | done i d => exact absurd (by simp) (h i d)

/-- At most one call at a time has the backend load the data. -/
theorem FirstLoad.eq_of_asking (hy : y.FirstLoad s log) {j : ℕ} (hi : y.calls[i]? = some p)
    (hj : y.calls[j]? = some q) (hp : p.stake? = some .asking) (hq : q.stake? = some .asking) :
    i = j :=
  hy.gated.eq_of_stake? hi hj hp hq

end Service

end SignIn
