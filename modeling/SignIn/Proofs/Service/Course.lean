import SignIn.Proofs.Service.Journal

/-!
# The course of the data

In a run of guarded calls the data in memory follow those that are safe with the backend. Whatever
is not safe yet is at stake for one call (`Stake.Tallies`): the data that it has been handed, or the
change that it has made and that is being saved. `Service.Course` is the invariant, where `R i` is
the sort of changes that the call `i` can decide on; `Service.Course.step` is its step, and
`Service.Course.turns` says of a run that its journal is lawful and where it has led.
-/

namespace SignIn

variable {σ α : Type} {backend : Backend σ}

/-- The data in memory, if they have been loaded. -/
def Shared.data? (s : Shared σ) : Option Directory := if s.loaded then some s.directory else none

/-- What a call has at stake tallies with the data that are safe, where changes are of some sort. -/
def Stake.Tallies (R : Directory → Change → Prop) (directory : Directory)
    (d? : Option Directory) : Stake → Prop
  | .asking => d? = none
  | .installing d => d? = some d
  | .announcing => d? = some directory
  | .saving c => ∃ d, d? = some d ∧ directory = c.apply d ∧ R d c

namespace Position

/-- What there is tallies with the data that are safe, if nobody but this call has anything at
stake. -/
def Tallies (R : Directory → Change → Prop) (s : Shared σ) (d? : Option Directory)
    (p : Position σ α) : Prop :=
  match p.stake? with
  | none => d? = s.data?
  | some stake => stake.Tallies R s.directory d?

variable {R : Directory → Change → Prop} {free : Lock → Bool} {s s' : Shared σ}
  {d? : Option Directory} {p q : Position σ α} {deed? : Option Deed}

private theorem tallies_of_none (h : p.stake? = none) : p.Tallies R s d? ↔ d? = s.data? := by
  rw [Tallies, h]

private theorem tallies_of_some {stake : Stake} (h : p.stake? = some stake) :
    p.Tallies R s d? ↔ stake.Tallies R s.directory d? := by
  rw [Tallies, h]

/-- A call at the data has nothing at stake. -/
theorem stake?_of_isAtData (h : p.isAtData = true) : p.stake? = none := by
  cases p with
  | before => rfl
  | loading | saving => cases h
  | preparing key hook stage next =>
    cases stage with
    | reading => rfl
    | arriving | atGate | inGate | running | consulting => cases h

/-- The change that a call makes is one that it can decide on. -/
private theorem Obeys.of_deed? {d : Directory} {c : Change} (hp : p.Obeys (.commits R))
    (h : p.deed? backend s = some (.change d c)) : R d c := by
  have hload : ∀ stage : LoadStage, stage.deed? backend s ≠ some (.change d c) := by
    intro stage
    cases stage <;> exact nofun
  cases p with
  | loading stage next => exact absurd h (hload stage)
  | saving => cases h
  | before p =>
    cases p with
    | finish | load | prepare | read => cases h
    | write decide =>
      simp only [Position.deed?, Option.some.injEq] at h
      cases hdecide : decide s.directory with
      | answer r =>
        rw [hdecide] at h
        cases h
      | commit c' a =>
        rw [hdecide] at h
        cases h
        exact Decision.obeys_commits.1 (hp s.directory) c a hdecide
  | preparing key hook stage next =>
    cases stage with
    | consulting stage => exact absurd h (hload stage)
    | arriving | atGate | inGate | running | reading => cases h

/-- **The data that are safe after a step of a call**, if nobody else has anything at stake. -/
theorem Tallies.step (h : p.Tallies R s d?) (hR : ∀ d c, R d c → c.Fits d)
    (hchange : ∀ d c, deed? = some (.change d c) → R d c)
    (hdata : p.isAtData = true → s.loaded = true)
    (hstake : ∀ stake, p.stake? = some stake → s.loaded = !stake.isLoad)
    (hact : Act backend free s p q s' deed?) :
    (∀ deed, deed? = some deed → deed.Lawful R d?) ∧
      q.Tallies R s' (deed?.elim d? (·.secure d?)) := by
  cases hact with
  | aside w hp hq _ hs =>
    rw [tallies_of_none hp] at h
    refine ⟨by rintro _ ⟨⟩, ?_⟩
    rcases hq with hq | ⟨hq, hl⟩
    · rwa [tallies_of_none hq, Shared.data?, hs.loaded, hs.directory]
    · rw [tallies_of_some hq]
      rwa [Shared.data?, hl] at h
  | refuse e w hp hq _ hs =>
    rw [tallies_of_some hp] at h
    refine ⟨by rintro _ ⟨⟩; exact h, ?_⟩
    have hl : s'.loaded = false := hs.loaded.trans (hstake _ hp)
    rw [tallies_of_none (stake?_of_result? hq), Shared.data?, hl]
    exact h
  | fetch d w hp hq =>
    rw [tallies_of_some hp] at h
    refine ⟨by rintro _ ⟨⟩; exact h, ?_⟩
    rw [tallies_of_some hq]
    rfl
  | install d hp hq hs =>
    rw [tallies_of_some hp] at h
    refine ⟨by rintro _ ⟨⟩; exact h, ?_⟩
    rw [tallies_of_some hq, hs.directory]
    exact h
  | announce hp hq hs =>
    rw [tallies_of_some hp] at h
    refine ⟨by rintro _ ⟨⟩, ?_⟩
    rw [tallies_of_none hq, Shared.data?, hs.loaded, hs.directory]
    exact h
  | look hp hq _ hs =>
    rw [tallies_of_none (stake?_of_isAtData hp)] at h
    refine ⟨?_, ?_⟩
    · rintro _ ⟨⟩
      rwa [Shared.data?, hdata hp] at h
    · rw [tallies_of_none hq, Shared.data?, hs.loaded, hs.directory]
      exact h
  | change c hp hq _ hs =>
    rw [tallies_of_none (stake?_of_isAtData hp), Shared.data?, hdata hp] at h
    have hc := hchange s.directory c rfl
    refine ⟨by rintro _ ⟨⟩; exact ⟨h, hc⟩, ?_⟩
    rw [tallies_of_some hq, hs.directory]
    exact ⟨s.directory, h, rfl, hc⟩
  | save c a w hp hq _ hs =>
    rw [tallies_of_some hp] at h
    refine ⟨by rintro _ ⟨⟩; exact h, ?_⟩
    obtain ⟨d, rfl, heq, -⟩ := h
    have hl : s'.loaded = true := hs.loaded.trans (hstake _ hp)
    rw [tallies_of_none (stake?_of_result? hq), Shared.data?, hl, hs.directory, heq]
    rfl
  | rollBack c e w hp hq _ hs =>
    rw [tallies_of_some hp] at h
    refine ⟨by rintro _ ⟨⟩; exact h, ?_⟩
    obtain ⟨d, rfl, heq, hc⟩ := h
    have hl : s'.loaded = true := hs.loaded.trans (hstake _ hp)
    -- taking the change back leads to the data that are safe
    have hundo : s'.directory = d := by rw [hs.directory, heq, Change.undo_apply (hR d c hc)]
    rw [tallies_of_none (stake?_of_result? hq), Shared.data?, hl, hundo]
    rfl

end Position

namespace Service

variable {y z : Service σ α} {i j : ℕ} {p q : Position σ α}

/-- While a call has something at stake, others leave the data alone. -/
theorem Gated.aside_of_stake? (hy : y.Gated) (h : y.step? backend i = some z) (hij : j ≠ i)
    (hj : y.calls[j]? = some p) {stake : Stake} (hp : p.stake? = some stake) :
    y.deed? backend i = none ∧ z.calls[j]? = some p ∧ z.shared.loaded = y.shared.loaded ∧
      z.shared.directory = y.shared.directory := by
  have hz := hy.step h
  obtain ⟨p', q', s', hi, -, hact, rfl⟩ := act_of_step? h
  have hj' : (y.calls.set i q')[j]? = some p := by rwa [List.getElem?_set_ne (Ne.symm hij)]
  have hp' : ∀ stake', p'.stake? ≠ some stake' :=
    fun stake' h' => hij (hy.eq_of_stake? hj hi hp h')
  have hq' : ∀ stake', q'.stake? ≠ some stake' := by
    intro stake' h'
    obtain ⟨hlt, -⟩ := List.getElem?_eq_some_iff.1 hi
    exact hij (hz.eq_of_stake? hj' (List.getElem?_set_self hlt) hp h')
  have hbusy : p'.isAtData = true → y.free .data = true → False := by
    intro hdata hf
    have hl := hy.loaded_of_isAtData (List.mem_of_getElem? hi) hdata
    cases (hy.stake?_eq_none hl hf (List.mem_of_getElem? hj)).symm.trans hp
  have hdeed := deed?_of_step? h hi
  generalize p'.deed? backend y.shared = deed? at hact hdeed
  cases hact with
  | aside w _ _ _ hs => exact ⟨hdeed, hj', hs.loaded, hs.directory⟩
  | look hdata _ hf => exact (hbusy hdata hf).elim
  | change c _ hsaving => exact absurd hsaving (hq' _)
  | refuse _ _ hs | fetch _ _ hs | install _ hs | announce hs | save _ _ _ hs
  | rollBack _ _ _ hs => exact absurd hs (hp' _)

/-- What guarded calls keep up with the data that are safe. The changes that the call `i` can decide
on are of the sort `R i`. -/
structure Course (R : ℕ → Directory → Change → Prop) (y : Service σ α)
    (d? : Option Directory) : Prop where
  gated : y.Gated
  commits : ∀ ⦃i : ℕ⦄ ⦃p : Position σ α⦄, y.calls[i]? = some p → p.Obeys (.commits (R i))
  /-- Whatever is not safe yet is at stake for somebody. -/
  idle : (∀ p ∈ y.calls, p.stake? = none) → d? = y.shared.data?
  busy : ∀ ⦃i : ℕ⦄ ⦃p : Position σ α⦄ ⦃stake : Stake⦄, y.calls[i]? = some p →
    p.stake? = some stake → stake.Tallies (R i) y.shared.directory d?

variable {R : ℕ → Directory → Change → Prop} {d? : Option Directory}

theorem course_start (s : Shared σ) {procedures : List (Procedure σ α)}
    (hguarded : ∀ p ∈ procedures, p.IsGuarded)
    (hcommits : ∀ ⦃i : ℕ⦄ ⦃p : Procedure σ α⦄, procedures[i]? = some p →
      p.Obeys (.commits (R i))) : (start s procedures).Course R s.data? := by
  refine ⟨gated_start s hguarded, fun i p hp => obeys_start (@hcommits i) hp, fun _ => rfl,
    fun i p stake hp hs => ?_⟩
  rw [start, List.getElem?_map] at hp
  obtain ⟨procedure, -, rfl⟩ := Option.map_eq_some_iff.1 hp
  cases hs

/-- Where nobody else has anything at stake, what there is tallies with the data that are safe. -/
private theorem Course.tallies (hy : y.Course R d?) (hi : y.calls[i]? = some p)
    (halone : ∀ j p', j ≠ i → y.calls[j]? = some p' → p'.stake? = none) :
    p.Tallies (R i) y.shared d? := by
  cases hs : p.stake? with
  | some stake =>
    rw [Position.tallies_of_some hs]
    exact hy.busy hi hs
  | none =>
    rw [Position.tallies_of_none hs]
    refine hy.idle fun p' hp' => ?_
    obtain ⟨j, hj⟩ := List.mem_iff_getElem?.1 hp'
    by_cases hij : j = i
    · obtain rfl := hij
      cases hi.symm.trans hj
      exact hs
    · exact halone j p' hij hj

/-- **A step keeps the course of the data**, and does only what is lawful. -/
theorem Course.step (hy : y.Course R d?) (hR : ∀ i d c, R i d c → c.Fits d)
    (h : y.step? backend i = some z) :
    (∀ deed, y.deed? backend i = some deed → deed.Lawful (R i) d?) ∧
      z.Course R (Journal.secured d? (.entry i (y.deed? backend i))) := by
  have hz := hy.gated.step h
  have hcommits : ∀ ⦃j : ℕ⦄ ⦃p : Position σ α⦄, z.calls[j]? = some p → p.Obeys (.commits (R j)) :=
    fun j p => obeys_of_step (@hy.commits j) h
  obtain ⟨p, q, s', hi, -, hact, rfl⟩ := act_of_step? h
  have hmem := List.mem_of_getElem? hi
  by_cases hother : ∃ j p' stake, j ≠ i ∧ y.calls[j]? = some p' ∧ p'.stake? = some stake
  · -- the call that has something at stake keeps it
    obtain ⟨j, p', stake, hij, hj, hstake⟩ := hother
    obtain ⟨hdeed, hj', -, hdirectory⟩ := hy.gated.aside_of_stake? h hij hj hstake
    rw [hdeed]
    refine ⟨by rintro _ ⟨⟩, hz, hcommits, fun hidle => ?_, fun k p'' stake'' hk hs => ?_⟩
    · cases (hidle p' (List.mem_of_getElem? hj')).symm.trans hstake
    · obtain rfl := hz.eq_of_stake? hk hj' hs hstake
      cases hj'.symm.trans hk
      cases hstake.symm.trans hs
      rw [hdirectory]
      exact hy.busy hj hstake
  · -- nobody else has anything at stake, so that the step is checked by itself
    have halone : ∀ j p', j ≠ i → y.calls[j]? = some p' → p'.stake? = none := by
      intro j p' hij hj
      refine Option.eq_none_iff_forall_ne_some.2 fun stake hstake => ?_
      exact hother ⟨j, p', stake, hij, hj, hstake⟩
    obtain ⟨hlawful, htallies⟩ := (hy.tallies hi halone).step (hR i)
      (fun d c hdeed => (hy.commits hi).of_deed? hdeed) (hy.gated.loaded_of_isAtData hmem)
      (fun _ => hy.gated.loaded_of_stake? hmem) hact
    rw [deed?_of_step? h hi, Journal.secured_entry]
    refine ⟨hlawful, hz, hcommits, fun hidle => ?_, fun k p' stake hk hs => ?_⟩
    · exact (Position.tallies_of_none (hidle q (mem_set_self hi))).1 htallies
    · rcases getElem?_set_cases hk with ⟨rfl, rfl⟩ | ⟨hij, hold⟩
      · exact (Position.tallies_of_some hs).1 htallies
      · cases (halone k p' hij hold).symm.trans hs

/-- **The course of the data in a run**: the journal is lawful, and where it has led is where the
data are. -/
theorem Course.turns (hy : y.Course R d?) (hR : ∀ i d c, R i d c → c.Fits d)
    (backend : Backend σ) (order : List ℕ) :
    Journal.Lawful R d? (y.journal backend order) ∧
      (y.turns backend order).Course R (Journal.secured d? (y.journal backend order)) := by
  refine journal_keeps (P := fun z log => Journal.Lawful R d? log ∧
    z.Course R (Journal.secured d? log)) ?_ ⟨Journal.lawful_nil, hy⟩ order
  rintro y z i log ⟨hlawful, hcourse⟩ h
  obtain ⟨hdeed, hz⟩ := hcourse.step hR h
  refine ⟨hlawful.concat hdeed, ?_⟩
  rw [Journal.secured_append]
  exact hz

/-- Data that are there and that nobody is changing are safe. -/
theorem Course.eq_of_free (hy : y.Course R d?) (hl : y.shared.loaded = true)
    (hf : y.free .data = true) : d? = some y.shared.directory := by
  rw [hy.idle fun p hp => hy.gated.stake?_eq_none hl hf hp, Shared.data?, if_pos hl]

/-- The data in memory are safe, but for one change that may have been made to them. -/
theorem Course.directory_cases (hy : y.Course R d?) (hl : y.shared.loaded = true) :
    ∃ d, d? = some d ∧ (y.shared.directory = d ∨
      ∃ (i : ℕ) (p : Position σ α) (c : Change), y.calls[i]? = some p ∧
        p.stake? = some (.saving c) ∧ y.shared.directory = c.apply d ∧ R i d c) := by
  by_cases hother : ∃ (i : ℕ) (p : Position σ α) (stake : Stake),
      y.calls[i]? = some p ∧ p.stake? = some stake
  · obtain ⟨i, p, stake, hi, hs⟩ := hother
    have hload := hy.gated.settled hl p (List.mem_of_getElem? hi) stake hs
    cases stake with
    | asking | installing | announcing => cases hload
    | saving c =>
      obtain ⟨d, hd, heq, hc⟩ := hy.busy hi hs
      exact ⟨d, hd, Or.inr ⟨i, p, c, hi, hs, heq, hc⟩⟩
  · have hidle := hy.idle fun p hp => Option.eq_none_iff_forall_ne_some.2 fun stake hs => by
      obtain ⟨i, hi⟩ := List.mem_iff_getElem?.1 hp
      exact hother ⟨i, p, stake, hi, hs⟩
    rw [Shared.data?, if_pos hl] at hidle
    exact ⟨y.shared.directory, hidle, Or.inl rfl⟩

end Service

end SignIn
