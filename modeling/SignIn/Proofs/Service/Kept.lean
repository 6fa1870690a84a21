import SignIn.Proofs.Service.Course

/-!
# What the backend keeps

`Backend.Keeps` is what one expects of a backend: it keeps the data that have been saved last, loads
those, and goes on keeping them when a load or a save fails. What else happens in the world, when
providers are prepared, is no concern of it (`Rule.effects`).

With such a backend the data that are safe, as far as calls can know, are those that it keeps:
`Service.Kept.turns`.
-/

namespace SignIn

variable {σ α : Type} {backend : Backend σ}

/-- A backend that keeps the data that were saved last, and loads them. It may fail as it likes, but
a save that fails has kept nothing. -/
structure Backend.Keeps (backend : Backend σ) (kept : σ → Directory) : Prop where
  load : ∀ w d w', backend.load w = (.ok d, w') → d = kept w ∧ kept w' = kept w
  load_error : ∀ w e w', backend.load w = (.error e, w') → kept w' = kept w
  save : ∀ d w w', backend.save d w = (.ok (), w') → kept w' = d
  save_error : ∀ d w e w', backend.save d w = (.error e, w') → kept w' = kept w

/-- However often the data could not be loaded, they are the same. -/
theorem Backend.Keeps.of_retries {kept : σ → Directory} (h : backend.Keeps kept) {w w' : σ}
    (hr : backend.Retries w w') : kept w' = kept w := by
  induction hr with
  | refl => rfl
  | fail _ hl ih => exact (h.load_error _ _ _ hl).trans ih

/-- What a provider is about to do in the world is something that its hook can answer with, and so
of the sort that a call keeps to. -/
private theorem Position.Obeys.of_effect? {E : Effect σ → Prop} {p : Position σ α}
    {effect : Effect σ} (hp : p.Obeys (.effects E)) (h : p.effect? = some effect) : E effect := by
  unfold effect? at h
  split at h <;> cases h
  obtain ⟨hhook, hstage, -⟩ := hp
  exact hhook effect (hstage effect rfl)

/-! ### What is safe is kept -/

namespace Service

variable {y z : Service σ α} {i : ℕ} {kept : σ → Directory} {d? : Option Directory}
  {R : ℕ → Directory → Change → Prop}

/-- The data that are safe, as far as calls know, are those that the backend keeps; and providers
leave them alone. -/
structure Kept (kept : σ → Directory) (y : Service σ α) (d? : Option Directory) : Prop where
  effects : ∀ p ∈ y.calls, p.Obeys (.effects fun effect => ∀ w, kept (effect w).2 = kept w)
  kept : ∀ d, d? = some d → kept y.shared.world = d

/-- **A step leads to data that the backend keeps.** -/
theorem Kept.step (hkept : y.Kept kept d?) (hbackend : backend.Keeps kept)
    (hlawful : ∀ deed, y.deed? backend i = some deed → deed.Lawful (R i) d?)
    (h : y.step? backend i = some z) :
    z.Kept kept (Journal.secured d? (.entry i (y.deed? backend i))) := by
  have heffects := forall_obeys_of_step hkept.effects h
  obtain ⟨p, q, s', hi, -, hact, rfl⟩ := act_of_step? h
  have hp := hkept.effects p (List.mem_of_getElem? hi)
  have hsafe := hkept.kept
  refine ⟨heffects, ?_⟩
  rw [deed?_of_step? h hi] at hlawful ⊢
  generalize p.deed? backend y.shared = deed? at hact hlawful
  rw [Journal.secured_entry]
  intro d hd
  cases hact with
  | aside w _ _ hw hs =>
    rw [hs.world]
    rcases hw with rfl | ⟨effect, heffect, rfl⟩
    · exact hsafe d hd
    · exact (hp.of_effect? heffect _).trans (hsafe d hd)
  | refuse e w _ _ hload hs =>
    rw [hs.world]
    exact (hbackend.load_error _ _ _ hload).trans (hsafe d hd)
  | fetch d' w _ _ hload hs =>
    obtain ⟨hd', hw⟩ := hbackend.load _ _ _ hload
    cases hd
    rw [hs.world]
    exact hw.trans hd'.symm
  | install d' _ _ hs | announce _ _ hs | look _ _ _ hs | change c _ _ _ hs =>
    rw [hs.world]
    exact hsafe d hd
  | save c a w _ _ hsave hs =>
    -- by the journal, the snapshot is the safe data with the change made
    obtain ⟨d', rfl, hsnapshot, -⟩ := hlawful _ rfl
    cases hd
    rw [hs.world]
    exact (hbackend.save _ _ _ hsave).trans hsnapshot
  | rollBack c e w _ _ hsave hs =>
    rw [hs.world]
    exact (hbackend.save_error _ _ _ _ hsave).trans (hsafe d hd)

/-- **What is safe in the end of a run is what the backend keeps.** -/
theorem Kept.turns (hkept : y.Kept kept d?) (hbackend : backend.Keeps kept)
    (hy : y.Course R d?) (hR : ∀ i d c, R i d c → c.Fits d) (order : List ℕ) :
    (y.turns backend order).Kept kept (Journal.secured d? (y.journal backend order)) := by
  refine (journal_keeps (P := fun z log => z.Course R (Journal.secured d? log) ∧
    z.Kept kept (Journal.secured d? log)) ?_ ⟨hy, hkept⟩ order).2
  rintro y z i log ⟨hy, hkept⟩ h
  obtain ⟨hlawful, hz⟩ := hy.step hR h
  rw [Journal.secured_append]
  exact ⟨hz, hkept.step hbackend hlawful h⟩

end Service

end SignIn
