import Mathlib.Data.List.Induction
import SignIn.Proofs.Manager.Calls
import SignIn.Proofs.Store.NoTrace

/-!
# Calls one after another

A call that is made while no other call is under way does one of two things to the data in memory:
it leaves them as they are, but for loading them, or it makes one change to them and succeeds
(`Procedure.run_cases`). `Shared.Onward` is the first of these, with what the backend offers: a
backend whose first load gives data of some sort still does so as long as nothing has been loaded,
whatever providers do when they are prepared.

`Manager.stateAfter` is the state that calls one after another lead to, and `Manager.reply` what
one more call after them is answered with.
-/

namespace SignIn

variable {σ α : Type} {backend : Backend σ} {P : Directory → Prop} {E : Effect σ → Prop}
  {s t u : Shared σ}

/-! ### The data stay, or are loaded -/

/-- What leads from one state to another has not changed the data. Data that have been loaded by it
have a property, and data that are still to be loaded will have it. -/
structure Shared.Onward (backend : Backend σ) (P : Directory → Prop) (s t : Shared σ) : Prop where
  kept : s.loaded = true → t.loaded = true ∧ t.directory = s.directory
  found : s.loaded = false → t.loaded = true → P t.directory
  offers : t.loaded = false → backend.Offers P t.world

namespace Shared.Onward

theorem refl (h : s.loaded = false → backend.Offers P s.world) : s.Onward backend P s :=
  ⟨fun hl => ⟨hl, rfl⟩, fun hl hl' => absurd hl' (ne_true_of_eq_false hl), h⟩

theorem trans (h : s.Onward backend P t) (h' : t.Onward backend P u) : s.Onward backend P u where
  kept hs := by
    obtain ⟨ht, hdt⟩ := h.kept hs
    obtain ⟨hu, hdu⟩ := h'.kept ht
    exact ⟨hu, hdu.trans hdt⟩
  found hs hu := by
    cases ht : t.loaded with
    | false => exact h'.found ht hu
    | true => exact (h'.kept ht).2 ▸ h.found hs ht
  offers := h'.offers

/-- The readiness of providers is no matter of the data. -/
theorem setReadiness (h : s.Onward backend P t) (key : ProviderKey) (r : Readiness) :
    s.Onward backend P (t.setReadiness key r) :=
  ⟨h.kept, h.found, h.offers⟩

/-- Something happens in the world that leaves the backend with what it offers. -/
private theorem inWorld (h : s.Onward backend P t) {w : σ}
    (hw : backend.Offers P t.world → backend.Offers P w) :
    s.Onward backend P { t with world := w } :=
  ⟨h.kept, h.found, fun hl => hw (h.offers hl)⟩

end Shared.Onward

theorem Shared.onward_ensureLoaded (h : s.loaded = false → backend.Offers P s.world)
    {r : Except Failure Unit} (hload : s.ensureLoaded backend = (r, t)) :
    s.Onward backend P t := by
  cases hl : s.loaded with
  | true =>
    rw [ensureLoaded, if_pos hl] at hload
    cases hload
    exact .refl h
  | false =>
    cases r with
    | ok =>
      have ht := loaded_of_ensureLoaded hload
      exact ⟨fun hl' => absurd hl' (ne_true_of_eq_false hl),
        fun _ _ => (h hl).of_ensureLoaded hl hload,
        fun hl' => absurd ht (ne_true_of_eq_false hl')⟩
    | error =>
      obtain ⟨ht, hoffers⟩ := (h hl).of_ensureLoaded_error hl hload
      exact ⟨fun hl' => absurd hl' (ne_true_of_eq_false hl),
        fun _ hl' => absurd hl' (ne_true_of_eq_false ht), fun _ => hoffers⟩

/-- A hook may load the data, and answers with something that it can answer with. -/
private theorem Hook.onward_run {key : ProviderKey} {hook : Hook α} {r : Except Failure α}
    (h : s.loaded = false → backend.Offers P s.world) (hrun : hook.run backend key s = (r, t)) :
    s.Onward backend P t ∧ ∀ a, r = .ok a → hook.Answers a := by
  induction hook generalizing s with
  | answer r' =>
    cases hrun
    exact ⟨.refl h, fun a ha => ha⟩
  | consult ask ih =>
    simp only [run] at hrun
    split at hrun
    · rename_i hload
      cases hrun
      exact ⟨Shared.onward_ensureLoaded h hload, fun a ha => by cases ha⟩
    · rename_i v hload
      have hv := Shared.onward_ensureLoaded h hload
      obtain ⟨ht, hanswers⟩ := ih _ hv.offers hrun
      exact ⟨hv.trans ht, fun a ha => ⟨_, hanswers a ha⟩⟩

/-- The preparation of a provider may load the data. -/
private theorem Shared.onward_ensurePrepared {key : ProviderKey} {hook : Hook (Effect σ)}
    {r : Except Failure Unit} (h : s.loaded = false → backend.Offers P s.world)
    (heffects : ∀ effect, hook.Answers effect → ∀ w, backend.Offers P w →
      backend.Offers P (effect w).2)
    (hprepare : s.ensurePrepared backend key hook = (r, t)) : s.Onward backend P t := by
  simp only [ensurePrepared, carryOut] at hprepare
  split at hprepare
  · cases hprepare
    exact .refl h
  · -- the hook may load the data, and what it then does in the world is harmless to them
    have hstart := (Onward.refl h).setReadiness key .initializing
    rcases hrun : hook.run backend key (s.setReadiness key .initializing) with ⟨r', v⟩
    obtain ⟨hv, hanswers⟩ := Hook.onward_run hstart.offers hrun
    rw [hrun] at hprepare
    cases r' with
    | error =>
      cases hprepare
      exact (hstart.trans hv).setReadiness key _
    | ok effect =>
      have hw := heffects effect (hanswers effect rfl) v.world
      simp only at hprepare
      split at hprepare
      · rename_i e w heffect
        cases hprepare
        rw [heffect] at hw
        exact ((hstart.trans hv).inWorld hw).setReadiness key _
      · rename_i w heffect
        cases hprepare
        rw [heffect] at hw
        exact ((hstart.trans hv).inWorld hw).setReadiness key _

/-! ### A procedure that is alone -/

/-- **What a procedure does to the data when it is alone**: nothing but loading them, or it decides
on one change, which it makes, and succeeds. -/
theorem Procedure.run_cases {R : Directory → Change → Prop} {p : Procedure σ α}
    {r : Except Failure α} (hguard : p.IsGuarded ∨ s.loaded = true)
    (hcommits : p.Obeys (.commits R)) (hfits : ∀ d change, R d change → change.Fits d)
    (heffects : p.Obeys (.effects fun effect => ∀ w, backend.Offers P w →
      backend.Offers P (effect w).2))
    (h : s.loaded = false → backend.Offers P s.world) (hrun : p.run backend s = (r, t)) :
    s.Onward backend P t ∨ ∃ v change a, s.Onward backend P v ∧ v.loaded = true ∧
      R v.directory change ∧ r = .ok a ∧ t.loaded = true ∧
      t.directory = change.apply v.directory := by
  -- what is left of the procedure is guarded, or the data are loaded by now
  induction p generalizing s with
  | finish r' =>
    cases hrun
    exact Or.inl (.refl h)
  | load next ih =>
    simp only [run] at hrun
    split at hrun
    · rename_i hload
      cases hrun
      exact Or.inl (Shared.onward_ensureLoaded h hload)
    · rename_i v hload
      have hv := Shared.onward_ensureLoaded h hload
      refine (ih (Or.inr (Shared.loaded_of_ensureLoaded hload)) hcommits heffects hv.offers
        hrun).imp hv.trans ?_
      rintro ⟨v', change, a, hv', hrest⟩
      exact ⟨v', change, a, hv.trans hv', hrest⟩
  | prepare key hook next ih =>
    obtain ⟨hhook, heffects⟩ := heffects
    simp only [run] at hrun
    split at hrun
    · rename_i hprepare
      cases hrun
      exact Or.inl (Shared.onward_ensurePrepared h hhook hprepare)
    · rename_i v hprepare
      have hv := Shared.onward_ensurePrepared h hhook hprepare
      refine (ih (hguard.imp id fun hl => (hv.kept hl).1) hcommits.2 heffects hv.offers
        hrun).imp hv.trans ?_
      rintro ⟨v', change, a, hv', hrest⟩
      exact ⟨v', change, a, hv.trans hv', hrest⟩
  | read next ih =>
    exact ih s.directory (Or.inr (hguard.resolve_left id)) (hcommits s.directory)
      (heffects s.directory) h hrun
  | write decide =>
    have hl : s.loaded = true := hguard.resolve_left id
    simp only [run] at hrun
    cases hdecide : decide s.directory with
    | answer r' =>
      rw [hdecide] at hrun
      cases hrun
      exact Or.inl (.refl h)
    | commit change a =>
      have hR := Decision.obeys_commits.1 (hcommits s.directory) change a hdecide
      simp only [hdecide, Shared.settle, Shared.save] at hrun
      split at hrun
      · cases hrun
        exact Or.inr ⟨s, change, a, .refl h, hl, hR, rfl, hl, rfl⟩
      · -- the change is taken back
        cases hrun
        exact Or.inl ⟨fun _ => ⟨hl, Change.undo_apply (hfits _ _ hR)⟩,
          fun hl' => absurd hl (ne_true_of_eq_false hl'),
          fun hl' => absurd hl (ne_true_of_eq_false hl')⟩

namespace Manager

variable {m : Manager σ}

/-- Whatever the providers do when they are prepared, data that are still to be loaded will have a
property as before. -/
def Retains (m : Manager σ) (backend : Backend σ) (P : Directory → Prop) : Prop :=
  ∀ p ∈ m.providers, ∀ effect, p.prepare.Answers effect → ∀ w, backend.Offers P w →
    backend.Offers P (effect w).2

/-- **What a call does to the data when it is alone.** -/
theorem Call.run_cases (hretains : m.Retains backend P)
    (h : s.loaded = false → backend.Offers P s.world) {c : Call σ} {r : Except Failure Reply}
    (hrun : (c.procedure m).run backend s = (r, t)) :
    s.Onward backend P t ∨ ∃ v change a, s.Onward backend P v ∧ v.loaded = true ∧
      c.Alters m v.directory change ∧ r = .ok a ∧ t.loaded = true ∧
      t.directory = change.apply v.directory := by
  refine Procedure.run_cases (Or.inl c.isGuarded_procedure) c.commits_alters ?_
    (c.effects_procedure hretains) h hrun
  rintro d change ⟨c', -, halters⟩
  exact halters.ordains.fits

/-! ### Runs -/

/-- The state after some calls, made one after another. -/
def stateAfter (m : Manager σ) (backend : Backend σ) (s : Shared σ) (calls : List (Call σ)) :
    Shared σ :=
  calls.foldl (fun s c => ((c.procedure m).run backend s).2) s

/-- What one more call is answered with. -/
def reply (m : Manager σ) (backend : Backend σ) (s : Shared σ) (calls : List (Call σ))
    (c : Call σ) : Except Failure Reply :=
  ((c.procedure m).run backend (m.stateAfter backend s calls)).1

@[simp] theorem stateAfter_nil (m : Manager σ) (backend : Backend σ) (s : Shared σ) :
    m.stateAfter backend s [] = s := rfl

theorem run_stateAfter (m : Manager σ) (backend : Backend σ) (s : Shared σ)
    (calls : List (Call σ)) (c : Call σ) :
    (c.procedure m).run backend (m.stateAfter backend s calls)
      = (m.reply backend s calls c, m.stateAfter backend s (calls ++ [c])) := by
  rw [reply, stateAfter, stateAfter, List.foldl_append]
  rfl

/-- As long as the data are still to be loaded, they will be of the sort that they are of at
first. -/
theorem offers_stateAfter (hretains : m.Retains backend P)
    (h : s.loaded = false → backend.Offers P s.world) (calls : List (Call σ))
    (hl : (m.stateAfter backend s calls).loaded = false) :
    backend.Offers P (m.stateAfter backend s calls).world := by
  induction calls using List.reverseRecOn with
  | nil => exact h hl
  | append_singleton calls c ih =>
    rcases Call.run_cases hretains ih (run_stateAfter m backend s calls c) with
      honward | ⟨v, change, a, -, -, -, -, ht, -⟩
    · exact honward.offers hl
    · exact absurd ht (ne_true_of_eq_false hl)

/-- Data that have been loaded stay in memory. -/
theorem loaded_stateAfter {calls : List (Call σ)}
    (hl : (m.stateAfter backend s calls).loaded = true) (later : List (Call σ)) :
    (m.stateAfter backend s (calls ++ later)).loaded = true := by
  induction later using List.reverseRecOn with
  | nil => rwa [List.append_nil]
  | append_singleton later c ih =>
    rw [← List.append_assoc]
    rcases Call.run_cases (P := fun _ => True) (fun _ _ _ _ _ _ _ _ _ _ _ => trivial)
      (fun _ _ _ _ _ _ => trivial) (run_stateAfter m backend s (calls ++ later) c) with
      honward | ⟨v, change, a, -, -, -, -, ht, -⟩
    · exact (honward.kept ih).1
    · exact ht

end Manager

end SignIn
