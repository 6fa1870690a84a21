import SignIn.Procedure.Interleaving

/-!
# What a step can do

`Position.step?` computes what a call does next. `Position.Transition` says it as a relation, with one
constructor for each thing that can happen: what it needs, where it leads, and what becomes of the
shared state. What happens inside of a load, and inside of the preparation of a provider, has
relations of its own (`LoadStage.Transition`, `InitStage.Transition`).

Every step is one of these transitions (`Position.transition_of_step?`). What holds of all steps is
proved by going through them, so that the definition of a step is not opened again for that.
-/

namespace SignIn

variable {σ α : Type} {backend : Backend σ} {free : Lock → Bool} {s s' : Shared σ}

/-! ### Loading the data -/

/-- What can happen next in a load: how the stage goes on or ends, and the state afterwards. -/
inductive LoadStage.Transition (backend : Backend σ) (free : Lock → Bool) (s : Shared σ) :
    LoadStage → Progress LoadStage Unit → Shared σ → Prop
  /-- The data are there. -/
  | skip (hl : s.loaded = true) : Transition backend free s .arriving (.done (.ok ())) s
  | queue (hl : s.loaded = false) : Transition backend free s .arriving (.more .atGate) s
  | acquire (hf : free .loadGate = true) : Transition backend free s .atGate (.more .inGate) s
  /-- Another call has loaded the data meanwhile. -/
  | leave (hl : s.loaded = true) : Transition backend free s .inGate (.done (.ok ())) s
  | request (hl : s.loaded = false) : Transition backend free s .inGate (.more .loading) s
  /-- The backend fails. -/
  | refuse (e : Failure) (w : σ) (h : backend.load s.world = (.error e, w)) :
      Transition backend free s .loading (.done (.error e)) { s with world := w }
  /-- The backend answers. -/
  | fetch (d : Directory) (w : σ) (h : backend.load s.world = (.ok d, w)) :
      Transition backend free s .loading (.more (.installing d)) { s with world := w }
  | install (d : Directory) (hf : free .data = true) :
      Transition backend free s (.installing d) (.more .announcing) { s with directory := d }
  | announce : Transition backend free s .announcing (.done (.ok ())) { s with loaded := true }

/-- A step of a load is one of these. -/
theorem LoadStage.transition_of_step? {stage : LoadStage} {x : Progress LoadStage Unit}
    (h : stage.step? backend free s = some (x, s')) : stage.Transition backend free s x s' := by
  cases stage with
  | arriving =>
    simp only [step?] at h
    cases hl : s.loaded <;> simp only [hl] at h <;> cases h
    · exact .queue hl
    · exact .skip hl
  | atGate =>
    simp only [step?] at h
    cases hf : free .loadGate <;> simp only [hf] at h <;> cases h
    exact .acquire hf
  | inGate =>
    simp only [step?] at h
    cases hl : s.loaded <;> simp only [hl] at h <;> cases h
    · exact .request hl
    · exact .leave hl
  | loading =>
    simp only [step?] at h
    rcases hload : backend.load s.world with ⟨r, w⟩
    cases r <;> simp only [hload] at h <;> cases h
    · exact .refuse _ w hload
    · exact .fetch _ w hload
  | installing d =>
    simp only [step?] at h
    cases hf : free .data <;> simp only [hf] at h <;> cases h
    exact .install d hf
  | announcing =>
    cases h
    exact .announce

/-! ### Preparing a provider -/

/-- What can happen next in the preparation of a provider. -/
inductive InitStage.Transition (backend : Backend σ) (key : ProviderKey) (hook : Hook (Effect σ))
    (free : Lock → Bool) (s : Shared σ) :
    InitStage σ → Progress (InitStage σ) Unit → Shared σ → Prop
  /-- The provider is ready. -/
  | skip (hr : s.readiness key = .ready) :
      Transition backend key hook free s .arriving (.done (.ok ())) s
  | queue (hr : s.readiness key ≠ .ready) :
      Transition backend key hook free s .arriving (.more .atGate) s
  | acquire (hf : free (.initGate key) = true) :
      Transition backend key hook free s .atGate (.more .inGate) s
  /-- Another call has prepared the provider meanwhile. -/
  | leave (hr : s.readiness key = .ready) :
      Transition backend key hook free s .inGate (.done (.ok ())) s
  | start (hr : s.readiness key ≠ .ready) :
      Transition backend key hook free s .inGate (.more (.running hook))
        (s.setReadiness key .initializing)
  /-- The hook fails. -/
  | fail (e : Failure) :
      Transition backend key hook free s (.running (.answer (.error e))) (.done (.error e))
        (s.setReadiness key .uninitialized)
  /-- What the provider does in the world fails. -/
  | breakOff (effect : Effect σ) (e : Failure) (w : σ) (h : effect s.world = (.error e, w)) :
      Transition backend key hook free s (.running (.answer (.ok effect))) (.done (.error e))
        ({ s with world := w }.setReadiness key .uninitialized)
  | succeed (effect : Effect σ) (w : σ) (h : effect s.world = (.ok (), w)) :
      Transition backend key hook free s (.running (.answer (.ok effect))) (.done (.ok ()))
        ({ s with world := w }.setReadiness key .ready)
  | consult (ask : List Credentials → Hook (Effect σ)) :
      Transition backend key hook free s (.running (.consult ask))
        (.more (.consulting .arriving ask)) s
  /-- The load that the hook waits for goes on. -/
  | await (stage stage' : LoadStage) (ask : List Credentials → Hook (Effect σ)) (t : Shared σ)
      (h : stage.Transition backend free s (.more stage') t) :
      Transition backend key hook free s (.consulting stage ask) (.more (.consulting stage' ask)) t
  /-- The load has succeeded. -/
  | resume (stage : LoadStage) (ask : List Credentials → Hook (Effect σ)) (t : Shared σ)
      (h : stage.Transition backend free s (.done (.ok ())) t) :
      Transition backend key hook free s (.consulting stage ask) (.more (.reading ask)) t
  /-- The load has failed, and the hook with it. -/
  | giveUp (stage : LoadStage) (ask : List Credentials → Hook (Effect σ)) (e : Failure)
      (t : Shared σ) (h : stage.Transition backend free s (.done (.error e)) t) :
      Transition backend key hook free s (.consulting stage ask) (.done (.error e))
        (t.setReadiness key .uninitialized)
  | look (ask : List Credentials → Hook (Effect σ)) (hf : free .data = true) :
      Transition backend key hook free s (.reading ask)
        (.more (.running (ask (s.directory.credentialsOf key)))) s

/-- A step of a preparation is one of these. -/
theorem InitStage.transition_of_step? {key : ProviderKey} {hook : Hook (Effect σ)}
    {stage : InitStage σ} {x : Progress (InitStage σ) Unit}
    (h : stage.step? backend key hook free s = some (x, s')) :
    stage.Transition backend key hook free s x s' := by
  cases stage with
  | arriving =>
    simp only [step?] at h
    by_cases hr : s.readiness key = .ready
    · simp only [if_pos hr] at h
      cases h
      exact .skip hr
    · simp only [if_neg hr] at h
      cases h
      exact .queue hr
  | atGate =>
    simp only [step?] at h
    cases hf : free (.initGate key) <;> simp only [hf] at h <;> cases h
    exact .acquire hf
  | inGate =>
    simp only [step?] at h
    by_cases hr : s.readiness key = .ready
    · simp only [if_pos hr] at h
      cases h
      exact .leave hr
    · simp only [if_neg hr] at h
      cases h
      exact .start hr
  | running hook' =>
    rcases hook' with (e | effect) | ask
    · cases h
      exact .fail e
    · simp only [step?] at h
      rcases heffect : effect s.world with ⟨r, w⟩
      cases r <;> simp only [heffect] at h <;> cases h
      · exact .breakOff effect _ w heffect
      · exact .succeed effect w heffect
    · cases h
      exact .consult ask
  | consulting load ask =>
    simp only [step?] at h
    split at h <;> cases h
    · exact .await _ _ ask _ (LoadStage.transition_of_step? ‹_›)
    · exact .resume _ ask _ (LoadStage.transition_of_step? ‹_›)
    · exact .giveUp _ ask _ _ (LoadStage.transition_of_step? ‹_›)
  | reading ask =>
    simp only [step?] at h
    cases hf : free .data <;> simp only [hf] at h <;> cases h
    exact .look ask hf

/-! ### Whole procedures -/

namespace Position

/-- What can happen next to a call: where it stands then, and the state afterwards. -/
inductive Transition (backend : Backend σ) (free : Lock → Bool) (s : Shared σ) :
    Position σ α → Position σ α → Shared σ → Prop
  /-- It begins to load. -/
  | enter (next : Procedure σ α) :
      Transition backend free s (.before (.load next)) (.loading .arriving next) s
  /-- It begins to prepare a provider. -/
  | approach (key : ProviderKey) (hook : Hook (Effect σ)) (next : Procedure σ α) :
      Transition backend free s (.before (.prepare key hook next))
        (.preparing key hook .arriving next) s
  | read (next : Directory → Procedure σ α) (hf : free .data = true) :
      Transition backend free s (.before (.read next)) (.before (next s.directory)) s
  /-- It decides on the data without changing them. -/
  | answer (decide : Directory → Decision α) (r : Except Failure α) (hf : free .data = true)
      (h : decide s.directory = .answer r) :
      Transition backend free s (.before (.write decide)) (.before (.finish r)) s
  | commit (decide : Directory → Decision α) (change : Change) (a : α) (hf : free .data = true)
      (h : decide s.directory = .commit change a) :
      Transition backend free s (.before (.write decide)) (.saving change a)
        { s with directory := change.apply s.directory }
  /-- A load goes on. -/
  | load (stage stage' : LoadStage) (next : Procedure σ α) (t : Shared σ)
      (h : stage.Transition backend free s (.more stage') t) :
      Transition backend free s (.loading stage next) (.loading stage' next) t
  /-- A load is over. -/
  | loaded (stage : LoadStage) (r : Except Failure Unit) (next : Procedure σ α) (t : Shared σ)
      (h : stage.Transition backend free s (.done r) t) :
      Transition backend free s (.loading stage next) (after next r) t
  /-- A preparation goes on. -/
  | prepare (key : ProviderKey) (hook : Hook (Effect σ)) (stage stage' : InitStage σ)
      (next : Procedure σ α) (t : Shared σ)
      (h : stage.Transition backend key hook free s (.more stage') t) :
      Transition backend free s (.preparing key hook stage next) (.preparing key hook stage' next) t
  /-- A preparation is over. -/
  | prepared (key : ProviderKey) (hook : Hook (Effect σ)) (stage : InitStage σ)
      (r : Except Failure Unit) (next : Procedure σ α) (t : Shared σ)
      (h : stage.Transition backend key hook free s (.done r) t) :
      Transition backend free s (.preparing key hook stage next) (after next r) t
  | save (change : Change) (a : α) (w : σ)
      (h : backend.save s.directory s.world = (.ok (), w)) :
      Transition backend free s (.saving change a) (.before (.finish (.ok a)))
        { s with world := w }
  /-- The change could not be saved and is taken back. -/
  | rollBack (change : Change) (a : α) (e : Failure) (w : σ)
      (h : backend.save s.directory s.world = (.error e, w)) :
      Transition backend free s (.saving change a) (.before (.finish (.error e)))
        { s with world := w, directory := change.undo s.directory }

/-- **Every step is one of these.** -/
theorem transition_of_step? {p q : Position σ α} (h : p.step? backend free s = some (q, s')) :
    p.Transition backend free s q s' := by
  cases p with
  | before p =>
    cases p with
    | finish r => cases h
    | load next =>
      cases h
      exact .enter next
    | prepare key hook next =>
      cases h
      exact .approach key hook next
    | read next =>
      simp only [step?] at h
      cases hf : free .data <;> simp only [hf] at h <;> cases h
      exact .read next hf
    | write decide =>
      simp only [step?] at h
      cases hf : free .data <;> simp only [hf] at h
      · cases h
      · cases hd : decide s.directory <;> simp only [hd] at h <;> cases h
        · exact .answer decide _ hf hd
        · exact .commit decide _ _ hf hd
  | loading stage next =>
    simp only [step?] at h
    split at h <;> cases h
    · exact .load _ _ next _ (LoadStage.transition_of_step? ‹_›)
    · exact .loaded _ _ next _ (LoadStage.transition_of_step? ‹_›)
  | preparing key hook stage next =>
    simp only [step?] at h
    split at h <;> cases h
    · exact .prepare key hook _ _ next _ (InitStage.transition_of_step? ‹_›)
    · exact .prepared key hook _ _ next _ (InitStage.transition_of_step? ‹_›)
  | saving change a =>
    simp only [step?, Shared.save] at h
    rcases hsave : backend.save s.directory s.world with ⟨r, w⟩
    cases r <;> simp only [hsave] at h <;> cases h
    · exact .rollBack change a _ w hsave
    · exact .save change a w hsave

end Position

end SignIn
