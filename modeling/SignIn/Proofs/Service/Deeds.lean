import SignIn.Proofs.Service.Upheld

/-!
# What calls do with the data

A `Deed` is what a call of any kind does with the data or asks of the backend in one step, be it for
itself or for a provider that it prepares; the `Service.journal` of a run lists the deeds in the
order in which they are done, with the calls that do them.

In between, a call may have a `Stake`: data that it has asked for or been handed, or a change that
is being saved. `Position.Act` lists what a step can do, told by the stake before and after it, and
`Position.act_of_step?` says that there is nothing else.
-/

namespace SignIn

variable {σ α : Type} {backend : Backend σ}

/-! ### Stakes and deeds -/

/-- What a call has at stake with the backend. -/
inductive Stake where
  /-- It waits for the data to be loaded. -/
  | asking
  /-- It has been handed the data. -/
  | installing (d : Directory)
  /-- It has put them into memory, and nobody knows yet. -/
  | announcing
  /-- It has made a change, which is being saved. -/
  | saving (change : Change)

/-- Whether it is a load that is at stake. -/
def Stake.isLoad : Stake → Bool
  | .asking | .installing _ | .announcing => true
  | .saving _ => false

/-- The lock that goes with a stake. -/
def Stake.lock (stake : Stake) : Lock := if stake.isLoad then .loadGate else .data

/-- What a call does with the data, or asks of the backend, in one step. -/
inductive Deed where
  /-- It has the backend load the data, and is answered. -/
  | load (answer : Except Failure Directory)
  /-- It puts data that have been loaded into memory. -/
  | install (d : Directory)
  /-- It looks at the data, and leaves them as they are. -/
  | look (d : Directory)
  /-- It changes the data. -/
  | change (d : Directory) (change : Change)
  /-- It has the backend save the data after a change, and is answered. -/
  | save (snapshot : Directory) (change : Change) (answer : Except Failure Unit)

/-- What a call has at stake at a stage of a load. -/
def LoadStage.stake? : LoadStage → Option Stake
  | .arriving | .atGate | .inGate => none
  | .loading => some .asking
  | .installing d => some (.installing d)
  | .announcing => some .announcing

/-- What is done in the next step of a load. -/
def LoadStage.deed? (backend : Backend σ) (s : Shared σ) : LoadStage → Option Deed
  | .loading => some (.load (backend.load s.world).1)
  | .installing d => some (.install d)
  | .arriving | .atGate | .inGate | .announcing => none

/-- What a decision does with the data that it is made on. -/
def Decision.deed (d : Directory) : Decision α → Deed
  | .answer _ => .look d
  | .commit change _ => .change d change

namespace Position

/-- What a call has at stake. -/
def stake? : Position σ α → Option Stake
  | .loading stage _ | .preparing _ _ (.consulting stage _) _ => stage.stake?
  | .saving change _ => some (.saving change)
  | _ => none

/-- What a call does in its next step. -/
def deed? (backend : Backend σ) (s : Shared σ) : Position σ α → Option Deed
  | .loading stage _ | .preparing _ _ (.consulting stage _) _ => stage.deed? backend s
  | .before (.read _) | .preparing _ _ (.reading _) _ => some (.look s.directory)
  | .before (.write decide) => some ((decide s.directory).deed s.directory)
  | .saving change _ => some (.save s.directory change (backend.save s.directory s.world).1)
  | _ => none

/-- Whether a call is at the data, about to look at them or to decide on them. -/
def isAtData : Position σ α → Bool
  | .before (.read _) | .before (.write _) | .preparing _ _ (.reading _) _ => true
  | _ => false

/-- What a provider is about to do in the world, in the next step of the call that prepares it. -/
def effect? : Position σ α → Option (Effect σ)
  | .preparing _ _ (.running (.answer (.ok effect))) _ => some effect
  | _ => none

/-- A call that has ended has nothing at stake. -/
theorem stake?_of_result? {p : Position σ α} {r : Except Failure α} (h : p.result? = some r) :
    p.stake? = none := by
  cases p with
  | before => rfl
  | loading | preparing | saving => cases h

/-- A call that waits before a procedure or has ended has nothing at stake. -/
@[simp] theorem stake?_after (next : Procedure σ α) (r : Except Failure Unit) :
    (after next r).stake? = none := by
  cases r <;> rfl

/-- A call holds the lock that goes with its stake. -/
theorem holds_of_stake? {p : Position σ α} {stake : Stake} (h : p.stake? = some stake) :
    p.holds stake.lock = true := by
  have hload : ∀ stage : LoadStage, stage.stake? = some stake →
      stage.holds stake.lock = true := by
    intro stage hs
    cases stage <;> cases hs <;> rfl
  cases p with
  | before p => cases h
  | loading stage next => exact hload stage h
  | saving change a =>
    cases h
    rfl
  | preparing key hook stage next =>
    cases stage with
    | consulting stage ask => exact Bool.or_eq_true_iff.2 (Or.inr (hload stage h))
    | arriving | atGate | inGate | running | reading => cases h

end Position

/-! ### What a step does -/

/-- Two states that differ in nothing but how far providers have been prepared. -/
structure Shared.Like (s t : Shared σ) : Prop where
  loaded : s.loaded = t.loaded
  directory : s.directory = t.directory
  world : s.world = t.world

theorem Shared.Like.refl (s : Shared σ) : s.Like s := ⟨rfl, rfl, rfl⟩

/-- How far a provider has been prepared makes no difference. -/
private theorem Shared.like_setReadiness (s : Shared σ) (key : ProviderKey) (r : Readiness) :
    (s.setReadiness key r).Like s := ⟨rfl, rfl, rfl⟩

namespace Position

/-- What a step of a call can do, with the data and with the backend. -/
inductive Act (backend : Backend σ) (free : Lock → Bool) (s : Shared σ) (p q : Position σ α)
    (s' : Shared σ) : Option Deed → Prop
  /-- Nothing of the kind: it goes on, and a provider that it prepares may do something in the
  world. It comes to ask for the data only as long as they are not there. -/
  | aside (w : σ) (hp : p.stake? = none)
      (hq : q.stake? = none ∨ q.stake? = some .asking ∧ s.loaded = false)
      (hw : w = s.world ∨ ∃ effect, p.effect? = some effect ∧ w = (effect s.world).2)
      (hs : s'.Like { s with world := w }) : Act backend free s p q s' none
  /-- The backend fails to load the data, and the call ends. -/
  | refuse (e : Failure) (w : σ) (hp : p.stake? = some .asking)
      (hq : q.result? = some (.error e)) (h : backend.load s.world = (.error e, w))
      (hs : s'.Like { s with world := w }) : Act backend free s p q s' (some (.load (.error e)))
  /-- The backend loads the data. -/
  | fetch (d : Directory) (w : σ) (hp : p.stake? = some .asking)
      (hq : q.stake? = some (.installing d)) (h : backend.load s.world = (.ok d, w))
      (hs : s'.Like { s with world := w }) : Act backend free s p q s' (some (.load (.ok d)))
  /-- The data are put into memory. -/
  | install (d : Directory) (hp : p.stake? = some (.installing d))
      (hq : q.stake? = some .announcing) (hs : s'.Like { s with directory := d }) :
      Act backend free s p q s' (some (.install d))
  /-- Everyone is let know. -/
  | announce (hp : p.stake? = some .announcing) (hq : q.stake? = none)
      (hs : s'.Like { s with loaded := true }) : Act backend free s p q s' none
  /-- The data are looked at. -/
  | look (hp : p.isAtData = true) (hq : q.stake? = none) (hf : free .data = true)
      (hs : s'.Like s) : Act backend free s p q s' (some (.look s.directory))
  /-- The data are changed. -/
  | change (c : Change) (hp : p.isAtData = true) (hq : q.stake? = some (.saving c))
      (hf : free .data = true) (hs : s'.Like { s with directory := c.apply s.directory }) :
      Act backend free s p q s' (some (.change s.directory c))
  /-- The change is saved, and the call ends. -/
  | save (c : Change) (a : α) (w : σ) (hp : p.stake? = some (.saving c))
      (hq : q.result? = some (.ok a)) (h : backend.save s.directory s.world = (.ok (), w))
      (hs : s'.Like { s with world := w }) :
      Act backend free s p q s' (some (.save s.directory c (.ok ())))
  /-- The change cannot be saved, and is taken back. -/
  | rollBack (c : Change) (e : Failure) (w : σ) (hp : p.stake? = some (.saving c))
      (hq : q.result? = some (.error e)) (h : backend.save s.directory s.world = (.error e, w))
      (hs : s'.Like { s with world := w, directory := c.undo s.directory }) :
      Act backend free s p q s' (some (.save s.directory c (.error e)))

variable {free : Lock → Bool} {s s' : Shared σ} {p q : Position σ α}

private theorem Act.onward (hp : p.stake? = none) (hq : q.stake? = none) (hs : s'.Like s) :
    Act backend free s p q s' none :=
  .aside s.world hp (Or.inl hq) (Or.inl rfl) hs

/-- A load that goes on, as a step of the call that waits for it. -/
private theorem act_of_more {stage stage' : LoadStage}
    (h : stage.Transition backend free s (.more stage') s') (hp : p.stake? = stage.stake?)
    (hq : q.stake? = stage'.stake?) : Act backend free s p q s' (stage.deed? backend s) := by
  cases h with
  | queue | acquire => exact .onward hp hq (.refl s)
  | request hl => exact .aside s.world hp (Or.inr ⟨hq, hl⟩) (Or.inl rfl) (.refl s)
  | fetch d w hload =>
    rw [LoadStage.deed?, hload]
    exact .fetch d w hp hq hload (.refl _)
  | install d => exact .install d hp hq (.refl _)

/-- A load that is over, as a step of the call that has waited for it: a failure ends the call. -/
private theorem act_of_done {stage : LoadStage} {r : Except Failure Unit} {t : Shared σ}
    (h : stage.Transition backend free s (.done r) t) (hp : p.stake? = stage.stake?)
    (hq : q.stake? = none) (hr : ∀ e, r = .error e → q.result? = some (.error e))
    (hs : s'.Like t) : Act backend free s p q s' (stage.deed? backend s) := by
  cases h with
  | skip | leave => exact .onward hp hq hs
  | refuse e w hload =>
    rw [LoadStage.deed?, hload]
    exact .refuse e w hp (hr e rfl) hload hs
  | announce => exact .announce hp hq hs

/-- What a provider does in the world is done aside, whether it succeeds or not. -/
private theorem act_of_effect {effect : Effect σ} {r : Except Failure Unit} {w : σ}
    (h : effect s.world = (r, w)) (hp : p.stake? = none) (hq : q.stake? = none)
    (hpe : p.effect? = some effect) (hs : s'.Like { s with world := w }) :
    Act backend free s p q s' none :=
  .aside w hp (Or.inl hq) (Or.inr ⟨effect, hpe, by rw [h]⟩) hs

/-- A preparation that goes on. -/
private theorem act_of_prepare {key : ProviderKey} {hook : Hook (Effect σ)}
    {stage stage' : InitStage σ} {next : Procedure σ α}
    (h : stage.Transition backend key hook free s (.more stage') s') :
    Act backend free s (.preparing key hook stage next) (.preparing key hook stage' next) s'
      ((Position.preparing key hook stage next).deed? backend s) := by
  cases h with
  | queue | acquire | consult => exact .onward rfl rfl (.refl s)
  | start => exact .onward rfl rfl (s.like_setReadiness key _)
  | await _ _ _ _ hload => exact act_of_more hload rfl rfl
  | resume _ _ _ hload => exact act_of_done hload rfl rfl nofun (.refl _)
  | look ask hf => exact .look rfl rfl hf (.refl s)

/-- A preparation that is over. -/
private theorem act_of_prepared {key : ProviderKey} {hook : Hook (Effect σ)}
    {stage : InitStage σ} {r : Except Failure Unit} {next : Procedure σ α}
    (h : stage.Transition backend key hook free s (.done r) s') :
    Act backend free s (.preparing key hook stage next) (after next r) s'
      ((Position.preparing key hook stage next).deed? backend s) := by
  have hq := stake?_after next r
  cases h with
  | skip | leave => exact .onward rfl hq (.refl s)
  | fail => exact .onward rfl hq (s.like_setReadiness key _)
  | breakOff effect e w h | succeed effect w h =>
    exact act_of_effect h rfl hq rfl (Shared.like_setReadiness _ key _)
  | giveUp _ _ e _ hload =>
    refine act_of_done hload rfl hq ?_ (Shared.like_setReadiness _ key _)
    rintro _ ⟨⟩
    rfl

/-- **Every step is an act.** -/
theorem act_of_step? (h : p.step? backend free s = some (q, s')) :
    Act backend free s p q s' (p.deed? backend s) := by
  cases transition_of_step? h with
  | enter | approach => exact .onward rfl rfl (.refl s)
  | read next hf => exact .look rfl rfl hf (.refl s)
  | answer decide r hf hd =>
    rw [deed?, hd]
    exact .look rfl rfl hf (.refl s)
  | commit decide change a hf hd =>
    rw [deed?, hd]
    exact .change change rfl rfl hf (.refl _)
  | load _ _ _ _ hload => exact act_of_more hload rfl rfl
  | loaded _ r next _ hload =>
    refine act_of_done hload rfl (stake?_after next r) ?_ (.refl _)
    rintro e rfl
    rfl
  | prepare _ _ _ _ _ _ h => exact act_of_prepare h
  | prepared _ _ _ _ _ _ h => exact act_of_prepared h
  | save change a w hsave =>
    rw [deed?, hsave]
    exact .save change a w rfl rfl hsave (.refl _)
  | rollBack change a e w hsave =>
    rw [deed?, hsave]
    exact .rollBack change e w rfl rfl hsave (.refl _)

end Position

end SignIn
