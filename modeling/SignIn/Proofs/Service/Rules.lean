import SignIn.Proofs.Service.Locks

/-!
# Rules that calls obey

A `Rule` says what a call may do wherever it comes to: which providers it may prepare and by what
hooks, which changes it may decide on, and what it may answer with. `Procedure.Obeys` goes through a
procedure along its constructors, and asks the rule wherever it has something to say. There is a
rule for each of the questions that are asked about calls later on:

* `Rule.plain`: a call prepares no provider.
* `Rule.spares`: it does not prepare a certain one.
* `Rule.effects`: whatever the providers that it prepares can do in the world is of some sort.
* `Rule.commits`: all changes that it can decide on are of some sort.
* `Rule.yields`: all that it can answer with has a property.

What has to be known about obeying is the same for all rules, and is proved once. A wider rule is
obeyed as well (`Procedure.Obeys.mono`); a call goes on obeying when its answer is another one
(`Procedure.obeys_map`) and when it asks a provider first (`Hook.obeys_andThen`). A step leaves a
call that obeys the rule (`Position.Obeys.step`), and so does every step of a service, where each
call may have a rule of its own (`Service.obeys_of_step`).
-/

namespace SignIn

variable {σ α β : Type} {backend : Backend σ}

/-! ### Procedures with another answer -/

/-- The decision with another answer. -/
def Decision.map (f : α → β) : Decision α → Decision β
  | .answer r => .answer (r.map f)
  | .commit change a => .commit change (f a)

/-- The procedure with another answer: what a call of the store does is what a call of the manager
does that hands its answer on. -/
def Procedure.map (f : α → β) : Procedure σ α → Procedure σ β
  | .finish r => .finish (r.map f)
  | .load next => .load (next.map f)
  | .prepare key hook next => .prepare key hook (next.map f)
  | .read next => .read fun d => (next d).map f
  | .write decide => .write fun d => (decide d).map f

/-! ### What hooks can answer -/

/-- What a hook can answer, if it does not fail, whatever it looks at. The credentials that it is
shown are arbitrary here, so that what holds of all its answers does not depend on the moment at
which it looks. -/
def Hook.Answers : Hook α → α → Prop
  | .answer r, a => r = .ok a
  | .consult ask, a => ∃ cs, (ask cs).Answers a

/-- A stage in the preparation of a provider by a hook: whatever can still be answered, the hook can
answer. -/
def InitStage.StemsFrom (hook : Hook (Effect σ)) : InitStage σ → Prop
  | .arriving | .atGate | .inGate => True
  | .running hook' => ∀ effect, hook'.Answers effect → hook.Answers effect
  | .consulting _ ask | .reading ask =>
    ∀ cs effect, (ask cs).Answers effect → hook.Answers effect

private theorem InitStage.StemsFrom.step {key : ProviderKey} {hook : Hook (Effect σ)}
    {free : Lock → Bool} {s s' : Shared σ} {stage stage' : InitStage σ}
    (hstage : stage.StemsFrom hook)
    (h : stage.Transition backend key hook free s (.more stage') s') :
    stage'.StemsFrom hook := by
  cases h with
  | queue | acquire => trivial
  | start => exact fun _ heffect => heffect
  | consult ask => exact fun cs effect heffect => hstage effect ⟨cs, heffect⟩
  | await | resume => exact hstage
  | look => exact hstage _

/-! ### Rules -/

/-- What a call may do, wherever it comes to. What a rule does not mention is allowed. A rule is
about what a call can do with any data and any answers of providers, and not about what it does in
some run. -/
structure Rule (σ α : Type) where
  /-- The providers that it may prepare, and the hooks by which it may do so. -/
  prepares : ProviderKey → Hook (Effect σ) → Prop := fun _ _ => True
  /-- The changes that it may decide on, each in the directory that it decides on. -/
  changes : Directory → Change → Prop := fun _ _ => True
  /-- What it may answer with, if it does not fail. -/
  answers : α → Prop := fun _ => True

namespace Rule

/-- It prepares no provider. -/
def plain : Rule σ α := { prepares := fun _ _ => False }

/-- It does not prepare a certain provider, whatever it does with others. -/
def spares (key : ProviderKey) : Rule σ α := { prepares := fun key' _ => key' ≠ key }

/-- Whatever the providers that it prepares can do in the world is of some sort. -/
def effects (E : Effect σ → Prop) : Rule σ α :=
  { prepares := fun _ hook => ∀ effect, hook.Answers effect → E effect }

/-- All changes that it can decide on are of some sort. -/
def commits (R : Directory → Change → Prop) : Rule σ α := { changes := R }

/-- All that it can answer with has a property. -/
def yields (P : α → Prop) : Rule σ α := { answers := P }

/-- The rule for a call whose answer is turned into another one. -/
def comap (f : α → β) (rule : Rule σ β) : Rule σ α where
  prepares := rule.prepares
  changes := rule.changes
  answers := fun a => rule.answers (f a)

/-- All that one rule allows another one allows. -/
structure Within (rule rule' : Rule σ α) : Prop where
  prepares : ∀ key hook, rule.prepares key hook → rule'.prepares key hook
  changes : ∀ d change, rule.changes d change → rule'.changes d change
  answers : ∀ a, rule.answers a → rule'.answers a

end Rule

/-- A decision obeys a rule in the directory that it is made in. -/
def Decision.Obeys (rule : Rule σ α) (d : Directory) : Decision α → Prop
  | .answer r => ∀ a, r = .ok a → rule.answers a
  | .commit change a => rule.changes d change ∧ rule.answers a

/-- A procedure obeys a rule, whatever it finds on its way. -/
def Procedure.Obeys (rule : Rule σ α) : Procedure σ α → Prop
  | .finish r => ∀ a, r = .ok a → rule.answers a
  | .load next => next.Obeys rule
  | .prepare key hook next => rule.prepares key hook ∧ next.Obeys rule
  | .read next => ∀ d, (next d).Obeys rule
  | .write decide => ∀ d, (decide d).Obeys rule d

/-- The rest of a call obeys a rule. Of a change that is being saved only the answer is still to
come, and what is left of a hook at work comes from the hook that the rule allows. -/
def Position.Obeys (rule : Rule σ α) : Position σ α → Prop
  | .before p => p.Obeys rule
  | .loading _ next => next.Obeys rule
  | .preparing key hook stage next =>
    rule.prepares key hook ∧ stage.StemsFrom hook ∧ next.Obeys rule
  | .saving _ a => rule.answers a

variable {rule rule' : Rule σ α}

/-! ### Decisions -/

theorem Decision.obeys_commits {R : Directory → Change → Prop} {d : Directory}
    {decision : Decision α} : decision.Obeys (Rule.commits (σ := σ) R) d ↔
      ∀ change a, decision = .commit change a → R d change := by
  cases decision with
  | answer r => exact iff_of_true (fun _ _ => trivial) (by rintro _ _ ⟨⟩)
  | commit change a =>
    refine ⟨?_, fun h => ⟨h change a rfl, trivial⟩⟩
    rintro ⟨h, -⟩ _ _ ⟨⟩
    exact h

/-- A rule that is about providers only leaves decisions free. -/
theorem Decision.obeys_prepares (prepares : ProviderKey → Hook (Effect σ) → Prop) (d : Directory)
    (decision : Decision α) : decision.Obeys { prepares } d := by
  cases decision with
  | answer r => exact fun _ _ => trivial
  | commit change a => exact ⟨trivial, trivial⟩

theorem Decision.Obeys.mono (hrule : rule.Within rule') {d : Directory} {decision : Decision α}
    (h : decision.Obeys rule d) : decision.Obeys rule' d := by
  cases decision with
  | answer r => exact fun a ha => hrule.answers a (h a ha)
  | commit change a => exact ⟨hrule.changes d change h.1, hrule.answers a h.2⟩

private theorem forall_ok_map {P : β → Prop} {f : α → β} {r : Except Failure α} :
    (∀ b, r.map f = .ok b → P b) ↔ ∀ a, r = .ok a → P (f a) := by
  cases r with
  | error => exact iff_of_true nofun nofun
  | ok a => simp [Except.map]

theorem Decision.obeys_map {rule : Rule σ β} {f : α → β} {d : Directory} {decision : Decision α} :
    (decision.map f).Obeys rule d ↔ decision.Obeys (rule.comap f) d := by
  cases decision with
  | answer r => exact forall_ok_map
  | commit change a => exact Iff.rfl

/-! ### Procedures -/

namespace Procedure

/-- A call that fails breaks no rule. -/
theorem obeys_error (rule : Rule σ α) (e : Failure) : (finish (.error e)).Obeys rule := by
  rintro _ ⟨⟩

/-- Decisions with changes of some sort, as a procedure. -/
theorem obeys_write {R : Directory → Change → Prop} {decide : Directory → Decision α}
    (h : ∀ d change a, decide d = .commit change a → R d change) :
    (write decide : Procedure σ α).Obeys (.commits R) :=
  fun d => Decision.obeys_commits.2 (h d)

/-- **A wider rule is obeyed as well.** -/
theorem Obeys.mono (hrule : rule.Within rule') {p : Procedure σ α} (h : p.Obeys rule) :
    p.Obeys rule' := by
  induction p with
  | finish r => exact fun a ha => hrule.answers a (h a ha)
  | load next ih => exact ih h
  | prepare key hook next ih => exact ⟨hrule.prepares key hook h.1, ih h.2⟩
  | read next ih => exact fun d => ih d (h d)
  | write decide => exact fun d => (h d).mono hrule

theorem Obeys.mono_commits {R R' : Directory → Change → Prop}
    (hR : ∀ d change, R d change → R' d change) {p : Procedure σ α} (h : p.Obeys (.commits R)) :
    p.Obeys (.commits R') :=
  h.mono ⟨fun _ _ _ => trivial, hR, fun _ _ => trivial⟩

theorem Obeys.mono_prepares {prepares prepares' : ProviderKey → Hook (Effect σ) → Prop}
    (h : ∀ key hook, prepares key hook → prepares' key hook) {p : Procedure σ α}
    (hp : p.Obeys { prepares }) : p.Obeys { prepares := prepares' } :=
  hp.mono ⟨h, fun _ _ _ => trivial, fun _ _ => trivial⟩

/-- **A call with another answer** obeys what the call obeys. -/
theorem obeys_map {rule : Rule σ β} {f : α → β} {p : Procedure σ α} :
    (p.map f).Obeys rule ↔ p.Obeys (rule.comap f) := by
  induction p with
  | finish r => exact forall_ok_map
  | load next ih => exact ih
  | prepare key hook next ih => exact and_congr_right fun _ => ih
  | read next ih => exact forall_congr' ih
  | write decide => exact forall_congr' fun d => Decision.obeys_map

/-- **What a call answers with** is something that it may answer with. -/
theorem Obeys.run {p : Procedure σ α} (hp : p.Obeys rule) {s t : Shared σ} {a : α}
    (h : p.run backend s = (.ok a, t)) : rule.answers a := by
  induction p generalizing s with
  | finish r =>
    cases h
    exact hp a rfl
  | load next ih =>
    simp only [Procedure.run] at h
    split at h
    · cases h
    · exact ih hp h
  | prepare key hook next ih =>
    simp only [Procedure.run] at h
    split at h
    · cases h
    · exact ih hp.2 h
  | read next ih => exact ih s.directory (hp s.directory) h
  | write decide =>
    have hd := hp s.directory
    simp only [Procedure.run] at h
    cases hdecide : decide s.directory with
    | answer r =>
      rw [hdecide] at h hd
      cases h
      exact hd a rfl
    | commit change b =>
      rw [hdecide] at h hd
      simp only [Shared.settle, Shared.save] at h
      split at h <;> cases h
      exact hd.2

end Procedure

/-- **A call that asks a provider first** obeys a rule, if it does so with every answer that the
provider can give. -/
theorem Hook.obeys_andThen {rule : Rule σ β} {key : ProviderKey} {next : α → Procedure σ β}
    (h : Hook α) (hnext : ∀ a, h.Answers a → (next a).Obeys rule) :
    (h.andThen key next).Obeys rule := by
  induction h with
  | answer r =>
    cases r with
    | error e => exact Procedure.obeys_error rule e
    | ok a => exact hnext a rfl
  | consult ask ih => exact fun d => ih _ fun a ha => hnext a ⟨_, ha⟩

/-! ### Steps -/

/-- A procedure that is gone on with after a piece of work. -/
private theorem Position.obeys_after {next : Procedure σ α} (h : next.Obeys rule)
    (r : Except Failure Unit) : (after next r).Obeys rule := by
  cases r with
  | ok => exact h
  | error e => exact Procedure.obeys_error rule e

/-- **A step leaves a call that obeys the rule.** -/
theorem Position.Obeys.step {free : Lock → Bool} {s s' : Shared σ} {p q : Position σ α}
    (hp : p.Obeys rule) (h : p.step? backend free s = some (q, s')) : q.Obeys rule := by
  cases transition_of_step? h with
  | enter | load => exact hp
  | approach => exact ⟨hp.1, trivial, hp.2⟩
  | read next => exact hp s.directory
  | answer decide r _ hdecide =>
    have hd : (decide s.directory).Obeys rule s.directory := hp s.directory
    rw [hdecide] at hd
    exact hd
  | commit decide change a _ hdecide =>
    have hd : (decide s.directory).Obeys rule s.directory := hp s.directory
    rw [hdecide] at hd
    exact hd.2
  | loaded => exact obeys_after hp _
  | prepare _ _ _ _ _ _ hprepare => exact ⟨hp.1, hp.2.1.step hprepare, hp.2.2⟩
  | prepared => exact obeys_after hp.2.2 _
  | save =>
    rintro _ ⟨⟩
    exact hp
  | rollBack => exact Procedure.obeys_error rule _

/-- What a call has ended with is something that it may answer with. -/
theorem Position.Obeys.answers {p : Position σ α} (hp : p.Obeys rule) {a : α}
    (h : p.result? = some (.ok a)) : rule.answers a := by
  cases p with
  | before p =>
    cases p with
    | finish r =>
      cases h
      exact hp a rfl
    | load | prepare | read | write => cases h
  | loading | preparing | saving => cases h

namespace Service

variable {y z : Service σ α}

/-- **A step leaves a call that obeys its rule**, whichever call it is that takes the step. -/
theorem obeys_of_step {i k : ℕ} (hk : ∀ p, y.calls[k]? = some p → p.Obeys rule)
    (h : y.step? backend i = some z) {p : Position σ α} (hp : z.calls[k]? = some p) :
    p.Obeys rule := by
  obtain ⟨p', q, s', hi, hstep, rfl⟩ := step?_eq_some h
  rcases getElem?_set_cases hp with ⟨rfl, rfl⟩ | ⟨-, hold⟩
  · exact (hk p' hi).step hstep
  · exact hk p hold

/-- A step leaves calls that all obey a rule. -/
theorem forall_obeys_of_step {i : ℕ} (hy : ∀ p ∈ y.calls, p.Obeys rule)
    (h : y.step? backend i = some z) : ∀ p ∈ z.calls, p.Obeys rule := by
  intro p hp
  obtain ⟨k, hk⟩ := List.mem_iff_getElem?.1 hp
  exact obeys_of_step (fun q hq => hy q (List.mem_of_getElem? hq)) h hk

/-- Where a call stands that has not begun. -/
theorem obeys_start {s : Shared σ} {procedures : List (Procedure σ α)} {k : ℕ}
    (hk : ∀ procedure, procedures[k]? = some procedure → procedure.Obeys rule)
    {p : Position σ α} (hp : (start s procedures).calls[k]? = some p) : p.Obeys rule := by
  rw [start, List.getElem?_map] at hp
  obtain ⟨procedure, hprocedure, rfl⟩ := Option.map_eq_some_iff.1 hp
  exact hk procedure hprocedure

end Service

end SignIn
