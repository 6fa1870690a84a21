import Mathlib.Data.List.Induction
import SignIn.Proofs.Service.Gate

/-!
# The journal of a run

`Service.journal` lists what is done in the course of a run, in the order in which it is done, and
by which call. From the journal alone one can tell which data are safe with the backend
(`Journal.secured`): those that it has loaded, with every change that it has saved.

`Journal.Lawful` is what the deeds of a journal have to do with each other: only data that are safe
are put into memory, looked at or changed, and what is handed to the backend are the data that are
safe with one change made to them. So the data that are safe become others by one change at a time
that is saved (`Journal.Lawful.keeps`).
-/

namespace SignIn

/-! ### Journals -/

/-- What calls have done, one after another. -/
abbrev Journal := List (ℕ × Deed)

namespace Journal

/-- The entry of a call in a journal, if it does anything. -/
def entry (i : ℕ) : Option Deed → Journal
  | none => []
  | some deed => [(i, deed)]

@[simp] theorem entry_none (i : ℕ) : entry i none = [] := rfl

@[simp] theorem entry_some (i : ℕ) (deed : Deed) : entry i (some deed) = [(i, deed)] := rfl

end Journal

/-- The data that are safe with the backend after a deed, as far as calls have been told: those that
were loaded, and after that those that were saved last. -/
def Deed.secure (d? : Option Directory) : Deed → Option Directory
  | .load (.ok d) => some d
  | .save _ c (.ok ()) => d?.map c.apply
  | _ => d?

/-- What a deed has to do with the data that are safe, where changes are of some sort. -/
def Deed.Lawful (R : Directory → Change → Prop) (d? : Option Directory) : Deed → Prop
  | .load _ => d? = none
  | .install d | .look d => d? = some d
  | .change d c => d? = some d ∧ R d c
  | .save snapshot c _ => ∃ d, d? = some d ∧ snapshot = c.apply d ∧ R d c

namespace Journal

/-- The data that are safe with the backend in the end. -/
def secured (d? : Option Directory) (log : Journal) : Option Directory :=
  log.foldl (fun d? x => x.2.secure d?) d?

/-- Every deed has to do with the data that are safe what it should. -/
def Lawful (R : ℕ → Directory → Change → Prop) (d? : Option Directory) (log : Journal) : Prop :=
  ∀ before i deed after, log = before ++ (i, deed) :: after →
    deed.Lawful (R i) (secured d? before)

variable {R : ℕ → Directory → Change → Prop} {d? : Option Directory} {log log' : Journal}

theorem secured_append : secured d? (log ++ log') = secured (secured d? log) log' :=
  List.foldl_append

theorem secured_entry (i : ℕ) (deed? : Option Deed) :
    secured d? (entry i deed?) = deed?.elim d? (·.secure d?) := by
  cases deed? <;> rfl

private theorem secured_concat (i : ℕ) (deed : Deed) :
    secured d? (log ++ [(i, deed)]) = deed.secure (secured d? log) :=
  secured_append

theorem lawful_nil : Lawful R d? [] := by
  intro before i deed after h
  cases before <;> cases h

theorem Lawful.concat (h : Lawful R d? log) {i : ℕ} {deed? : Option Deed}
    (hdeed : ∀ deed, deed? = some deed → deed.Lawful (R i) (secured d? log)) :
    Lawful R d? (log ++ entry i deed?) := by
  cases deed? with
  | none => rwa [entry_none, List.append_nil]
  | some deed =>
    intro before j deed' after heq
    rw [entry_some] at heq
    rcases List.eq_nil_or_concat after with rfl | ⟨after, x, rfl⟩
    · obtain ⟨rfl, hlast⟩ := List.append_inj' heq rfl
      cases hlast
      exact hdeed deed rfl
    · rw [List.concat_eq_append, ← List.cons_append, ← List.append_assoc] at heq
      obtain ⟨rfl, -⟩ := List.append_inj' heq rfl
      exact h before j deed' after rfl

theorem Lawful.of_append_left (h : Lawful R d? (log ++ log')) : Lawful R d? log := by
  rintro before i deed after rfl
  exact h before i deed (after ++ log') (by simp)

theorem Lawful.of_append_right (h : Lawful R d? (log ++ log')) :
    Lawful R (secured d? log) log' := by
  rintro before i deed after rfl
  rw [← secured_append]
  exact h (log ++ before) i deed after (by simp)

theorem Lawful.last {i : ℕ} {deed : Deed} (h : Lawful R d? (log ++ [(i, deed)])) :
    deed.Lawful (R i) (secured d? log) :=
  h log i deed [] rfl

/-- A change that is made is one that the call can make. -/
theorem Lawful.of_change (h : Lawful R d? log) {i : ℕ} {d : Directory} {c : Change}
    (hmem : (i, .change d c) ∈ log) : R i d c := by
  obtain ⟨before, after, rfl⟩ := List.append_of_mem hmem
  exact (h before i _ after rfl).2

/-- **What every change keeps that is saved, the data keep that are safe.** -/
theorem Lawful.keeps {P : Directory → Prop} {d : Directory} (h : Lawful R (some d) log)
    (hd : P d) (hstep : ∀ i d' c, (i, Deed.save (c.apply d') c (.ok ())) ∈ log → R i d' c →
      P d' → P (c.apply d')) : ∃ d', secured (some d) log = some d' ∧ P d' := by
  induction log using List.reverseRecOn with
  | nil => exact ⟨d, rfl, hd⟩
  | append_singleton log x ih =>
    obtain ⟨i, deed⟩ := x
    obtain ⟨d', hd', hP⟩ := ih h.of_append_left fun i d' c hmem =>
      hstep i d' c (List.mem_append_left _ hmem)
    have hlast := h.last
    rw [hd'] at hlast
    rw [secured_concat, hd']
    -- only a save that succeeds leads to other data
    cases deed with
    | load answer => cases hlast
    | install | look | change => exact ⟨d', rfl, hP⟩
    | save snapshot c answer =>
      obtain ⟨_, heq, rfl, hc⟩ := hlast
      cases heq
      cases answer with
      | error => exact ⟨d', rfl, hP⟩
      | ok => exact ⟨c.apply d', rfl, hstep i d' c (by simp) hc hP⟩

/-- Data that are safe have been loaded at some point. -/
theorem exists_load {d : Directory} (h : secured none log = some d) :
    ∃ before i d₀ rest, log = before ++ (i, Deed.load (.ok d₀)) :: rest := by
  induction log using List.reverseRecOn generalizing d with
  | nil => cases h
  | append_singleton log x ih =>
    obtain ⟨i, deed⟩ := x
    cases hd : secured none log with
    | some d' =>
      obtain ⟨before, j, d₀, rest, rfl⟩ := ih hd
      exact ⟨before, j, d₀, rest ++ [(i, deed)], by simp⟩
    | none =>
      rw [secured_concat, hd] at h
      cases deed with
      | load answer =>
        cases answer with
        | error => cases h
        | ok d₀ => exact ⟨log, i, d₀, [], rfl⟩
      | install | look | change => cases h
      | save snapshot c answer => cases answer <;> cases h

/-- From a load on, the journal begins with the data that have been loaded. -/
theorem Lawful.of_load {before rest : Journal} {i : ℕ} {d : Directory}
    (h : Lawful R d? (before ++ (i, .load (.ok d)) :: rest)) :
    Lawful R (some d) rest ∧
      secured d? (before ++ (i, .load (.ok d)) :: rest) = secured (some d) rest := by
  have hrest := h.of_append_right
  rw [← List.singleton_append] at hrest
  exact ⟨hrest.of_append_right, secured_append⟩

end Journal

/-! ### The journal of a run -/

namespace Service

variable {σ α : Type} {backend : Backend σ}

/-- What a call does in its next turn. -/
def deed? (backend : Backend σ) (y : Service σ α) (i : ℕ) : Option Deed :=
  match y.step? backend i with
  | none => none
  | some _ => y.calls[i]?.bind (Position.deed? backend y.shared)

/-- What is done in the course of a run. -/
def journal (backend : Backend σ) (y : Service σ α) : List ℕ → Journal
  | [] => []
  | i :: order => .entry i (y.deed? backend i) ++ journal backend (y.turn backend i) order

theorem deed?_of_step? {y z : Service σ α} {i : ℕ} {p : Position σ α}
    (h : y.step? backend i = some z) (hp : y.calls[i]? = some p) :
    y.deed? backend i = p.deed? backend y.shared := by
  rw [deed?, h, hp, Option.bind_some]

private theorem deed?_of_step?_eq_none {y : Service σ α} {i : ℕ} (h : y.step? backend i = none) :
    y.deed? backend i = none := by
  rw [deed?, h]

private theorem journal_append (y : Service σ α) (before after : List ℕ) :
    y.journal backend (before ++ after)
      = y.journal backend before ++ (y.turns backend before).journal backend after := by
  induction before generalizing y with
  | nil => rfl
  | cons i before ih => rw [List.cons_append, journal, ih, journal, turns_cons, List.append_assoc]

theorem turns_append (y : Service σ α) (before after : List ℕ) :
    y.turns backend (before ++ after) = (y.turns backend before).turns backend after :=
  List.foldl_append

/-- Only calls that there are do anything. -/
theorem lt_of_mem_journal {y : Service σ α} {order : List ℕ} {i : ℕ} {deed : Deed}
    (h : (i, deed) ∈ y.journal backend order) : i < y.calls.length := by
  induction order generalizing y with
  | nil => cases h
  | cons k order ih =>
    rcases List.mem_append.1 h with h | h
    · cases hk : y.calls[k]? with
      | none =>
        have hdeed : y.deed? backend k = none := by simp [deed?, step?, hk]
        rw [hdeed] at h
        cases h
      | some p =>
        obtain ⟨hlt, -⟩ := List.getElem?_eq_some_iff.1 hk
        cases hdeed : y.deed? backend k with
        | none =>
          rw [hdeed] at h
          cases h
        | some deed' =>
          rw [hdeed, Journal.entry_some, List.mem_singleton] at h
          cases h
          exact hlt
    · have hlength : (y.turn backend k).calls.length = y.calls.length := length_calls_turns y [k]
      exact hlength ▸ ih h

/-- **What every step keeps of the state and the journal up to it, every run keeps.** -/
theorem journal_keeps {P : Service σ α → Journal → Prop}
    (hstep : ∀ y z i log, P y log → y.step? backend i = some z →
      P z (log ++ .entry i (y.deed? backend i)))
    {y : Service σ α} (hy : P y []) (order : List ℕ) :
    P (y.turns backend order) (y.journal backend order) := by
  induction order using List.reverseRecOn with
  | nil => exact hy
  | append_singleton order i ih =>
    rw [turns_concat, journal_append, journal, journal, List.append_nil, turn]
    cases h : (y.turns backend order).step? backend i with
    | none => rwa [deed?_of_step?_eq_none h, Journal.entry_none, List.append_nil]
    | some z => exact hstep _ z i _ ih h

end Service

end SignIn
