import SignIn.Proofs.Account.Ownership
import SignIn.Proofs.Service.Books
import SignIn.Proofs.Service.Kept
import SignIn.Proofs.Store.WellFormed

/-!
# What calls of the store write

`Store.Call.Alters` lists the changes that each call of the store can make, and to which data; a
call that only looks something up makes none. All calls load the data first. So the data of a store
take their course in every run, by changes of these kinds (`Store.course_turns`).
-/

namespace SignIn

variable {σ : Type} {backend : Backend σ}

namespace Store

namespace Call

/-- The changes that a call can make to some data. -/
def Alters (d : Directory) (change : Change) : Call σ → Prop
  | resolve provider userId c => c.isNew = true ∧ d.holder? c.id = none ∧
      ∃ about, (provider.userMeta c).Answers about ∧ change = .addUser (newUser d userId about c)
  | link userId c => d.holder? c.id = none ∧
      ∃ i u, d.users[i]? = some u ∧ u.id = userId ∧ change = .addCredentials i c.linked
  | removeUser userId => ∃ i u, d.users[i]? = some u ∧ u.id = userId ∧ change = .removeUser i u
  | createToken validity userId clientId tokenId now => ∃ i u, d.users[i]? = some u ∧
      u.id = userId ∧ change = .addToken i (Token.issue userId clientId tokenId now validity)
  | createClient c => change = .addClient c
  | load | user? _ | users | clients | credentialsOf _ => False

/-- **A call makes no other changes.** -/
theorem commits_alters (c : Call σ) :
    c.procedure.Obeys (.commits fun d change => c.Alters d change) := by
  cases c with
  | load => exact fun _ _ => trivial
  | user? | users | clients | credentialsOf => exact fun _ _ _ => trivial
  | resolve provider userId c =>
    refine Procedure.obeys_map.2 ?_
    show Procedure.Obeys _ (if c.isNew then _ else _)
    cases hc : c.isNew with
    | false => exact fun _ _ _ => trivial
    | true =>
      -- whatever the provider answers, the decision comes after it
      refine Hook.obeys_andThen _ fun about habout => Procedure.obeys_write fun d change r h => ?_
      obtain ⟨hnone, rfl, -⟩ := decideNew_eq_commit h
      exact ⟨hc, hnone, about, habout, rfl⟩
  | link userId c =>
    refine Procedure.obeys_map.2 (Procedure.obeys_write fun d change a h => ?_)
    cases hholder : d.holder? c.id with
    | some u =>
      simp only [hholder] at h
      split at h <;> cases h
    | none =>
      simp only [hholder] at h
      obtain ⟨i, u, hu, hid, hcommit⟩ := withUser_eq_commit h
      cases hcommit
      exact ⟨hholder, i, u, hu, hid, rfl⟩
  | removeUser userId =>
    refine Procedure.obeys_map.2 (Procedure.obeys_write fun d change a h => ?_)
    obtain ⟨i, u, hu, hid, hcommit⟩ := withUser_eq_commit h
    cases hcommit
    exact ⟨i, u, hu, hid, rfl⟩
  | createToken validity userId clientId tokenId now =>
    refine Procedure.obeys_map.2 (Procedure.obeys_write fun d change a h => ?_)
    obtain ⟨i, u, hu, hid, hcommit⟩ := withUser_eq_commit h
    cases hcommit
    exact ⟨i, u, hu, hid, rfl⟩
  | createClient client =>
    refine Procedure.obeys_map.2 (Procedure.obeys_write fun d change a h => ?_)
    cases h
    rfl

/-- A user who is added is the owner, and active, just where there is no user yet. -/
theorem Alters.ordains {c : Call σ} {d : Directory} {change : Change} (h : c.Alters d change) :
    change.Ordains d := by
  cases c with
  | load | user? | users | clients | credentialsOf => exact h.elim
  | resolve provider userId c =>
    obtain ⟨-, -, about, -, rfl⟩ := h
    exact ⟨rfl, rfl⟩
  | link userId c =>
    obtain ⟨-, i, u, -, -, rfl⟩ := h
    trivial
  | removeUser userId =>
    obtain ⟨i, u, hu, -, rfl⟩ := h
    exact hu
  | createToken =>
    obtain ⟨i, u, -, -, rfl⟩ := h
    trivial
  | createClient =>
    obtain rfl := h
    trivial

/-- A call loads the data before it touches them. -/
theorem isGuarded_procedure (c : Call σ) : c.procedure.IsGuarded := by
  rw [procedure_eq]
  trivial

end Call

/-! ### Whole runs -/

/-- The changes that some calls can make, told by their numbers. -/
def Alter (calls : List (Call σ)) (i : ℕ) (d : Directory) (change : Change) : Prop :=
  ∃ c, calls[i]? = some c ∧ c.Alters d change

variable {s : Shared σ} {calls : List (Call σ)}

theorem Alter.ordains {i : ℕ} {d : Directory} {change : Change} (h : Alter calls i d change) :
    change.Ordains d := by
  obtain ⟨c, -, hc⟩ := h
  exact hc.ordains

theorem Alter.fits {i : ℕ} {d : Directory} {change : Change} (h : Alter calls i d change) :
    change.Fits d :=
  h.ordains.fits

/-- The calls of a store are orderly where they begin. -/
theorem orderly_opening (s : Shared σ) (calls : List (Call σ)) :
    (opening s calls).Orderly := by
  refine Service.orderly_start s fun p hp => ?_
  obtain ⟨c, -, rfl⟩ := List.mem_map.1 hp
  exact ⟨c.body, c.procedure_eq, c.isGuided_body.plain⟩

/-- **The course of the data of a store.** -/
theorem course_turns (backend : Backend σ) (s : Shared σ) (calls : List (Call σ))
    (order : List ℕ) :
    Journal.Lawful (Alter calls) s.data? ((opening s calls).journal backend order) ∧
      ((opening s calls).turns backend order).Course (Alter calls)
        (Journal.secured s.data? ((opening s calls).journal backend order)) := by
  have hstart : (opening s calls).Course (Alter calls) s.data? := by
    refine Service.course_start s (fun p hp => ?_) fun i p hp => ?_
    · obtain ⟨c, -, rfl⟩ := List.mem_map.1 hp
      exact c.isGuarded_procedure
    · rw [List.getElem?_map] at hp
      obtain ⟨c, hc, rfl⟩ := Option.map_eq_some_iff.1 hp
      exact c.commits_alters.mono_commits fun d change h => ⟨c, hc, h⟩
  exact hstart.turns (fun _ _ _ h => h.fits) backend order

/-! ### A run with stored data -/

/-- A backend that keeps what was saved last, and is told beforehand which loads and which saves
succeed. -/
def archive : Backend (List Bool × Directory) where
  load
    | (false :: w, d) => (.error (.storage "load failed"), (w, d))
    | (w, d) => (.ok d, (w.drop 1, d))
  save d
    | (false :: w, d') => (.error (.storage "save failed"), (w, d'))
    | (w, _) => (.ok (), (w.drop 1, d))

theorem keeps_archive : archive.Keeps Prod.snd where
  load := by
    intro w d w' h
    simp only [archive] at h
    split at h <;> cases h
    exact ⟨rfl, rfl⟩
  load_error := by
    intro w e w' h
    simp only [archive] at h
    split at h <;> cases h
    rfl
  save := by
    intro d w w' h
    simp only [archive] at h
    split at h <;> cases h
    rfl
  save_error := by
    intro d w e w' h
    simp only [archive] at h
    split at h <;> cases h
    rfl

/-- First logins of three people. -/
def arrivals : List (Call σ) :=
  let provider := PasswordList.provider { kind := PasswordList.kind } []
  let fresh (id : String) := provider.issue id (PasswordList.loginData id)
  [.resolve provider "u1" (fresh "first"), .resolve provider "u2" (fresh "second"),
    .resolve provider "u3" (fresh "third")]

end Store

end SignIn
