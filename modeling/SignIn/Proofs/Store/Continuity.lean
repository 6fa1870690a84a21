import SignIn.Proofs.Account.Continuity
import SignIn.Proofs.Store.Resolution
import SignIn.Proofs.Time.Arithmetic

/-!
# What becomes of the data between two moments of a run

Calls of the store add to the data, and only removals take anything away. Between two moments at
which the data are loaded and free, clients are never lost; users leave only by a removal with
their id that succeeds; and all others keep their place, what they show of themselves, their
credentials and their tokens, with whatever has been added behind (`Store.continues_turns`). Saves
may fail in between: a user whose removal could not be saved comes back to its place, and what was
added is taken off the end again.

The proof goes along the settled state, which such calls never touch, so that each turn of the run
is at most one change (`Directory.Continues.apply`).
-/

namespace SignIn.Store

variable {σ : Type} {backend : Backend σ} {s : Shared σ} {calls : List (Call σ)}

/-- Whether a call is there to create a user with an id: a login with credentials that are marked as
new. -/
def Call.Makes (userId : String) : Call σ → Prop
  | resolve _ userId' c => c.isNew = true ∧ userId' = userId
  | _ => False

/-- Users are added by calls that are there to create them. -/
private theorem Call.makes_of_alters {call : Call σ} {ds : List Directory} {d : Directory}
    {u : User} (h : (call.replaying ds).Alters d (.addUser u)) : call.Makes u.id := by
  cases call with
  | resolve provider userId c =>
    obtain ⟨hnew, -, about, -, heq⟩ := h
    cases heq
    exact ⟨hnew, rfl⟩
  | load | user? | users | clients | credentialsOf => exact h.elim
  | link =>
    obtain ⟨-, i, w, -, -, heq⟩ := h
    cases heq
  | removeUser | createToken =>
    obtain ⟨i, w, -, -, heq⟩ := h
    cases heq
  | createClient => cases h

/-- The settled state is the one in memory while the data are loaded and free. -/
theorem Stage.eq_of_free {order : List ℕ} {v : Shared σ} (h : Stage backend s calls order v)
    (hl : ((opening s calls).turns backend order).shared.loaded = true)
    (hfree : ((opening s calls).turns backend order).free .data = true) :
    v = ((opening s calls).turns backend order).shared := by
  have horderly : ((opening s calls).turns backend order).Orderly :=
    (orderly_opening s calls).turns order
  have hsettled : ((opening s calls).turns backend order).Settled v := by
    rw [opening_eq]
    exact h.settled
  exact hsettled.eq_of_level fun _ hp => horderly.isPending_eq_false hl hfree hp

variable {before stretch : List ℕ} {v : Shared σ}

/-- One directory has become another one in a stretch of a run: whoever has left has been removed in
it, and whoever has joined has been created in it. -/
abbrev ContinuesIn (backend : Backend σ) (s : Shared σ) (calls : List (Call σ))
    (before stretch : List ℕ) : Directory → Directory → Prop :=
  Directory.Continues
    (fun userId => Succeeds backend s calls (· = .removeUser userId) before stretch)
    fun userId => Succeeds backend s calls (Call.Makes userId) before stretch

/-- What lies between the settled data of two moments. -/
private theorem Stage.continues (h : Stage backend s calls before v) (hl : v.loaded = true)
    (stretch : List ℕ) : ∃ v', Stage backend s calls (before ++ stretch) v' ∧
      ContinuesIn backend s calls before stretch v.directory v'.directory := by
  suffices hloaded : ∃ v', Stage backend s calls (before ++ stretch) v' ∧ v'.loaded = true ∧
      ContinuesIn backend s calls before stretch v.directory v'.directory by
    obtain ⟨v', h', -, hcontinues⟩ := hloaded
    exact ⟨v', h', hcontinues⟩
  induction stretch using List.reverseRecOn with
  | nil => exact ⟨v, by rwa [List.append_nil], hl, .refl _⟩
  | append_singleton stretch k ih =>
    obtain ⟨v₁, h₁, hl₁, hcontinues⟩ := ih
    obtain ⟨v₂, h₂, hl₂, hcases⟩ := h₁.turn_of_loaded hl₁ k
    have hlonger : ContinuesIn backend s calls before (stretch ++ [k]) v.directory v₁.directory :=
      hcontinues.mono (fun _ hremoved => hremoved.append [k]) fun _ hmade => hmade.append [k]
    refine ⟨v₂, by rwa [← List.append_assoc], hl₂, ?_⟩
    rcases hcases with hsame | ⟨call, reply, ds, change, hcall, hends, halters, hchange⟩
    · rw [hsame]
      exact hlonger
    · rw [hchange]
      refine hlonger.apply halters.ordains.fits ?_ ?_
      · rintro i u rfl
        exact succeeds_concat hcall (Call.eq_removeUser_of_alters halters) hends
      · rintro u rfl
        exact succeeds_concat hcall (Call.makes_of_alters halters) hends

/-- What lies between the data at two moments of a run. -/
structure Lasts (backend : Backend σ) (s : Shared σ) (calls : List (Call σ))
    (before stretch : List ℕ) (d d' : Directory) : Prop where
  /-- Clients stay. Users stay in their order, with all that they had, or have been removed; behind
  them stand those who have been created. -/
  continues : ContinuesIn backend s calls before stretch d d'
  /-- Whoever has the id of a user who was there is that user, perhaps with more; unless it has been
  removed, and its id has been drawn again. -/
  sameUser : ∀ u ∈ d.users, ∀ w ∈ d'.users, w.id = u.id → u.Extends w ∨
    (Succeeds backend s calls (· = .removeUser u.id) before stretch ∧
      Succeeds backend s calls (Call.Makes u.id) before stretch)
  /-- If no user has been removed, then all are still there, in front of all others. -/
  grows : (∀ u ∈ d.users, ¬ Succeeds backend s calls (· = .removeUser u.id) before stretch) →
    ∃ stayed come, d'.users = stayed ++ come ∧ List.Forall₂ User.Extends d.users stayed

/-- **Between removals the data only grow**: in a run of any calls from data that are well formed,
in which no id that is drawn is in use, from any moment at which the data are loaded and free to any
later one at which they are free. -/
theorem lasts_turns (hdata : s.directory.WellFormed)
    (hoffers : s.loaded = false → backend.Offers Directory.WellFormed s.world)
    (hfresh : (opening s calls).Allows backend (fun d change => change.Fresh d)
      (before ++ stretch))
    (hl : ((opening s calls).turns backend before).shared.loaded = true)
    (hfree : ((opening s calls).turns backend before).free .data = true)
    (hfree' : ((opening s calls).turns backend (before ++ stretch)).free .data = true) :
    Lasts backend s calls before stretch ((opening s calls).turns backend before).shared.directory
      ((opening s calls).turns backend (before ++ stretch)).shared.directory := by
  have hl' : ((opening s calls).turns backend (before ++ stretch)).shared.loaded = true := by
    rw [Service.turns_append]
    exact Service.loaded_turns hl stretch
  obtain ⟨v, h⟩ := exists_stage backend s calls before
  have hv := h.eq_of_free hl hfree
  obtain ⟨v', h', hcontinues⟩ := h.continues (hv ▸ hl) stretch
  have hwf := h.wellFormed hdata hoffers hfresh.of_append
  have hwf' := h'.wellFormed hdata hoffers hfresh
  rw [← hv, ← h'.eq_of_free hl' hfree']
  refine ⟨hcontinues, fun u hu w hw hid => ?_, hcontinues.users.exists_append⟩
  exact hcontinues.users.extends_of_id_eq hwf.userIds hwf'.userIds hu hw hid

/-- Two people sign in; the first of them is removed, at the second attempt, and in the meantime the
other one gets a token, and somebody else signs in. -/
def household : List (Call (List Bool)) :=
  let provider := PasswordList.provider { kind := PasswordList.kind } []
  let fresh (id : String) := provider.issue id (PasswordList.loginData id)
  [.resolve provider "u1" (fresh "first"), .resolve provider "u2" (fresh "second"),
    .removeUser "u1", .createToken .standard "u2" "app" "t1" .epoch,
    .removeUser "u1", .resolve provider "u3" (fresh "third")]

/-- The turns of the first two calls. -/
def movingIn : List ℕ := List.replicate 12 0 ++ List.replicate 12 1

/-- The turns of the others, which overlap. -/
def changing : List ℕ := List.replicate 6 2 ++ (List.replicate 12 [3, 4, 5]).flatten

theorem lasts_turns_household :
    let s : Shared (List Bool) := { world := [true, true, true, false] }
    s.directory.WellFormed ∧ scripted.Offers Directory.WellFormed s.world ∧
      (opening s household).Allows scripted (fun d change => change.Fresh d)
        (movingIn ++ changing) ∧
      Lasts scripted s household movingIn changing
        ((opening s household).turns scripted movingIn).shared.directory
        ((opening s household).turns scripted (movingIn ++ changing)).shared.directory ∧
      ((opening s household).turns scripted movingIn).shared.directory.users.map User.id
        = ["u1", "u2"] ∧
      ((opening s household).turns scripted (movingIn ++ changing)).shared.directory.users.map
        (fun u => (u.id, u.tokens.length)) = [("u2", 1), ("u3", 0)] := by
  intro s
  have hempty : Directory.WellFormed {} := Directory.wellFormed_empty
  have hoffers := offers_scripted hempty s.world
  have hfresh : (opening s household).Allows scripted (fun d change => change.Fresh d)
      (movingIn ++ changing) := by
    decide +kernel
  have hlasts := lasts_turns hempty (fun _ => hoffers) hfresh (by decide +kernel)
    (by decide +kernel) (by decide +kernel)
  exact ⟨hempty, hoffers, hfresh, hlasts, by decide +kernel, by decide +kernel⟩

end SignIn.Store
