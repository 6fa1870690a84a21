import Mathlib.Data.List.Nodup
import SignIn.Proofs.Account.Holders

/-!
# What becomes of a user

A user who is there has been added, and from then on credentials and tokens may be added to it; what
it shows of itself never changes (`User.Extends`). So a change of the directory leaves every user
there, with all that it had, except the one that it removes (`Directory.exists_extends_apply`).

Credentials come and go with their users. An id that nobody holds is held again only after a change
that adds credentials with it (`Directory.holder?_apply_eq_none`), and nobody holds it once its
holder has been removed (`Directory.holder?_removeUser_eq_none`).
-/

namespace SignIn

namespace User

/-- A user is another one to whom credentials and tokens may have been added. -/
structure Extends (u v : User) : Prop where
  view : v.view = u.view
  credentials : u.credentials <+: v.credentials
  tokens : u.tokens <+: v.tokens

variable {u v w : User}

theorem Extends.refl (u : User) : u.Extends u := ⟨rfl, List.prefix_refl _, List.prefix_refl _⟩

theorem Extends.trans (h : u.Extends v) (h' : v.Extends w) : u.Extends w :=
  ⟨h'.view.trans h.view, h.credentials.trans h'.credentials, h.tokens.trans h'.tokens⟩

theorem Extends.id_eq (h : u.Extends v) : v.id = u.id := congrArg UserView.id h.view

/-- Credentials that a user has held it still holds. -/
theorem Extends.holdsFrom (h : u.Extends v) {key : ProviderKey} {credentialsId : String}
    (hu : u.holdsFrom key credentialsId = true) : v.holdsFrom key credentialsId = true := by
  obtain ⟨c, hc, hkey, hid⟩ := holdsFrom_iff.1 hu
  exact holdsFrom_iff.2 ⟨c, h.credentials.subset hc, hkey, hid⟩

end User

/-- An item of a list in which one item changes is there as it was, or changed. -/
private theorem mem_modify_of_mem {α : Type} {g : α → α} {xs : List α} {x : α} (h : x ∈ xs)
    (i : ℕ) : x ∈ xs.modify i g ∨ g x ∈ xs.modify i g := by
  obtain ⟨j, hj⟩ := List.mem_iff_getElem?.1 h
  by_cases hij : i = j
  · exact Or.inr (mem_modify_self (hij ▸ hj))
  · refine Or.inl (List.mem_of_getElem? (i := j) ?_)
    rw [List.getElem?_modify, hj, Option.map_eq_map, Option.map_some, if_neg hij]

/-- The credentials that a change adds. -/
def Change.added : Change → List Credentials
  | .addUser u => u.credentials
  | .addCredentials _ c => [c]
  | .removeUser _ _ | .addToken _ _ | .addClient _ => []

namespace Directory

variable {d : Directory} {c : Change} {u : User} {credentialsId : String}

/-- **A user stays with all that it has**, as long as nobody with its id is removed. -/
theorem exists_extends_apply (hu : u ∈ d.users) (hc : c.Fits d)
    (hremove : ∀ i w, c = .removeUser i w → w.id ≠ u.id) :
    ∃ v ∈ (c.apply d).users, u.Extends v := by
  cases c with
  | addUser w => exact ⟨u, List.mem_append_left _ hu, .refl u⟩
  | addClient client => exact ⟨u, hu, .refl u⟩
  | addCredentials i e =>
    rcases mem_modify_of_mem hu i with hv | hv
    · exact ⟨u, hv, .refl u⟩
    · exact ⟨_, hv, rfl, List.prefix_append _ _, List.prefix_refl _⟩
  | addToken i t =>
    rcases mem_modify_of_mem hu i with hv | hv
    · exact ⟨u, hv, .refl u⟩
    · exact ⟨_, hv, rfl, List.prefix_refl _, List.prefix_append _ _⟩
  | removeUser i w =>
    obtain ⟨j, hj⟩ := List.mem_iff_getElem?.1 hu
    have hji : j ≠ i := by
      rintro rfl
      cases hc.symm.trans hj
      exact hremove j u rfl rfl
    exact ⟨u, List.mem_eraseIdx_iff_getElem?.2 ⟨j, hji, hj⟩, .refl u⟩

/-- All credentials after a change were there, or have been added by it. -/
private theorem mem_credentials_apply {e : Credentials} (h : e ∈ (c.apply d).credentials) :
    e ∈ d.credentials ∨ e ∈ c.added := by
  obtain ⟨u, hu, he⟩ := List.mem_flatMap.1 h
  have hold : ∀ w ∈ d.users, e ∈ w.credentials → e ∈ d.credentials :=
    fun w hw hew => List.mem_flatMap.2 ⟨w, hw, hew⟩
  cases c with
  | addUser w =>
    rcases List.mem_append.1 hu with hu | hu
    · exact Or.inl (hold u hu he)
    · rw [List.mem_singleton.1 hu] at he
      exact Or.inr he
  | addCredentials i e' =>
    rcases mem_modify_cases hu with hu | ⟨w, hw, rfl⟩
    · exact Or.inl (hold u hu he)
    · rcases List.mem_append.1 he with he | he
      · exact Or.inl (hold w (List.mem_of_getElem? hw) he)
      · exact Or.inr he
  | removeUser i w => exact Or.inl (hold u (List.mem_of_mem_eraseIdx hu) he)
  | addToken i t =>
    rcases mem_modify_cases hu with hu | ⟨w, hw, rfl⟩
    · exact Or.inl (hold u hu he)
    · exact Or.inl (hold w (List.mem_of_getElem? hw) he)
  | addClient client => exact Or.inl (hold u hu he)

/-- **An id that nobody holds stays so** under a change that adds no credentials with it. -/
theorem holder?_apply_eq_none (h : d.holder? credentialsId = none)
    (hadd : ∀ e ∈ c.added, e.id ≠ credentialsId) : (c.apply d).holder? credentialsId = none := by
  rw [holder?_eq_none_iff] at h ⊢
  intro hmem
  obtain ⟨e, he, hid⟩ := List.mem_map.1 hmem
  rcases mem_credentials_apply he with he | he
  · exact h (List.mem_map.2 ⟨e, he, hid⟩)
  · exact hadd e he hid

/-- **Nobody holds credentials whose holder has been removed.** -/
theorem holder?_removeUser_eq_none (hids : (d.users.map User.id).Nodup)
    (hcredentials : (d.credentials.map Credentials.id).Nodup) {i : ℕ} (hi : d.users[i]? = some u)
    (hholds : u.holds credentialsId = true) :
    ((Change.removeUser i u).apply d).holder? credentialsId = none := by
  refine List.find?_eq_none.2 fun v hv hvholds => ?_
  obtain ⟨j, hji, hj⟩ := List.mem_eraseIdx_iff_getElem?.1 hv
  obtain rfl := eq_of_holds hcredentials (List.mem_of_getElem? hi) (List.mem_of_getElem? hj) hholds
    hvholds
  -- one user cannot stand at two places
  obtain ⟨hilt, hiu⟩ := List.getElem?_eq_some_iff.1 hi
  obtain ⟨hjlt, hju⟩ := List.getElem?_eq_some_iff.1 hj
  have hnodup : d.users.Nodup := hids.of_map
  exact hji (((List.Nodup.getElem_inj_iff hnodup).1 (hju.trans hiu.symm)))

end Directory

end SignIn
