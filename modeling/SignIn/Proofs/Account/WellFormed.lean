import Mathlib.Data.List.Flatten
import Mathlib.Data.List.Nodup
import Mathlib.Data.Nat.Notation
import SignIn.Account.Directory

/-!
# Well-formed directories

In a well-formed directory no id occurs twice, all stored credentials count as linked, and a token
in a user's list is a token of that user. Ids of credentials come from outside, so that a change
that adds credentials has to look for their id first: `Change.Suits` is what a change has to heed.
Ids of users, tokens and clients are drawn when the change is made: `Change.Fresh` says that they
are not in use.

`Directory.WellFormed.apply` is the result: a change that heeds both keeps a directory
well formed.
-/

namespace SignIn

namespace Directory

/-- All credentials, in order. -/
def credentials (d : Directory) : List Credentials := d.users.flatMap User.credentials

/-- All tokens, in order. -/
def tokens (d : Directory) : List Token := d.users.flatMap User.tokens

/-- No id occurs twice, stored credentials are linked, and tokens are with their users. -/
structure WellFormed (d : Directory) : Prop where
  userIds : (d.users.map User.id).Nodup
  clientIds : (d.clients.map Client.id).Nodup
  tokenIds : (d.tokens.map Token.id).Nodup
  credentialsIds : (d.credentials.map Credentials.id).Nodup
  linked : ∀ u ∈ d.users, ∀ c ∈ u.credentials, c.isNew = false
  owned : ∀ u ∈ d.users, ∀ t ∈ u.tokens, t.userId = u.id

theorem wellFormed_empty : WellFormed {} := by
  constructor <;> simp [credentials, tokens]

/-- Nobody holds credentials with an id that no credentials have. -/
theorem holder?_eq_none_iff {d : Directory} {credentialsId : String} :
    d.holder? credentialsId = none ↔ credentialsId ∉ d.credentials.map Credentials.id := by
  simp only [holder?, User.holds, credentials, List.find?_eq_none, List.mem_map,
    List.mem_flatMap, List.any_eq_true, beq_iff_eq]
  constructor
  · rintro h ⟨c, ⟨u, hu, hc⟩, hid⟩
    exact h u hu ⟨c, hc, hid⟩
  · rintro h u hu ⟨c, hc, hid⟩
    exact h ⟨c, ⟨u, hu, hc⟩, hid⟩

end Directory

namespace Change

/-- The ids that are drawn for a change are not in use. -/
def Fresh (d : Directory) : Change → Prop
  | .addUser user => user.id ∉ d.users.map User.id
  | .addToken _ t => t.id ∉ d.tokens.map Token.id
  | .addClient client => client.id ∉ d.clients.map Client.id
  | .addCredentials _ _ | .removeUser _ _ => True

instance decidableFresh (d : Directory) : (change : Change) → Decidable (change.Fresh d)
  | .addUser user => inferInstanceAs (Decidable (user.id ∉ d.users.map User.id))
  | .addToken _ t => inferInstanceAs (Decidable (t.id ∉ d.tokens.map Token.id))
  | .addClient client => inferInstanceAs (Decidable (client.id ∉ d.clients.map Client.id))
  | .addCredentials _ _ | .removeUser _ _ => isTrue trivial

/-- What a change has to heed in a directory that it is made for. -/
def Suits (d : Directory) : Change → Prop
  | .addUser user => user.tokens = [] ∧ ∃ c, user.credentials = [c] ∧ c.isNew = false ∧
      c.id ∉ d.credentials.map Credentials.id
  | .addCredentials i c => (∃ u, d.users[i]? = some u) ∧ c.isNew = false ∧
      c.id ∉ d.credentials.map Credentials.id
  | .removeUser i user => d.users[i]? = some user
  | .addToken i t => ∃ u, d.users[i]? = some u ∧ t.userId = u.id
  | .addClient _ => True

/-- A change that suits a directory can be taken back. -/
theorem Suits.fits {d : Directory} {change : Change} (h : change.Suits d) : change.Fits d := by
  cases change with
  | removeUser => exact h
  | addUser | addCredentials | addToken | addClient => trivial

end Change

/-! ### One item of a list changes -/

section Modify

variable {α β : Type} {g : α → α}

/-- An item of a list in which one item has changed. -/
theorem mem_modify_cases {xs : List α} {i : ℕ} {x : α} (h : x ∈ xs.modify i g) :
    x ∈ xs ∨ ∃ a, xs[i]? = some a ∧ x = g a := by
  obtain ⟨j, hj⟩ := List.mem_iff_getElem?.1 h
  rw [List.getElem?_modify] at hj
  obtain ⟨a, ha, hax⟩ := Option.map_eq_some_iff.1 hj
  by_cases hij : i = j
  · rw [if_pos hij] at hax
    exact Or.inr ⟨a, hij ▸ ha, hax.symm⟩
  · rw [if_neg hij] at hax
    obtain rfl : a = x := hax
    exact Or.inl (List.mem_of_getElem? ha)

/-- The item that has changed is there. -/
theorem mem_modify_self {xs : List α} {i : ℕ} {a : α} (h : xs[i]? = some a) :
    g a ∈ xs.modify i g := by
  refine List.mem_of_getElem? (i := i) ?_
  rw [List.getElem?_modify_eq, h]
  rfl

/-- What is the same of an item after a change is the same of the list. -/
theorem map_modify_of_eq {f : α → β} (h : ∀ a, f (g a) = f a) (xs : List α) (i : ℕ) :
    (xs.modify i g).map f = xs.map f := by
  induction xs generalizing i with
  | nil => cases i <;> rfl
  | cons x xs ih =>
    cases i with
    | zero => simp [h]
    | succ i => simp [ih]

/-- What is the same of an item after a change is the same of the list, with lists for items. -/
private theorem flatMap_modify_of_eq {f : α → List β} (h : ∀ a, f (g a) = f a) (xs : List α)
    (i : ℕ) : (xs.modify i g).flatMap f = xs.flatMap f := by
  rw [List.flatMap_def, map_modify_of_eq h, List.flatMap_def]

/-- What an item has more after a change, the list has more. -/
private theorem flatMap_modify_perm {f : α → List β} {b : β} (h : ∀ a, f (g a) = f a ++ [b])
    {xs : List α} {i : ℕ} {a : α} (hi : xs[i]? = some a) :
    ((xs.modify i g).flatMap f).Perm (xs.flatMap f ++ [b]) := by
  induction xs generalizing i with
  | nil => cases hi
  | cons x xs ih =>
    cases i with
    | zero =>
      rw [List.modify_zero_cons, List.flatMap_cons, List.flatMap_cons, h, List.append_assoc,
        List.append_assoc]
      exact List.perm_append_comm.append_left (f x)
    | succ i =>
      rw [List.modify_succ_cons, List.flatMap_cons, List.flatMap_cons, List.append_assoc]
      exact (ih hi).append_left (f x)

end Modify

/-- One more item with an id that is not in use. -/
theorem nodup_map_concat {α : Type} {f : α → String} {xs ys : List α} {x : α}
    (hperm : ys.Perm (xs ++ [x])) (h : (xs.map f).Nodup) (hx : f x ∉ xs.map f) :
    (ys.map f).Nodup := by
  refine (hperm.map f).nodup_iff.2 ?_
  rw [List.map_append, List.map_singleton, List.nodup_append]
  refine ⟨h, List.nodup_singleton _, fun a ha b hb => ?_⟩
  rintro rfl
  rw [List.mem_singleton.1 hb] at ha
  exact hx ha

namespace Change

variable {d : Directory} {change : Change}

theorem nodup_userIds (h : (d.users.map User.id).Nodup) (hfresh : change.Fresh d) :
    ((change.apply d).users.map User.id).Nodup := by
  cases change with
  | addUser user => exact nodup_map_concat (List.Perm.refl _) h hfresh
  | addCredentials i c =>
    have hids : ((apply d (.addCredentials i c)).users.map User.id) = d.users.map User.id :=
      map_modify_of_eq (by intro _; rfl) d.users i
    rw [hids]
    exact h
  | removeUser i user => exact h.sublist ((List.eraseIdx_sublist _ i).map User.id)
  | addToken i t =>
    have hids : ((apply d (.addToken i t)).users.map User.id) = d.users.map User.id :=
      map_modify_of_eq (by intro _; rfl) d.users i
    rw [hids]
    exact h
  | addClient client => exact h

private theorem nodup_clientIds (h : (d.clients.map Client.id).Nodup) (hfresh : change.Fresh d) :
    ((change.apply d).clients.map Client.id).Nodup := by
  cases change with
  | addClient client => exact nodup_map_concat (List.Perm.refl _) h hfresh
  | addUser | addCredentials | removeUser | addToken => exact h

private theorem nodup_tokenIds (h : (d.tokens.map Token.id).Nodup) (hfresh : change.Fresh d)
    (hsuits : change.Suits d) : ((change.apply d).tokens.map Token.id).Nodup := by
  cases change with
  | addUser user =>
    obtain ⟨htokens, -⟩ := hsuits
    simpa [apply, Directory.tokens, htokens] using h
  | addCredentials i c =>
    have htokens : (apply d (.addCredentials i c)).tokens = d.tokens :=
      flatMap_modify_of_eq (by intro _; rfl) d.users i
    rw [htokens]
    exact h
  | removeUser i user =>
    exact h.sublist (((List.eraseIdx_sublist _ i).flatMap User.tokens).map Token.id)
  | addToken i t =>
    obtain ⟨u, hu, -⟩ := hsuits
    exact nodup_map_concat (flatMap_modify_perm (fun _ => rfl) hu) h hfresh
  | addClient client => exact h

theorem nodup_credentialsIds (h : (d.credentials.map Credentials.id).Nodup)
    (hsuits : change.Suits d) :
    ((change.apply d).credentials.map Credentials.id).Nodup := by
  cases change with
  | addUser user =>
    obtain ⟨-, c, hc, -, hnew⟩ := hsuits
    refine nodup_map_concat (x := c) ?_ h hnew
    simp [apply, Directory.credentials, hc]
  | addCredentials i c =>
    obtain ⟨⟨u, hu⟩, -, hnew⟩ := hsuits
    exact nodup_map_concat (flatMap_modify_perm (fun _ => rfl) hu) h hnew
  | removeUser i user =>
    exact h.sublist
      (((List.eraseIdx_sublist _ i).flatMap User.credentials).map Credentials.id)
  | addToken i t =>
    have hcredentials : (apply d (.addToken i t)).credentials = d.credentials :=
      flatMap_modify_of_eq (by intro _; rfl) d.users i
    rw [hcredentials]
    exact h
  | addClient client => exact h

private theorem forall_linked (h : ∀ u ∈ d.users, ∀ c ∈ u.credentials, c.isNew = false)
    (hsuits : change.Suits d) :
    ∀ u ∈ (change.apply d).users, ∀ c ∈ u.credentials, c.isNew = false := by
  intro u hu c hc
  cases change with
  | addUser user =>
    obtain ⟨-, c', hc', hlinked, -⟩ := hsuits
    rcases List.mem_append.1 hu with hu | hu
    · exact h u hu c hc
    · rw [List.mem_singleton.1 hu, hc', List.mem_singleton] at hc
      exact hc ▸ hlinked
  | addCredentials i c' =>
    obtain ⟨-, hlinked, -⟩ := hsuits
    rcases mem_modify_cases hu with hu | ⟨a, ha, rfl⟩
    · exact h u hu c hc
    · rcases List.mem_append.1 hc with hc | hc
      · exact h a (List.mem_of_getElem? ha) c hc
      · exact List.mem_singleton.1 hc ▸ hlinked
  | removeUser i user => exact h u (List.mem_of_mem_eraseIdx hu) c hc
  | addToken i t =>
    rcases mem_modify_cases hu with hu | ⟨a, ha, rfl⟩
    · exact h u hu c hc
    · exact h a (List.mem_of_getElem? ha) c hc
  | addClient client => exact h u hu c hc

private theorem forall_owned (h : ∀ u ∈ d.users, ∀ t ∈ u.tokens, t.userId = u.id)
    (hsuits : change.Suits d) :
    ∀ u ∈ (change.apply d).users, ∀ t ∈ u.tokens, t.userId = u.id := by
  intro u hu t ht
  cases change with
  | addUser user =>
    obtain ⟨htokens, -⟩ := hsuits
    rcases List.mem_append.1 hu with hu | hu
    · exact h u hu t ht
    · rw [List.mem_singleton.1 hu, htokens] at ht
      cases ht
  | addCredentials i c =>
    rcases mem_modify_cases hu with hu | ⟨a, ha, rfl⟩
    · exact h u hu t ht
    · exact h a (List.mem_of_getElem? ha) t ht
  | removeUser i user => exact h u (List.mem_of_mem_eraseIdx hu) t ht
  | addToken i t' =>
    obtain ⟨u', hu', howned⟩ := hsuits
    rcases mem_modify_cases hu with hu | ⟨a, ha, rfl⟩
    · exact h u hu t ht
    · rcases List.mem_append.1 ht with ht | hlast
      · exact h a (List.mem_of_getElem? ha) t ht
      · obtain rfl := Option.some.inj (hu'.symm.trans ha)
        exact List.mem_singleton.1 hlast ▸ howned
  | addClient client => exact h u hu t ht

end Change

/-- **A change keeps a directory well formed**, if it suits the directory and the ids that are
drawn for it are not in use. -/
theorem Directory.WellFormed.apply {d : Directory} {change : Change} (h : d.WellFormed)
    (hfresh : change.Fresh d) (hsuits : change.Suits d) : (change.apply d).WellFormed where
  userIds := Change.nodup_userIds h.userIds hfresh
  clientIds := Change.nodup_clientIds h.clientIds hfresh
  tokenIds := Change.nodup_tokenIds h.tokenIds hfresh hsuits
  credentialsIds := Change.nodup_credentialsIds h.credentialsIds hsuits
  linked := Change.forall_linked h.linked hsuits
  owned := Change.forall_owned h.owned hsuits

end SignIn
