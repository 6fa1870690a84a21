import Mathlib.Data.List.Nodup
import Mathlib.Data.List.Pairwise
import SignIn.Proofs.Account.WellFormed

/-!
# Who holds credentials

Where no id of credentials occurs twice, credentials with a given id have one holder
(`Directory.eq_of_holds`), and every look-up that finds anybody finds that user. So the two
questions that are asked about credentials, who holds their id (`Directory.holder?`) and who holds
their id from a given provider (`Directory.holderFrom?`), have different answers in one case only:
`Directory.HeldElsewhere`, when credentials with the id are there under another key.
-/

namespace SignIn

/-- A search finds the only item that it may find. -/
theorem find?_eq_some_of_unique {α : Type} {p : α → Bool} {xs : List α} {x : α} (hx : x ∈ xs)
    (hp : p x = true) (hunique : ∀ y ∈ xs, p y = true → y = x) : xs.find? p = some x := by
  cases h : xs.find? p with
  | none => exact absurd hp (by simpa using List.find?_eq_none.1 h x hx)
  | some y => rw [hunique y (List.mem_of_find?_eq_some h) (List.find?_some h)]

namespace User

variable {u : User} {key : ProviderKey} {credentialsId : String}

theorem holds_iff : u.holds credentialsId = true ↔ ∃ c ∈ u.credentials, c.id = credentialsId := by
  simp [holds]

theorem holdsFrom_iff : u.holdsFrom key credentialsId = true ↔
    ∃ c ∈ u.credentials, c.key = key ∧ c.id = credentialsId := by
  simp [holdsFrom, Credentials.belongsTo_iff]

/-- Whoever holds credentials from a provider holds them. -/
theorem holds_of_holdsFrom (h : u.holdsFrom key credentialsId = true) :
    u.holds credentialsId = true := by
  obtain ⟨c, hc, -, hid⟩ := holdsFrom_iff.1 h
  exact holds_iff.2 ⟨c, hc, hid⟩

/-- Whoever holds credentials with an id under one key only holds them under that key. -/
theorem holdsFrom_of_holds (h : ∀ c ∈ u.credentials, c.id = credentialsId → c.key = key)
    (hholds : u.holds credentialsId = true) : u.holdsFrom key credentialsId = true := by
  obtain ⟨c, hc, hid⟩ := holds_iff.1 hholds
  exact holdsFrom_iff.2 ⟨c, hc, h c hc hid, hid⟩

end User

namespace Directory

variable {d : Directory} {u v : User} {key : ProviderKey} {credentialsId : String}

/-- Credentials with one id are one entry of one user. -/
private theorem eq_of_id_eq (h : (d.credentials.map Credentials.id).Nodup) (hu : u ∈ d.users)
    (hv : v ∈ d.users) {c e : Credentials} (hc : c ∈ u.credentials) (he : e ∈ v.credentials)
    (hid : c.id = e.id) : u = v ∧ c = e := by
  have hentry : c = e := List.inj_on_of_nodup_map h (List.mem_flatMap.2 ⟨u, hu, hc⟩)
    (List.mem_flatMap.2 ⟨v, hv, he⟩) hid
  refine ⟨?_, hentry⟩
  by_contra hne
  have hdisjoint := (List.nodup_flatMap.1 (List.Nodup.of_map _ h)).2
  have : Std.Symm (Function.onFun List.Disjoint User.credentials) := ⟨fun _ _ h _ hc he => h he hc⟩
  exact hdisjoint.forall hu hv hne hc (hentry ▸ he)

/-- Credentials with an id have one holder. -/
theorem eq_of_holds (h : (d.credentials.map Credentials.id).Nodup) (hu : u ∈ d.users)
    (hv : v ∈ d.users) (hhu : u.holds credentialsId = true) (hhv : v.holds credentialsId = true) :
    u = v := by
  obtain ⟨c, hc, rfl⟩ := User.holds_iff.1 hhu
  obtain ⟨e, he, hid⟩ := User.holds_iff.1 hhv
  exact (eq_of_id_eq h hu hv hc he hid.symm).1

/-- The user with an id is found by it. -/
theorem user?_eq_some (h : (d.users.map User.id).Nodup) (hu : u ∈ d.users) :
    d.user? u.id = some u :=
  find?_eq_some_of_unique hu (beq_self_eq_true u.id) fun _ hv hid =>
    List.inj_on_of_nodup_map h hv hu (beq_iff_eq.1 hid)

/-- The holder of credentials is found by their id. -/
theorem holder?_eq_some (h : (d.credentials.map Credentials.id).Nodup) (hu : u ∈ d.users)
    (hholds : u.holds credentialsId = true) : d.holder? credentialsId = some u :=
  find?_eq_some_of_unique hu hholds fun _ hv hhv => eq_of_holds h hv hu hhv hholds

/-- The holder of credentials is found by their id and key. -/
theorem holderFrom?_eq_some (h : (d.credentials.map Credentials.id).Nodup) (hu : u ∈ d.users)
    (hholds : u.holdsFrom key credentialsId = true) :
    d.holderFrom? key credentialsId = some u :=
  find?_eq_some_of_unique hu hholds fun _ hv hhv =>
    eq_of_holds h hv hu (User.holds_of_holdsFrom hhv) (User.holds_of_holdsFrom hholds)

/-- Whoever is found as a holder is a user who holds the credentials. -/
theorem mem_and_holds_of_holder? (h : d.holder? credentialsId = some u) :
    u ∈ d.users ∧ u.holds credentialsId = true := by
  have hholds := List.find?_some h
  exact ⟨List.mem_of_find?_eq_some h, hholds⟩

/-- So is whoever is found by id and key. -/
theorem mem_and_holdsFrom_of_holderFrom? (h : d.holderFrom? key credentialsId = some u) :
    u ∈ d.users ∧ u.holdsFrom key credentialsId = true := by
  have hholds := List.find?_some h
  exact ⟨List.mem_of_find?_eq_some h, hholds⟩

/-- Some user holds credentials with the id of given ones under another key. -/
def HeldElsewhere (d : Directory) (c : Credentials) : Prop :=
  ∃ u ∈ d.users, ∃ e ∈ u.credentials, e.id = c.id ∧ e.key ≠ c.key

/-- Nobody holds credentials under their own key while they are held under another one. -/
theorem HeldElsewhere.holdsFrom_eq_false {c : Credentials} (h : d.HeldElsewhere c)
    (hids : (d.credentials.map Credentials.id).Nodup) (hv : v ∈ d.users) :
    v.holdsFrom c.key c.id = false := by
  obtain ⟨u, hu, e, he, hid, hkey⟩ := h
  refine Bool.eq_false_iff.2 fun hholds => hkey ?_
  obtain ⟨e', he', hkey', hid'⟩ := User.holdsFrom_iff.1 hholds
  obtain ⟨-, rfl⟩ := eq_of_id_eq hids hu hv he he' (hid.trans hid'.symm)
  exact hkey'

end Directory

end SignIn
