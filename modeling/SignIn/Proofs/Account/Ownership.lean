import Mathlib.Data.List.InsertIdx
import SignIn.Proofs.Account.WellFormed
import SignIn.Proofs.Service.Locks

/-!
# The owner of a directory

The first user of an empty directory is its owner, and active; whoever comes later is neither.
`Change.Ordains` is what this asks of a change. As long as it is heeded there is one owner at most,
who stands first (`Directory.OwnerFirst.apply`), and a directory that has users and no owner gets
none before its last user has gone (`Directory.Ownerless.apply`).

What a directory shows of its users, in order, is its `Directory.roster`. A change adds a line to
its end or strikes one out, and leaves all others as they are (`Directory.roster_apply`).
-/

namespace SignIn

namespace Directory

/-- What the users of a directory show of themselves, in order. -/
def roster (d : Directory) : List UserView := d.users.map User.view

/-- One user at most is owner, who stands first. -/
def OwnerFirst (d : Directory) : Prop :=
  ∀ i u, d.users[i]? = some u → u.isOwner = true → i = 0

/-- There are users, and none of them is owner. -/
def Ownerless (d : Directory) : Prop := d.users ≠ [] ∧ ∀ u ∈ d.users, u.isOwner = false

end Directory

/-- A change that fits a directory, and that makes a user its owner, and active, just where there is
no user yet. -/
def Change.Ordains (d : Directory) : Change → Prop
  | .addUser u => u.isOwner = d.users.isEmpty ∧ u.isActive = d.users.isEmpty
  | .removeUser i u => d.users[i]? = some u
  | .addCredentials _ _ | .addToken _ _ | .addClient _ => True

theorem Change.Ordains.fits {d : Directory} {c : Change} (h : c.Ordains d) : c.Fits d := by
  cases c with
  | removeUser => exact h
  | addUser | addCredentials | addToken | addClient => trivial

namespace Directory

variable {d d' : Directory} {c : Change}

theorem roster_apply (d : Directory) (c : Change) :
    (c.apply d).roster = match c with
      | .addUser u => d.roster ++ [u.view]
      | .removeUser i _ => d.roster.eraseIdx i
      | .addCredentials _ _ | .addToken _ _ | .addClient _ => d.roster := by
  cases c with
  | addUser u => exact List.map_append
  | removeUser i u => exact (List.eraseIdx_map ..).symm
  | addCredentials | addToken =>
    simp only [Change.apply, roster]
    rw [map_modify_of_eq]
    exact fun _ => rfl
  | addClient => rfl

theorem roster_eq_nil_iff : d.roster = [] ↔ d.users = [] := List.map_eq_nil_iff

/-- The owner of a directory on its roster. -/
theorem ownerFirst_iff : d.OwnerFirst ↔
    ∀ i v, d.roster[i]? = some v → v.isOwner = true → i = 0 := by
  constructor
  · intro h i v hv howner
    rw [roster, List.getElem?_map] at hv
    obtain ⟨u, hu, rfl⟩ := Option.map_eq_some_iff.1 hv
    exact h i u hu howner
  · intro h i u hu howner
    refine h i u.view ?_ howner
    rw [roster, List.getElem?_map, hu, Option.map_some]

/-- A directory without owner on its roster. -/
theorem ownerless_iff : d.Ownerless ↔ d.roster ≠ [] ∧ ∀ v ∈ d.roster, v.isOwner = false := by
  rw [Ownerless, ne_eq, ne_eq, roster_eq_nil_iff, roster, List.forall_mem_map]
  rfl

/-- **One owner at most, who stands first**, after a change. -/
theorem OwnerFirst.apply (h : d.OwnerFirst) (hc : c.Ordains d) : (c.apply d).OwnerFirst := by
  rw [ownerFirst_iff] at h ⊢
  rw [roster_apply]
  cases c with
  | addCredentials | addToken | addClient => exact h
  | addUser u =>
    intro i v hv howner
    rcases getElem?_concat_cases hv with ⟨rfl, rfl⟩ | hold
    · have hempty : d.users.isEmpty = true := hc.1.symm.trans howner
      rw [roster_eq_nil_iff.2 (List.isEmpty_iff.1 hempty), List.length_nil]
    · exact h i v hold howner
  | removeUser k u =>
    intro i v hv howner
    rw [List.getElem?_eraseIdx] at hv
    split at hv
    · exact h i v hv howner
    · cases h (i + 1) v hv howner

/-- **A directory without owner gets none** by a change that leaves users in it. -/
theorem Ownerless.apply (h : d.Ownerless) (hc : c.Ordains d) (hne : (c.apply d).users ≠ []) :
    (c.apply d).Ownerless := by
  rw [ownerless_iff] at h ⊢
  refine ⟨fun hnil => hne (roster_eq_nil_iff.1 hnil), ?_⟩
  obtain ⟨husers, howner⟩ := h
  rw [roster_apply]
  cases c with
  | addCredentials | addToken | addClient => exact howner
  | removeUser i u => exact fun v hv => howner v (List.mem_of_mem_eraseIdx hv)
  | addUser u =>
    intro v hv
    rcases List.mem_append.1 hv with hv | hv
    · exact howner v hv
    · obtain rfl := List.mem_singleton.1 hv
      refine hc.1.trans (Bool.eq_false_iff.2 fun hempty => husers ?_)
      exact roster_eq_nil_iff.2 (List.isEmpty_iff.1 hempty)

/-- The roster of a directory is what is left of another one, with new lines at its end. -/
def Descends (new : UserView → Prop) (d d' : Directory) : Prop :=
  ∃ kept created, d'.roster = kept ++ created ∧ kept.Sublist d.roster ∧ ∀ v ∈ created, new v

theorem Descends.refl (new : UserView → Prop) (d : Directory) : d.Descends new d :=
  ⟨d.roster, [], (List.append_nil _).symm, .refl _, by simp⟩

/-- **A change adds a line to the roster, or strikes one out**, and alters none. -/
theorem Descends.apply {new : UserView → Prop} (h : d.Descends new d')
    (hnew : ∀ u, c = .addUser u → new u.view) : d.Descends new (c.apply d') := by
  obtain ⟨kept, created, heq, hkept, hcreated⟩ := h
  rw [Descends, roster_apply, heq]
  cases c with
  | addCredentials | addToken | addClient => exact ⟨kept, created, rfl, hkept, hcreated⟩
  | addUser u =>
    refine ⟨kept, created ++ [u.view], List.append_assoc .., hkept, fun v hv => ?_⟩
    rcases List.mem_append.1 hv with hv | hv
    · exact hcreated v hv
    · obtain rfl := List.mem_singleton.1 hv
      exact hnew u rfl
  | removeUser i u =>
    rcases Nat.lt_or_ge i kept.length with hi | hi
    · refine ⟨kept.eraseIdx i, created, List.eraseIdx_append_of_lt_length hi _, ?_, hcreated⟩
      exact (List.eraseIdx_sublist ..).trans hkept
    · refine ⟨kept, created.eraseIdx (i - kept.length),
        List.eraseIdx_append_of_length_le hi _, hkept, fun v hv => ?_⟩
      exact hcreated v (List.mem_of_mem_eraseIdx hv)

/-- A user stays as long as nobody with its id is removed. -/
theorem exists_id_apply {userId : String} (h : ∃ u ∈ d.users, u.id = userId) (hc : c.Fits d)
    (hremove : ∀ i u, c = .removeUser i u → u.id ≠ userId) :
    ∃ u ∈ (c.apply d).users, u.id = userId := by
  obtain ⟨u, hu, rfl⟩ := h
  suffices hview : u.view ∈ (c.apply d).roster by
    obtain ⟨u', hu', hview⟩ := List.mem_map.1 hview
    exact ⟨u', hu', congrArg UserView.id hview⟩
  have hview : u.view ∈ d.roster := List.mem_map_of_mem hu
  rw [roster_apply]
  cases c with
  | addCredentials | addToken | addClient => exact hview
  | addUser => exact List.mem_append_left _ hview
  | removeUser i v =>
    obtain ⟨j, hj⟩ := List.mem_iff_getElem?.1 hu
    refine List.mem_eraseIdx_iff_getElem?.2 ⟨j, ?_, ?_⟩
    · rintro rfl
      cases hc.symm.trans hj
      exact hremove j u rfl rfl
    · rw [roster, List.getElem?_map, hj, Option.map_some]

/-- A directory without users gets some only if one is added. -/
theorem users_eq_nil_apply (h : d.users = []) (hadd : ∀ u, c ≠ .addUser u) :
    (c.apply d).users = [] := by
  rw [← roster_eq_nil_iff] at h ⊢
  rw [roster_apply]
  cases c with
  | addUser u => exact absurd rfl (hadd u)
  | addCredentials | addToken | addClient => exact h
  | removeUser i u => exact h ▸ List.eraseIdx_nil

end Directory

end SignIn
