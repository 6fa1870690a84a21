import SignIn.Proofs.Account.Holders
import SignIn.Proofs.Store.WellFormed

/-!
# What it means to be linked

Two calls decide whether credentials are linked to a user: `Store.link` by their id alone, and
`Store.resolve` by their id together with the key of their provider. `Store.Agrees` says that the
two are of one mind: what has been linked resolves to that user, and credentials whose id is held
under another key are refused by both.

They are of one mind except in one case (`Store.agrees_iff`): the user to whom credentials are to
be linked holds their id already, under another key. There the link is reported as made, nothing is
stored, and the credentials, which no longer count as new, resolve to nobody.
-/

namespace SignIn

variable {σ α β : Type} {backend : Backend σ} {s : Shared σ}

/-- With the data loaded, a procedure goes on with what a hook answers. -/
theorem Hook.run_andThen (hl : s.loaded = true) (key : ProviderKey) (next : α → Procedure σ β)
    (h : Hook α) : (h.andThen key next).run backend s =
      match (h.run backend key s).1 with
      | .ok a => (next a).run backend s
      | .error e => (.error e, s) := by
  induction h with
  | answer r => cases r <;> rfl
  | consult ask ih =>
    rw [andThen, Procedure.run_load_of_loaded hl, Procedure.run, ih]
    simp [Hook.run, Shared.ensureLoaded, hl]

namespace Store

/-! ### The two calls, with the data loaded -/

private theorem run_link_of_holder (hl : s.loaded = true) {userId : String} {c : Credentials}
    {u : User} (hu : s.directory.holder? c.id = some u) :
    (link userId c).run backend s
      = (if u.id = userId then .ok c.linked else .error (.credentialsAlreadyLinked c.id), s) := by
  rw [link, alter, Procedure.run_load_of_loaded hl]
  simp only [Procedure.run, hu]
  split <;> rfl

/-- A link of credentials whose id nobody holds adds them to the user, if it succeeds. -/
private theorem run_link_of_not_held (hl : s.loaded = true) {userId : String} {c c' : Credentials}
    {t : Shared σ} (hnone : s.directory.holder? c.id = none)
    (h : (link userId c).run backend s = (.ok c', t)) :
    ∃ i u, s.directory.users[i]? = some u ∧ u.id = userId ∧ c' = c.linked ∧
      t.loaded = true ∧ t.directory = Change.apply s.directory (.addCredentials i c.linked) := by
  rw [link, alter, Procedure.run_load_of_loaded hl] at h
  simp only [Procedure.run, hnone] at h
  rcases withUser_cases s.directory userId
    fun i _ => Decision.commit (.addCredentials i c.linked) c.linked with
    ⟨herror, -⟩ | ⟨i, u, hu, hid, hcommit⟩
  · rw [herror] at h
    cases h
  · rw [hcommit] at h
    simp only [Shared.settle, Shared.save] at h
    split at h <;> cases h
    exact ⟨i, u, hu, hid, rfl, hl, rfl⟩

/-- Credentials that are not new resolve to whoever holds them. -/
theorem run_resolve_of_linked (hl : s.loaded = true) {provider : Provider σ} {userId : String}
    {c : Credentials} (hc : c.isNew = false) :
    (resolve provider userId c).run backend s = (userOfLinked c s.directory, s) := by
  rw [resolve, Procedure.run_load_of_loaded hl]
  simp [hc, Procedure.run]

/-- New credentials whose id is held under another key are refused. -/
private theorem run_resolve_of_heldElsewhere (hl : s.loaded = true)
    (hcredentials : (s.directory.credentials.map Credentials.id).Nodup) {c : Credentials}
    (helsewhere : s.directory.HeldElsewhere c) (provider : Provider σ) (userId : String) :
    ∃ e, (resolve provider userId c).run backend s = (.error e, s) := by
  have hnot : ∀ u ∈ s.directory.users, u.holdsFrom c.key c.id = false :=
    fun u hu => helsewhere.holdsFrom_eq_false hcredentials hu
  cases hc : c.isNew with
  | false =>
    have hnone : s.directory.holderFrom? c.key c.id = none :=
      List.find?_eq_none.2 fun u hu => by simp [hnot u hu]
    refine ⟨.credentialsWithoutUser c.id, ?_⟩
    rw [run_resolve_of_linked hl hc, userOfLinked, hnone]
  | true =>
    -- the provider is asked first, and may fail by itself
    rw [resolve, Procedure.run_load_of_loaded hl]
    simp only [hc, if_true]
    rw [Hook.run_andThen hl]
    split
    · obtain ⟨u, hu, e, he, hid, -⟩ := helsewhere
      have hholder := Directory.holder?_eq_some hcredentials hu (User.holds_iff.2 ⟨e, he, hid⟩)
      refine ⟨.credentialsAlreadyLinked c.id, ?_⟩
      simp [Procedure.run, decideNew, hholder, hnot u hu, Shared.settle]
    · rename_i e _
      exact ⟨e, rfl⟩

/-! ### When the two calls agree -/

/-- Linking and resolving are of one mind about some credentials and a user: what has been linked
is there and resolves to the user, and what is held under another key is refused. -/
structure Agrees (backend : Backend σ) (s : Shared σ) (userId : String) (c : Credentials) :
    Prop where
  linked : ∀ c' t, (link userId c).run backend s = (.ok c', t) → c' = c.linked ∧
    ∃ u, t.directory.user? userId = some u ∧ u.holdsFrom c.key c.id = true ∧
      ∀ (provider : Provider σ) (newId : String),
        (resolve provider newId c').run backend t = (.ok (u, c'), t)
  /-- A call that fails leaves credentials as they were, and here the data as well. -/
  refused : s.directory.HeldElsewhere c →
    (∃ e, (link userId c).run backend s = (.error e, s)) ∧
      ∀ (provider : Provider σ) (newId : String),
        ∃ e, (resolve provider newId c).run backend s = (.error e, s)

/-- Credentials that a user holds resolve to the user. -/
private theorem resolves_of_holdsFrom {t : Shared σ} (hl : t.loaded = true)
    (hids : (t.directory.users.map User.id).Nodup)
    (hcredentials : (t.directory.credentials.map Credentials.id).Nodup) {c : Credentials}
    {u : User} {userId : String} (hu : u ∈ t.directory.users) (hid : u.id = userId)
    (hholds : u.holdsFrom c.key c.id = true) :
    ∃ v, t.directory.user? userId = some v ∧ v.holdsFrom c.key c.id = true ∧
      ∀ (provider : Provider σ) (newId : String),
        (resolve provider newId c.linked).run backend t = (.ok (v, c.linked), t) := by
  refine ⟨u, hid ▸ Directory.user?_eq_some hids hu, hholds, fun provider newId => ?_⟩
  rw [run_resolve_of_linked hl c.isNew_linked, userOfLinked, Credentials.key_linked,
    Credentials.id_linked, Directory.holderFrom?_eq_some hcredentials hu hholds]

/-- What has been linked is there and resolves to the user, unless the user held the id under
another key. -/
private theorem resolves_of_link (hl : s.loaded = true)
    (hids : (s.directory.users.map User.id).Nodup)
    (hcredentials : (s.directory.credentials.map Credentials.id).Nodup) {userId : String}
    {c : Credentials} (hkeys : ∀ u ∈ s.directory.users, u.id = userId →
      ∀ e ∈ u.credentials, e.id = c.id → e.key = c.key) {c' : Credentials} {t : Shared σ}
    (h : (link userId c).run backend s = (.ok c', t)) : c' = c.linked ∧
      ∃ u, t.directory.user? userId = some u ∧ u.holdsFrom c.key c.id = true ∧
        ∀ (provider : Provider σ) (newId : String),
          (resolve provider newId c').run backend t = (.ok (u, c'), t) := by
  cases hholder : s.directory.holder? c.id with
  | some u =>
    -- nothing is stored, so that the entry with the id has to be the one that is looked for
    obtain ⟨hu, hholds⟩ := Directory.mem_and_holds_of_holder? hholder
    rw [run_link_of_holder hl hholder] at h
    split at h
    · rename_i hid
      cases h
      have hholdsFrom := User.holdsFrom_of_holds (hkeys u hu hid) hholds
      exact ⟨rfl, resolves_of_holdsFrom hl hids hcredentials hu hid hholdsFrom⟩
    · cases h
  | none =>
    obtain ⟨i, u, hu, hid, rfl, htl, htd⟩ := run_link_of_not_held hl hholder h
    have hsuits : (Change.addCredentials i c.linked).Suits s.directory :=
      ⟨⟨u, hu⟩, rfl, Directory.holder?_eq_none_iff.1 hholder⟩
    have hmem : { u with credentials := u.credentials ++ [c.linked] } ∈ t.directory.users := by
      rw [htd]
      exact mem_modify_self hu
    refine ⟨rfl, resolves_of_holdsFrom htl ?_ ?_ hmem hid ?_⟩
    · rw [htd]
      exact Change.nodup_userIds hids trivial
    · rw [htd]
      exact Change.nodup_credentialsIds hcredentials hsuits
    · have hlast : c.linked ∈ u.credentials ++ [c.linked] :=
        List.mem_append_right _ (List.mem_singleton.2 rfl)
      exact User.holdsFrom_iff.2 ⟨c.linked, hlast, rfl, rfl⟩

/-- **Linking and resolving agree, except where the user holds the id already under another key.**
There a link has nothing to do and succeeds, while the credentials that it has marked as linked come
to nobody. Everywhere else what has been linked resolves to the user, and what somebody else holds
is refused. -/
theorem agrees_iff (backend : Backend σ) {s : Shared σ} (hl : s.loaded = true)
    (hids : (s.directory.users.map User.id).Nodup)
    (hcredentials : (s.directory.credentials.map Credentials.id).Nodup) (userId : String)
    (c : Credentials) : Agrees backend s userId c ↔
      ¬ ∃ u ∈ s.directory.users, u.id = userId ∧
        ∃ e ∈ u.credentials, e.id = c.id ∧ e.key ≠ c.key := by
  constructor
  · rintro ⟨-, hrefused⟩ ⟨u, hu, hid, e, he, heid, hkey⟩
    obtain ⟨⟨failure, hfails⟩, -⟩ := hrefused ⟨u, hu, e, he, heid, hkey⟩
    have hholder := Directory.holder?_eq_some hcredentials hu (User.holds_iff.2 ⟨e, he, heid⟩)
    rw [run_link_of_holder hl hholder, if_pos hid] at hfails
    cases hfails
  · intro hclash
    have hkeys : ∀ u ∈ s.directory.users, u.id = userId →
        ∀ e ∈ u.credentials, e.id = c.id → e.key = c.key := by
      intro u hu hid e he heid
      by_contra hkey
      exact hclash ⟨u, hu, hid, e, he, heid, hkey⟩
    refine ⟨fun c' t h => resolves_of_link hl hids hcredentials hkeys h, fun helsewhere => ⟨?_, ?_⟩⟩
    · obtain ⟨u, hu, e, he, heid, hkey⟩ := helsewhere
      have hholder := Directory.holder?_eq_some hcredentials hu (User.holds_iff.2 ⟨e, he, heid⟩)
      have hid : u.id ≠ userId := fun hid => hkey (hkeys u hu hid e he heid)
      refine ⟨.credentialsAlreadyLinked c.id, ?_⟩
      rw [run_link_of_holder hl hholder, if_neg hid]
    · exact run_resolve_of_heldElsewhere hl hcredentials helsewhere

/-- Credentials of one provider. -/
def stored : Credentials := .linked (.issue { kind := "demo" } "first" .null)

/-- Credentials of another provider, which have come to have the same id. -/
def namesake : Credentials := .issue { kind := "other" } "first" .null

/-- A store with one user, who holds the stored credentials. -/
def occupied : Shared Unit :=
  { loaded := true
    directory := { users := [{ User.create "u1" true true none with credentials := [stored] }] }
    world := () }

theorem agrees_iff_stored :
    (occupied.directory.users.map User.id).Nodup ∧
      (occupied.directory.credentials.map Credentials.id).Nodup ∧
      (Agrees (.transient Unit) occupied "u1" stored ↔
        ¬ ∃ u ∈ occupied.directory.users, u.id = "u1" ∧
          ∃ e ∈ u.credentials, e.id = stored.id ∧ e.key ≠ stored.key) :=
  have hids : (occupied.directory.users.map User.id).Nodup := by decide
  have hcredentials : (occupied.directory.credentials.map Credentials.id).Nodup := by decide
  ⟨hids, hcredentials, agrees_iff (.transient Unit) rfl hids hcredentials "u1" stored⟩

/-- The link of the namesake is reported as made, nothing is stored, and the namesake resolves to
nobody. -/
theorem not_agrees_namesake : ¬ Agrees (.transient Unit) occupied "u1" namesake := by
  intro h
  have hlink : (link "u1" namesake).run (.transient Unit) occupied
      = (.ok namesake.linked, occupied) := by
    rfl
  obtain ⟨-, u, -, -, hresolves⟩ := h.linked _ _ hlink
  have hresolve := hresolves (PasswordList.provider { kind := "other" } []) "u2"
  have hnobody : (resolve (PasswordList.provider { kind := "other" } []) "u2"
      namesake.linked).run (.transient Unit) occupied
        = (.error (.credentialsWithoutUser "first"), occupied) := by
    rfl
  rw [hnobody] at hresolve
  cases hresolve

end Store

end SignIn
