import SignIn.Proofs.Logins.Holdings

/-!
# Everybody is accounted for

`Manager.Tallies` is the invariant of a regular run: every user in memory has come with one visit or
is of no concern to any, no two of them have credentials of one provider for one username, and what
every visit has led to is there. So a visit finds nothing stored for its username, at both of its
moments, and joins (`Visit.Joins`), or it finds what an earlier visit has left (`Visit.Returns`);
in both cases the invariant holds afterwards (`Manager.Tallies.concat`), and by induction after all
calls of the run (`Manager.tallies_of_regular`).
-/

namespace SignIn.Manager

variable {σ : Type} {backend : Backend σ} {s t : Shared σ} {m : Manager σ}
  {calls done : List (Call σ)}

/-! ### The invariant -/

/-- After some of the calls of a run, everybody in memory is accounted for. -/
structure Tallies (m : Manager σ) (backend : Backend σ) (s : Shared σ)
    (calls done : List (Call σ)) : Prop where
  ids : ((m.stateAfter backend s done).holdings.map Prod.fst).Nodup
  drawn : ∀ h ∈ (m.stateAfter backend s done).holdings, h.1 ∈ done.filterMap Call.userId?
  /-- A user has come with a visit that has got fresh credentials, or with foreign ones. -/
  origin : ∀ h ∈ (m.stateAfter backend s done).holdings,
    (∃ y : Visit m backend s, y.path <+: done ∧ y.handed = y.issued ∧
      h = (y.user.id, [y.handed.linked])) ∨
    ∃ c, h.2 = [c.linked] ∧ m.IsForeign calls c
  unique : ∀ h ∈ (m.stateAfter backend s done).holdings,
    ∀ h' ∈ (m.stateAfter backend s done).holdings, ∀ e ∈ h.2, ∀ e' ∈ h'.2,
    m.HasPasswords e.key → e.key = e'.key → e.username? = e'.username? → h = h'
  visited : ∀ x : Visit m backend s, x.path <+: done →
    (x.user.id, [x.handed.linked]) ∈ (m.stateAfter backend s done).holdings

/-- Stored credentials of a provider with a list of passwords have come with a visit. -/
theorem Tallies.visit_of_mem (htallies : m.Tallies backend s calls done)
    {h : String × List Credentials} (hh : h ∈ (m.stateAfter backend s done).holdings)
    {e : Credentials} (he : e ∈ h.2) (hkey : m.HasPasswords e.key) :
    ∃ y : Visit m backend s, y.path <+: done ∧ y.handed = y.issued ∧
      h = (y.user.id, [y.handed.linked]) ∧ e = y.handed.linked := by
  rcases htallies.origin h hh with ⟨y, hy, hissued, rfl⟩ | ⟨c, hc, hforeign⟩
  · exact ⟨y, hy, hissued, rfl, List.mem_singleton.1 he⟩
  · rw [hc] at he
    obtain rfl := List.mem_singleton.1 he
    exact absurd hkey hforeign.1

namespace Visit

/-- A visit finds nothing stored for its username, and creates a user. -/
structure Joins (x : Visit m backend s) : Prop where
  handed : x.handed = x.issued
  user : x.user = Store.newUser x.atDoor.directory x.userId ⟨x.users.displayName? x.handed⟩ x.handed
  none : ∀ h ∈ x.atDoor.holdings, ∀ e ∈ h.2, e.key = x.key → e.username? ≠ some x.username
  users : (m.stateAfter backend s x.path).directory.users = x.atDoor.directory.users ++ [x.user]

/-- A visit finds what has been stored for its username, and changes nothing, with any backend. -/
structure Returns (x : Visit m backend s) : Prop where
  held : (x.user.id, [x.handed]) ∈ x.atDoor.holdings
  stored : x.handed ∈ x.atDesk.directory.credentials
  isNew : x.handed.isNew = false
  final : x.final = x.handed
  turnedIn : ∀ backend : Backend σ, (x.turnIn.procedure m).run backend x.atDesk
    = (.ok (.credentials x.handed), x.atDesk)
  entered : ∀ backend : Backend σ, (x.enter.procedure m).run backend x.atDoor
    = (.ok (.store (.account x.user x.final)), x.atDoor)

variable {x y : Visit m backend s}

/-- What is found for the username when the result of the flow is turned in: nothing, and then the
credentials are fresh, or what is handed out. -/
private theorem handed_cases (hregular : m.Regular backend s calls) (x : Visit m backend s) :
    (x.handed = x.issued ∧
      ∀ h ∈ x.atDesk.holdings, ∀ e ∈ h.2, e.key = x.key → e.username? ≠ some x.username) ∨
    ∃ h ∈ x.atDesk.holdings, x.handed ∈ h.2 := by
  obtain ⟨t, hload, -, hchosen⟩ := x.handed_eq
  have honward := Shared.onward_ensureLoaded
    (offers_stateAfter hregular.retains hregular.vacant.offers x.before) hload
  have ht : x.atDesk.holdings = t.directory.holdings := by
    rw [← Shared.holdings_of_loaded (Shared.loaded_of_ensureLoaded hload)]
    exact honward.holdings_eq.symm
  rw [ht, hchosen]
  rcases x.portal.chosen_cases x.freshId x.username t.directory with
    ⟨hissued, hnone⟩ | ⟨hmem, -⟩
  · refine Or.inl ⟨hissued, fun h hh e he => ?_⟩
    exact hnone e (Directory.mem_credentials_iff.2 ⟨h, hh, he⟩)
  · exact Or.inr (Directory.mem_credentials_iff.1 hmem)

/-- No earlier visit has drawn the same fresh id. -/
private theorem not_prefix_upTo (hregular : m.Regular backend s calls) (hx : x.path <+: calls)
    (h : y.freshId = x.freshId) : ¬ y.path <+: x.upTo := by
  intro hy
  have hpath := path_eq_of_freshId hregular.freshIds (hy.trans (x.upTo_prefix.trans hx)) hx h
  rw [hpath] at hy
  have hlength := hy.length_le
  simp only [path, List.length_append, List.length_singleton] at hlength
  omega

/-- **Nothing is stored meanwhile** for the username of a visit that has found nothing stored. -/
theorem none_atDoor (hbefore : m.Tallies backend s calls x.before)
    (hdoor : m.Tallies backend s calls x.upTo)
    (hnone : ∀ h ∈ x.atDesk.holdings, ∀ e ∈ h.2, e.key = x.key → e.username? ≠ some x.username) :
    ∀ h ∈ x.atDoor.holdings, ∀ e ∈ h.2, e.key = x.key → e.username? ≠ some x.username := by
  intro h hh e he hkey
  obtain ⟨y, hy, -, rfl, rfl⟩ := hdoor.visit_of_mem hh he (hkey ▸ x.hasPasswords)
  -- the visit that the user has come with has ended before `x` came to the desk
  have hkeys : y.key = x.key := y.key_and_username.1.symm.trans hkey
  have hmem := hbefore.visited y (prefix_before hy hkeys)
  exact hnone _ hmem _ (List.mem_singleton.2 rfl) hkey

/-- Nobody holds fresh credentials when they are taken to their user. -/
private theorem holder?_atDoor (hregular : m.Regular backend s calls) (hx : x.path <+: calls)
    (hdoor : m.Tallies backend s calls x.upTo) (hissued : x.handed = x.issued) :
    x.atDoor.directory.holder? x.handed.id = none := by
  rw [Directory.holder?_eq_none_iff]
  intro hmem
  obtain ⟨e, he, hid⟩ := List.mem_map.1 hmem
  obtain ⟨h, hh, he⟩ := Directory.mem_credentials_iff.1 he
  rw [← Shared.holdings_of_loaded x.loaded_atDoor] at hh
  have hfresh : e.id = x.freshId := by
    rw [hid, hissued]
    rfl
  rcases hdoor.origin h hh with ⟨y, hy, hyissued, rfl⟩ | ⟨c, hc, hforeign⟩
  · obtain rfl := List.mem_singleton.1 he
    rw [Credentials.id_linked, hyissued] at hfresh
    exact not_prefix_upTo hregular hx hfresh hy
  · rw [hc] at he
    obtain rfl := List.mem_singleton.1 he
    have hturnIn : x.turnIn ∈ calls :=
      (x.turnIn_prefix.trans (x.upTo_prefix.trans hx)).subset (by simp)
    exact hforeign.2 _ _ hturnIn x.hasPasswords hfresh

private theorem joins_of_issued (hregular : m.Regular backend s calls) (hx : x.path <+: calls)
    (hbefore : m.Tallies backend s calls x.before) (hdoor : m.Tallies backend s calls x.upTo)
    (hissued : x.handed = x.issued)
    (hnone : ∀ h ∈ x.atDesk.holdings, ∀ e ∈ h.2, e.key = x.key → e.username? ≠ some x.username) :
    x.Joins := by
  have hnew : x.handed.isNew = true := by
    rw [hissued]
    rfl
  have hrun := x.run_enter
  rw [enter, Call.run_resolve_new x.loaded_atDoor x.provider?_eq hnew, Store.decideNew,
    holder?_atDoor hregular hx hdoor hissued] at hrun
  simp only [Shared.settle, Shared.save, Prod.mk.injEq] at hrun
  obtain ⟨hr, hstate⟩ := hrun
  split at hr
  · rename_i w hsave
    injection hr with hr
    injection hr with hr
    injection hr with huser hfinal
    refine ⟨hissued, huser.symm, none_atDoor hbefore hdoor hnone, ?_⟩
    rw [← hstate, hsave, ← huser]
    rfl
  · cases hr

/-- Whoever holds the credentials of a visit has come with it. -/
private theorem eq_of_held (hregular : m.Regular backend s calls)
    (htallies : m.Tallies backend s calls done) (hdone : done <+: calls)
    (hissued : y.handed = y.issued) (hy : y.path <+: calls) {h : String × List Credentials}
    (hh : h ∈ (m.stateAfter backend s done).holdings) {e : Credentials} (he : e ∈ h.2)
    (hkey : e.key = y.key) (hid : e.id = y.handed.id) : h = (y.user.id, [y.handed.linked]) := by
  obtain ⟨z, hz, hzissued, rfl, rfl⟩ := htallies.visit_of_mem hh he (hkey ▸ y.hasPasswords)
  rw [Credentials.id_linked, hzissued, hissued] at hid
  have hpath := path_eq_of_freshId hregular.freshIds (hz.trans hdone) hy hid
  obtain ⟨hhanded, huser, -⟩ := user_eq_of_path_eq hpath
  rw [hhanded, huser]

/-- With the data loaded, the result of a flow is turned in without a call to the backend. -/
private theorem run_turnIn_of_loaded (hl : x.atDesk.loaded = true) (backend' : Backend σ) :
    (x.turnIn.procedure m).run backend' x.atDesk = (.ok (.credentials x.handed), x.atDesk) := by
  obtain ⟨t, hload, -, hchosen⟩ := x.handed_eq
  rw [Shared.ensureLoaded, if_pos hl] at hload
  cases hload
  rw [procedure_turnIn, Procedure.run_load_of_loaded hl, hchosen]
  rfl

/-- Credentials that are not new are taken to their user without a call to the backend. -/
private theorem run_enter_of_linked (hnew : x.handed.isNew = false) :
    x.user ∈ x.atDoor.directory.users ∧ x.user.holdsFrom x.handed.key x.handed.id = true ∧
      x.final = x.handed ∧ ∀ backend' : Backend σ, (x.enter.procedure m).run backend' x.atDoor
        = (.ok (.store (.account x.user x.final)), x.atDoor) := by
  have hrun := x.run_enter
  have hlinked : ∀ backend' : Backend σ, ((Call.resolve x.userId x.handed).procedure m).run backend'
      x.atDoor = ((Store.userOfLinked x.handed x.atDoor.directory).map
        fun r => .store (.account r.1 r.2), x.atDoor) :=
    fun _ => Call.run_resolve_linked x.loaded_atDoor x.provider?_eq hnew x.userId
  rw [enter, hlinked, Prod.mk.injEq] at hrun
  obtain ⟨hr, -⟩ := hrun
  rw [Store.userOfLinked] at hr
  cases hholder : x.atDoor.directory.holderFrom? x.handed.key x.handed.id with
  | none =>
    rw [hholder] at hr
    cases hr
  | some u =>
    obtain ⟨hu, hholds⟩ := Directory.mem_and_holdsFrom_of_holderFrom? hholder
    rw [hholder] at hr
    injection hr with hr
    injection hr with hr
    injection hr with huser hfinal
    obtain rfl : u = x.user := huser
    refine ⟨hu, hholds, hfinal.symm, fun backend' => ?_⟩
    rw [enter, hlinked, Store.userOfLinked, hholder, ← hfinal]
    rfl

/-- A visit with credentials that are stored finds their user. -/
private theorem returns_of_stored (hregular : m.Regular backend s calls) (hx : x.path <+: calls)
    (hbefore : m.Tallies backend s calls x.before) (hdoor : m.Tallies backend s calls x.upTo)
    {h : String × List Credentials} (hh : h ∈ x.atDesk.holdings) (hmem : x.handed ∈ h.2) :
    x.Returns := by
  have hupTo : x.upTo <+: calls := x.upTo_prefix.trans hx
  have hl := Shared.loaded_of_mem_holdings hh
  obtain ⟨hkey, -⟩ := x.key_and_username
  obtain ⟨y, hy, hissued, rfl, hhanded⟩ := hbefore.visit_of_mem hh hmem (hkey ▸ x.hasPasswords)
  have hnew : x.handed.isNew = false := by
    rw [hhanded]
    rfl
  obtain ⟨hu, hholds, hfinal, hentered⟩ := run_enter_of_linked hnew
  obtain ⟨e, he, hekey, heid⟩ := User.holdsFrom_iff.1 hholds
  have huser : (x.user.id, x.user.credentials) ∈ x.atDoor.holdings := by
    rw [Shared.holdings_of_loaded x.loaded_atDoor]
    exact List.mem_map_of_mem hu
  -- the user has come with the visit that the credentials have come with
  have hkeys : e.key = y.key := by
    rw [hekey, hhanded]
    exact y.key_and_username.1
  have hids : e.id = y.handed.id := by
    rw [heid, hhanded]
    rfl
  have hheld : (x.user.id, x.user.credentials) = (y.user.id, [y.handed.linked]) :=
    eq_of_held hregular hdoor hupTo hissued (hy.trans (x.before_prefix.trans hupTo)) huser he
      hkeys hids
  refine ⟨?_, ?_, hnew, hfinal, run_turnIn_of_loaded hl, hentered⟩
  · rw [hhanded, ← (Prod.mk.inj hheld).2]
    exact huser
  · rw [Directory.mem_credentials_iff, ← Shared.holdings_of_loaded hl]
    exact ⟨_, hh, hmem⟩

/-- **A visit joins or returns.** -/
theorem joins_or_returns (hregular : m.Regular backend s calls) (hx : x.path <+: calls)
    (hbefore : m.Tallies backend s calls x.before) (hdoor : m.Tallies backend s calls x.upTo) :
    x.Joins ∨ x.Returns := by
  rcases handed_cases hregular x with ⟨hissued, hnone⟩ | ⟨h, hh, hmem⟩
  · exact Or.inl (joins_of_issued hregular hx hbefore hdoor hissued hnone)
  · exact Or.inr (returns_of_stored hregular hx hbefore hdoor hh hmem)

/-- The user to whom a visit has led is there afterwards, with the credentials. -/
private theorem mem_holdings (h : x.Joins ∨ x.Returns) :
    (x.user.id, [x.handed.linked]) ∈ (m.stateAfter backend s x.path).holdings := by
  have hl : (m.stateAfter backend s x.path).loaded = true :=
    loaded_stateAfter x.loaded_atDoor [x.enter]
  rcases h with hjoins | hreturns
  · rw [Shared.holdings_of_loaded hl, Directory.holdings, hjoins.users, hjoins.user]
    simp [Store.newUser, User.create]
  · have hsame : m.stateAfter backend s x.path = x.atDoor := by
      have hrun := x.run_enter
      rw [hreturns.entered] at hrun
      exact (Prod.mk.inj hrun).2.symm
    have hlinked : x.handed.linked = x.handed := by
      rw [Credentials.linked, ← hreturns.isNew]
    rw [hsame, hlinked]
    exact hreturns.held

end Visit

/-- One more call that leaves everybody with what they hold. -/
theorem Tallies.unchanged (htallies : m.Tallies backend s calls done) (c : Call σ)
    (hsame : (m.stateAfter backend s (done ++ [c])).holdings
      = (m.stateAfter backend s done).holdings)
    (hlast : ∀ x : Visit m backend s, x.path = done ++ [c] →
      (x.user.id, [x.handed.linked]) ∈ (m.stateAfter backend s (done ++ [c])).holdings) :
    m.Tallies backend s calls (done ++ [c]) where
  ids := by
    rw [hsame]
    exact htallies.ids
  drawn h hh := by
    rw [hsame] at hh
    rw [List.filterMap_append]
    exact List.mem_append_left _ (htallies.drawn h hh)
  origin h hh := by
    rw [hsame] at hh
    refine (htallies.origin h hh).imp ?_ id
    rintro ⟨y, hy, hrest⟩
    exact ⟨y, hy.trans (List.prefix_append _ _), hrest⟩
  unique := by
    rw [hsame]
    exact htallies.unique
  visited x hx := by
    rcases List.prefix_concat_iff.1 hx with heq | hx
    · exact hlast x heq
    · rw [hsame]
      exact htallies.visited x hx

/-- One more call that adds a user with credentials that are accounted for. -/
theorem Tallies.added (htallies : m.Tallies backend s calls done) {c : Call σ} {userId : String}
    {c' : Credentials} (huserIds : ((done ++ [c]).filterMap Call.userId?).Nodup)
    (huserId : c.userId? = some userId)
    (hmore : (m.stateAfter backend s (done ++ [c])).holdings
      = (m.stateAfter backend s done).holdings ++ [(userId, [c'.linked])])
    (horigin : (∃ y : Visit m backend s, y.path <+: done ++ [c] ∧ y.handed = y.issued ∧
      (userId, [c'.linked]) = (y.user.id, [y.handed.linked])) ∨ m.IsForeign calls c')
    (hnone : ∀ h ∈ (m.stateAfter backend s done).holdings, ∀ e ∈ h.2, m.HasPasswords c'.key →
      e.key = c'.key → e.username? ≠ c'.username?)
    (hlast : ∀ x : Visit m backend s, x.path = done ++ [c] →
      (x.user.id, [x.handed.linked]) ∈ (m.stateAfter backend s (done ++ [c])).holdings) :
    m.Tallies backend s calls (done ++ [c]) := by
  have hdrawn : (done ++ [c]).filterMap Call.userId? = done.filterMap Call.userId? ++ [userId] := by
    rw [List.filterMap_append, List.filterMap_cons_some huserId, List.filterMap_nil]
  constructor
  -- the new id has been drawn by this call, and by none before it
  case ids =>
    rw [hmore]
    refine nodup_map_concat (List.Perm.refl _) htallies.ids fun hmem => ?_
    obtain ⟨h, hh, hid⟩ := List.mem_map.1 hmem
    have hbefore := htallies.drawn h hh
    rw [hid] at hbefore
    exact notMem_of_drawn huserIds huserId hbefore
  case drawn =>
    intro h hh
    rw [hmore] at hh
    rw [hdrawn]
    rcases List.mem_append.1 hh with hh | hh
    · exact List.mem_append_left _ (htallies.drawn h hh)
    · obtain rfl := List.mem_singleton.1 hh
      exact List.mem_append_right _ (List.mem_singleton.2 rfl)
  case origin =>
    intro h hh
    rw [hmore] at hh
    rcases List.mem_append.1 hh with hh | hh
    · refine (htallies.origin h hh).imp ?_ id
      rintro ⟨y, hy, hrest⟩
      exact ⟨y, hy.trans (List.prefix_append _ _), hrest⟩
    · obtain rfl := List.mem_singleton.1 hh
      exact horigin.imp id fun hforeign => ⟨c', rfl, hforeign⟩
  -- of two users with one username at most one is new, and then `hnone` keeps them apart
  case unique =>
    intro h hh h' hh' e he e' he' hkey hkeys hnames
    rw [hmore] at hh hh'
    rcases List.mem_append.1 hh with hh | hh <;> rcases List.mem_append.1 hh' with hh' | hh'
    · exact htallies.unique h hh h' hh' e he e' he' hkey hkeys hnames
    · obtain rfl := List.mem_singleton.1 hh'
      obtain rfl := List.mem_singleton.1 he'
      exact absurd hnames (hnone h hh e he (hkeys ▸ hkey) hkeys)
    · obtain rfl := List.mem_singleton.1 hh
      obtain rfl := List.mem_singleton.1 he
      exact absurd hnames.symm (hnone h' hh' e' he' hkey hkeys.symm)
    · rw [List.mem_singleton.1 hh, List.mem_singleton.1 hh']
  case visited =>
    intro x hx
    rcases List.prefix_concat_iff.1 hx with heq | hx
    · exact hlast x heq
    · rw [hmore]
      exact List.mem_append_left _ (htallies.visited x hx)

/-- **One more call.** -/
theorem Tallies.concat (hregular : m.Regular backend s calls) {c : Call σ}
    (hcalls : done ++ [c] <+: calls)
    (htallies : ∀ earlier, earlier <+: done → m.Tallies backend s calls earlier) :
    m.Tallies backend s calls (done ++ [c]) := by
  have hdone := htallies done (List.prefix_refl _)
  have hc : c ∈ calls := hcalls.subset (by simp)
  -- a visit that ends with the call joins or returns
  have hvisit : ∀ x : Visit m backend s, x.path = done ++ [c] → x.Joins ∨ x.Returns := by
    intro x hx
    have hupTo : x.upTo = done := (List.append_inj' hx rfl).1
    refine Visit.joins_or_returns hregular (hx ▸ hcalls) (htallies _ ?_) (htallies _ ?_)
    · exact hupTo ▸ x.before_prefix
    · exact hupTo ▸ List.prefix_refl _
  have hlast : ∀ x : Visit m backend s, x.path = done ++ [c] →
      (x.user.id, [x.handed.linked]) ∈ (m.stateAfter backend s (done ++ [c])).holdings := by
    intro x hx
    exact hx ▸ Visit.mem_holdings (hvisit x hx)
  rcases holdings_cases hregular.retains
    (offers_stateAfter hregular.retains hregular.vacant.offers done) (hregular.ordinary c hc)
    (run_stateAfter m backend s done c) with
    hsame | ⟨userId, c', reply, hbrings, hnew, hreply, hmore⟩
  · exact hdone.unchanged c hsame hlast
  · have huserId : c.userId? = some userId := by rw [Call.userId?, hbrings, Option.map_some]
    have huserIds := hregular.userIds.sublist (hcalls.sublist.filterMap Call.userId?)
    by_cases hkey : m.HasPasswords c'.key
    · -- a call that creates a user for such a provider is the last one of a visit
      obtain ⟨x, hx⟩ := hregular.visits done c c'.key hcalls hkey
        ⟨userId, c', reply, hbrings, rfl, hreply⟩
      obtain ⟨hupTo, henter⟩ := List.append_inj' hx rfl
      obtain rfl : x.enter = c := List.singleton_inj.1 henter
      have hbrought : some (x.userId, x.handed) = some (userId, c') := hbrings
      obtain ⟨rfl, rfl⟩ := Prod.mk.inj (Option.some.inj hbrought)
      obtain hjoins | hreturns := hvisit x hx
      · have hcame : (x.userId, [x.handed.linked]) = (x.user.id, [x.handed.linked]) := by
          rw [hjoins.user]
          rfl
        have hdoor : x.atDoor = m.stateAfter backend s done := by rw [Visit.atDoor, hupTo]
        refine hdone.added huserIds huserId hmore
          (Or.inl ⟨x, hx ▸ List.prefix_refl _, hjoins.handed, hcame⟩)
          (fun h hh e he _ hkeys => ?_) hlast
        rw [x.key_and_username.2]
        exact hjoins.none h (hdoor ▸ hh) e he (hkeys.trans x.key_and_username.1)
      · -- a visit that returns brings credentials that are not new, and creates nobody
        exact absurd hnew (ne_true_of_eq_false hreturns.isNew)
    · exact hdone.added huserIds huserId hmore
        (Or.inr (hregular.foreign c hc userId c' hbrings hnew hkey))
        (fun _ _ _ _ hpasswords => absurd hpasswords hkey) hlast

/-- **The invariant holds after all calls of a run.** -/
theorem tallies_of_regular (hregular : m.Regular backend s calls) (hdone : done <+: calls) :
    ∀ earlier, earlier <+: done → m.Tallies backend s calls earlier := by
  induction done using List.reverseRecOn with
  | nil =>
    intro earlier hearlier
    obtain rfl := List.prefix_nil.1 hearlier
    have hnone : s.holdings = [] := by
      cases hl : s.loaded with
      | true =>
        rw [Shared.holdings_of_loaded hl, Directory.holdings, hregular.vacant.users hl,
          List.map_nil]
      | false => simp [Shared.holdings, hl]
    have hvisits : ∀ x : Visit m backend s, ¬ x.path <+: [] := by
      intro x hx
      have hpath := List.prefix_nil.1 hx
      simp [Visit.path] at hpath
    constructor <;> simp [hnone, hvisits]
  | append_singleton done c ih =>
    have hprefix := (List.prefix_append done [c]).trans hdone
    intro earlier hearlier
    rcases List.prefix_concat_iff.1 hearlier with rfl | hearlier
    · exact Tallies.concat hregular hdone (ih hprefix)
    · exact ih hprefix earlier hearlier

end SignIn.Manager
