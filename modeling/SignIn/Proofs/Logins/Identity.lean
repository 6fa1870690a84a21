import Mathlib.Tactic.IntervalCases
import SignIn.Proofs.Logins.Tallies
import SignIn.Proofs.Time.Arithmetic

/-!
# Logins identify accounts

`Manager.identifies_of_regular` is the result about regular runs: the visits to a provider lead to
one user for each username, and visits to different providers to different users. The first visit
for a username creates the user; every later one gets what has been stored then, and has nothing
saved. A login that fails leaves things as it has found them.

The argument follows who holds what, by the invariant `Manager.Tallies`: whoever has credentials of
the provider of a visit for its username is the user of the visit.
-/

namespace SignIn.Manager

variable {σ : Type} {backend : Backend σ} {s t : Shared σ} {m : Manager σ}
  {calls done : List (Call σ)}

/-! ### What visits come to -/

/-- A visit creates its user, who is not there before, with the name in the first entry for the
username, whose password has been checked. -/
structure Visit.Creates (x : Visit m backend s) : Prop where
  joins : x.Joins
  absent : ∀ u ∈ x.atDoor.directory.users, u.id ≠ x.user.id
  name : ∃ input entry, x.submission.input = some input ∧
    x.users.entry? x.username = some entry ∧
    sameDigestText entry.password ((input.textMember? "password").getD "") = true ∧
    x.user.name = entry.name

/-- What visits in a run come to, and logins that fail. -/
structure Identifies (m : Manager σ) (backend : Backend σ) (s : Shared σ)
    (calls : List (Call σ)) : Prop where
  /-- Two visits to one provider lead to one user exactly if they are for one username. -/
  same : ∀ x y : Visit m backend s, x.path <+: calls → y.path <+: calls → x.key = y.key →
    (x.user.id = y.user.id ↔ x.username = y.username)
  /-- Visits to different providers lead to different users. -/
  apart : ∀ x y : Visit m backend s, x.path <+: calls → y.path <+: calls → x.key ≠ y.key →
    x.user.id ≠ y.user.id
  /-- The first visit for a username creates the user. -/
  first : ∀ x : Visit m backend s, x.path <+: calls →
    (∀ y : Visit m backend s, y.key = x.key → y.username = x.username → ¬ y.path <+: x.upTo) →
    x.Creates
  /-- Every later one gets the stored credentials, and has nothing saved: it takes the same course
  with any backend. -/
  later : ∀ x y : Visit m backend s, y.path <+: calls → x.path <+: y.upTo → x.key = y.key →
    x.username = y.username → y.Returns ∧ y.handed.id = x.handed.id
  /-- A login that fails in the end leaves things as it has found them, and the credentials in the
  hands of the caller. -/
  failed : ∀ before userId c e, before ++ [.resolve userId c] <+: calls → m.HasPasswords c.key →
    m.reply backend s before (.resolve userId c) = .error e →
    (m.stateAfter backend s before).AsFound backend
      (m.stateAfter backend s (before ++ [.resolve userId c])) ∧
    (Errand.resolveThrough m backend userId).on ⟨m.stateAfter backend s before, c⟩
      = (.error e, ⟨m.stateAfter backend s (before ++ [.resolve userId c]), c⟩)

/-- Visits that have led to users with one id have left the same credentials. -/
private theorem Tallies.handed_eq_of_id_eq (htallies : m.Tallies backend s calls done)
    {x y : Visit m backend s} (hx : x.path <+: done) (hy : y.path <+: done)
    (hid : x.user.id = y.user.id) : x.handed.linked = y.handed.linked := by
  have heq := List.inj_on_of_nodup_map htallies.ids (htallies.visited x hx)
    (htallies.visited y hy) hid
  exact List.singleton_inj.1 (Prod.mk.inj heq).2

/-- Whoever holds credentials of the provider of a visit, for its username, is the user of the
visit. -/
private theorem Tallies.eq_of_username_eq (htallies : m.Tallies backend s calls done)
    {x : Visit m backend s} (hx : x.path <+: done) {userId : String} {e : Credentials}
    (hmem : (userId, [e]) ∈ (m.stateAfter backend s done).holdings) (hkey : e.key = x.key)
    (husername : e.username? = some x.username) :
    (userId, [e]) = (x.user.id, [x.handed.linked]) := by
  obtain ⟨hkey', husername'⟩ := x.key_and_username
  exact htallies.unique _ hmem _ (htallies.visited x hx) e (List.mem_singleton.2 rfl) _
    (List.mem_singleton.2 rfl) (hkey ▸ x.hasPasswords) (hkey.trans hkey'.symm)
    (husername.trans husername'.symm)

/-- The name that the provider knows for the person behind the credentials of a visit is that in
the entry whose password has been checked. -/
private theorem Visit.displayName?_eq (x : Visit m backend s) :
    ∃ input entry, x.submission.input = some input ∧ x.users.entry? x.username = some entry ∧
      sameDigestText entry.password ((input.textMember? "password").getD "") = true ∧
      x.users.displayName? x.handed = entry.name := by
  obtain ⟨input, entry, hinput, -, hentry, hsame⟩ := PasswordList.checked_of_respond x.admitted
  have husername : x.handed.data.textMember? "username" = some x.username := x.key_and_username.2
  refine ⟨input, entry, hinput, hentry, hsame, ?_⟩
  rw [PasswordList.displayName?, husername, Option.bind_some, hentry, Option.bind_some]

/-- The id of a user who is created has been drawn for nobody else. -/
theorem Visit.Joins.absent {x : Visit m backend s} (hjoins : x.Joins)
    (hregular : m.Regular backend s calls) (hx : x.path <+: calls)
    (hdoor : m.Tallies backend s calls x.upTo) :
    ∀ u ∈ x.atDoor.directory.users, u.id ≠ x.user.id := by
  intro u hu hid
  have hmem : (u.id, u.credentials) ∈ x.atDoor.holdings := by
    rw [Shared.holdings_of_loaded x.loaded_atDoor]
    exact List.mem_map_of_mem hu
  have hdrawn : x.userId ∈ x.upTo.filterMap Call.userId? := by
    have huserId : x.user.id = x.userId := by
      rw [hjoins.user]
      rfl
    rw [← huserId, ← hid]
    exact hdoor.drawn _ hmem
  have huserIds := hregular.userIds.sublist (hx.sublist.filterMap Call.userId?)
  exact notMem_of_drawn huserIds rfl hdrawn

/-- What a visit finds has been left by an earlier one for the same username. -/
private theorem Visit.Returns.exists_earlier {x : Visit m backend s} (hreturns : x.Returns)
    (hdoor : m.Tallies backend s calls x.upTo) :
    ∃ y : Visit m backend s, y.key = x.key ∧ y.username = x.username ∧ y.path <+: x.upTo := by
  obtain ⟨hkey, husername⟩ := x.key_and_username
  obtain ⟨y, hy, -, -, hhanded⟩ := hdoor.visit_of_mem hreturns.held (List.mem_singleton.2 rfl)
    (hkey ▸ x.hasPasswords)
  obtain ⟨hykey, hyname⟩ := y.key_and_username
  rw [hhanded, Credentials.key_linked, hykey] at hkey
  rw [hhanded, Credentials.username?_linked, hyname] at husername
  exact ⟨y, hkey, Option.some.inj husername, hy⟩

/-- **A login that fails in the end** leaves things as it has found them. -/
theorem asFound_of_resolve_error {c : Credentials} (hkey : m.HasPasswords c.key)
    {userId : String} {e : Failure}
    (hrun : ((Call.resolve userId c).procedure m).run backend s = (.error e, t)) :
    s.AsFound backend t ∧
      (Errand.resolveThrough m backend userId).on ⟨s, c⟩ = (.error e, ⟨t, c⟩) := by
  have hresolve : (m.resolve userId c).run backend s = (.error e, t) :=
    (Procedure.run_map_error _).1 ((Procedure.run_map_error _).1 hrun)
  refine ⟨?_, ?_⟩
  · obtain ⟨config, users, hp⟩ := hkey
    rw [Manager.resolve, withProvider, hp] at hresolve
    exact (Store.Call.resolve _ userId c).asFound_of_error ((Procedure.run_map_error _).2 hresolve)
  · rw [Errand.on_resolveThrough, hresolve]
    rfl

/-- **Logins identify accounts.** In a regular run the first visit with a username and a key that
goes through makes a user, every later one comes to the same user, and visits that differ in either
come to different ones. A login that fails, because of its password or because nothing could be
saved, leaves no user. -/
theorem identifies_of_regular (hregular : m.Regular backend s calls) :
    m.Identifies backend s calls := by
  -- all parts follow from the tally of holdings after some part of the run
  have htallies := fun {earlier} => tallies_of_regular hregular (List.prefix_refl calls) earlier
  have hcases : ∀ x : Visit m backend s, x.path <+: calls → x.Joins ∨ x.Returns := by
    intro x hx
    have hupTo := x.upTo_prefix.trans hx
    exact Visit.joins_or_returns hregular hx (htallies (x.before_prefix.trans hupTo))
      (htallies hupTo)
  constructor
  case same =>
    intro x y hx hy hkey
    have hall := htallies (List.prefix_refl calls)
    constructor
    · intro hid
      have hhanded := hall.handed_eq_of_id_eq hx hy hid
      have husername := congrArg Credentials.username? hhanded
      rw [Credentials.username?_linked, Credentials.username?_linked, x.key_and_username.2,
        y.key_and_username.2] at husername
      exact Option.some.inj husername
    · intro husername
      have heq := hall.eq_of_username_eq hy (hall.visited x hx)
        (x.key_and_username.1.trans hkey) (husername ▸ x.key_and_username.2)
      exact (Prod.mk.inj heq).1
  case apart =>
    intro x y hx hy hkey hid
    have hhanded := (htallies (List.prefix_refl calls)).handed_eq_of_id_eq hx hy hid
    have hkeys := congrArg Credentials.key hhanded
    rw [Credentials.key_linked, Credentials.key_linked, x.key_and_username.1,
      y.key_and_username.1] at hkeys
    exact hkey hkeys
  case first =>
    intro x hx hfirst
    have hdoor := htallies (x.upTo_prefix.trans hx)
    obtain hjoins | hreturns := hcases x hx
    · obtain ⟨input, entry, hinput, hentry, hsame, hname⟩ := x.displayName?_eq
      refine ⟨hjoins, hjoins.absent hregular hx hdoor, input, entry, hinput, hentry, hsame, ?_⟩
      rw [hjoins.user, ← hname]
      rfl
    · -- a visit that returns has an earlier one before it, and this is the first
      obtain ⟨y, hkey, husername, hy⟩ := hreturns.exists_earlier hdoor
      exact absurd hy (hfirst y hkey husername)
  case later =>
    intro x y hy hxy hkey husername
    have hdoor := htallies (y.upTo_prefix.trans hy)
    have hvisited := hdoor.visited x hxy
    obtain hjoins | hreturns := hcases y hy
    · -- the earlier visit has stored credentials, so that this one finds them
      refine absurd ?_ (hjoins.none _ hvisited _ (List.mem_singleton.2 rfl) ?_)
      · rw [← husername]
        exact x.key_and_username.2
      · exact x.key_and_username.1.trans hkey
    · obtain ⟨hykey, hyname⟩ := y.key_and_username
      have heq := hdoor.eq_of_username_eq hxy hreturns.held (hykey.trans hkey.symm)
        (hyname.trans (congrArg some husername.symm))
      refine ⟨hreturns, ?_⟩
      rw [List.singleton_inj.1 (Prod.mk.inj heq).2, Credentials.id_linked]
  case failed =>
    intro before userId c e hcalls hkey herror
    refine asFound_of_resolve_error hkey ?_
    rw [run_stateAfter, herror]

/-! ### A run with two providers -/

/-- Two providers with lists of passwords, which have a username in common. -/
def twoLists : Manager (List Bool) :=
  ⟨[PasswordList.provider { kind := PasswordList.kind } [⟨"a", "first", some "A"⟩],
    PasswordList.provider { kind := PasswordList.kind, id := some "b" } [⟨"a", "second", none⟩]],
    .standard⟩

/-- A store whose backend will fail with the first save. -/
def unsteady : Shared (List Bool) := { world := [true, false] }

/-- Logins through both providers, of which the first cannot be saved. -/
def visitors : List (Call (List Bool)) :=
  let result (id : Option String) : FlowResult :=
    ⟨⟨PasswordList.kind, id⟩, PasswordList.loginData "a"⟩
  let fresh (id : Option String) (freshId : String) : Credentials :=
    .issue ⟨PasswordList.kind, id⟩ freshId (PasswordList.loginData "a")
  [.finishFlow "f1" (result none), .resolve "u1" (fresh none "f1"),
    .finishFlow "f2" (result none), .finishFlow "f3" (result (some "b")),
    .resolve "u2" (fresh none "f2"), .resolve "u3" (fresh (some "b") "f3"),
    .createToken "u2" "app" "t1" .epoch,
    .finishFlow "f4" (result none), .resolve "u4" (fresh none "f2").linked]

theorem regular_visitors : twoLists.Regular Store.scripted unsteady visitors where
  vacant := ⟨fun hl => Bool.noConfusion hl,
    fun _ => Store.offers_scripted (P := fun d => d.users = []) rfl _⟩
  retains := by
    intro p hp effect heffect w hw
    have hanswer : p.prepare = .answer (.ok fun w => (.ok (), w)) := by
      rcases List.mem_cons.1 hp with rfl | hp
      · rfl
      · obtain rfl := List.mem_singleton.1 hp
        rfl
    rw [hanswer] at heffect
    cases heffect
    exact hw
  ordinary := by simp [visitors, Call.IsOrdinary]
  visits := by
    rintro before c key hprefix - ⟨userId, c', r, hbrings, -, hreply⟩
    obtain ⟨rest, hrest⟩ := hprefix
    have hbefore : before = visitors.take before.length := by simp [← hrest]
    have hc : visitors[before.length]? = some c := by simp [← hrest]
    have hlength : before.length < 9 := (List.getElem?_eq_some_iff.1 hc).1
    generalize before.length = i at hbefore hc hlength
    subst hbefore
    -- four of the calls bring credentials
    interval_cases i <;> cases hc <;> cases hbrings
    · -- the user could not be saved
      have hunsaved : Except.error (Failure.storage "save failed") = Except.ok r := hreply
      cases hunsaved
    · exact exists_visit { kind := PasswordList.kind } _ ⟨"a", "first", some "A"⟩
        (visitors.take 2) ((visitors.drop 3).take 1) "f2" "u2" _ rfl rfl rfl ⟨_, _, rfl⟩
        (by simp [visitors, Call.brings?])
    · exact exists_visit { kind := PasswordList.kind, id := some "b" } _ ⟨"a", "second", none⟩
        (visitors.take 3) ((visitors.drop 4).take 1) "f3" "u3" _ rfl rfl rfl ⟨_, _, rfl⟩
        (by simp [visitors, Call.brings?, Credentials.key, Credentials.issue, ProviderConfig.key])
    · exact exists_visit { kind := PasswordList.kind } _ ⟨"a", "first", some "A"⟩
        (visitors.take 7) [] "f4" "u4" _ rfl rfl rfl ⟨_, _, rfl⟩ (by simp)
  userIds := by decide
  freshIds := by decide
  foreign := by
    intro c hc userId c' hbrings hnew hkey
    have hfirst : twoLists.HasPasswords ⟨PasswordList.kind, none⟩ := ⟨_, _, rfl⟩
    have hsecond : twoLists.HasPasswords ⟨PasswordList.kind, some "b"⟩ := ⟨_, _, rfl⟩
    simp only [visitors, List.mem_cons, List.not_mem_nil, or_false] at hc
    rcases hc with rfl | rfl | rfl | rfl | rfl | rfl | rfl | rfl | rfl <;> cases hbrings
    all_goals first | exact absurd hfirst hkey | exact absurd hsecond hkey

/-- The one whose login could not be saved has come in later, and a namesake through the other
provider. -/
theorem identifies_of_regular_visitors :
    twoLists.Regular Store.scripted unsteady visitors ∧
      twoLists.Identifies Store.scripted unsteady visitors ∧
      ((twoLists.stateAfter Store.scripted unsteady visitors).directory.users.map
        fun u => (u.id, u.name)) = [("u2", some "A"), ("u3", none)] :=
  ⟨regular_visitors, identifies_of_regular regular_visitors, rfl⟩

end SignIn.Manager
