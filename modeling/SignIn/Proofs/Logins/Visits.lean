import SignIn.Proofs.Logins.Handshake
import SignIn.Proofs.Logins.PasswordForm
import SignIn.Proofs.Manager.Preparation
import SignIn.Proofs.Manager.Succession

/-!
# Visits

A `Visit` is a completed login through a list of passwords, as part of a run of calls that are made
one after another: a submission to the flow has been answered with an entry, the result has been
turned in for credentials, and the credentials have been taken to their user. Other calls may come
in between, but none that takes credentials of the same provider to their user.

A `Regular` run has people log in to a backend without users, in this way and through providers of
other kinds, with any other calls in between and whatever fails; nobody is removed, and nothing is
linked to users who are there. The ids that are drawn in it are different.
-/

namespace SignIn

variable {σ : Type} {backend : Backend σ} {s : Shared σ}

/-! ### What has been checked -/

private theorem PasswordList.loginData_inj {v w : String}
    (h : PasswordList.loginData v = PasswordList.loginData w) : v = w := by
  have htext := congrArg (fun json => json.textMember? "username") h
  simp only [Portal.textMember?_loginData] at htext
  exact Option.some.inj htext

/-- A flow that has come to an entry has checked the password that was submitted against that of
the first entry in the list for the username. -/
theorem PasswordList.checked_of_respond {users : PasswordList} {earlier : List Submission}
    {submission : Submission} {username : String}
    (h : users.flow.respond earlier submission
      = .ok (.createEntry (PasswordList.loginData username))) :
    ∃ input entry, submission.input = some input ∧
      (input.textMember? "username").getD "" = username ∧
      users.entry? username = some entry ∧
      sameDigestText entry.password ((input.textMember? "password").getD "") = true := by
  simp only [flow] at h
  split at h
  · cases h
  cases hinput : submission.input with
  | none =>
    simp only [hinput] at h
    cases h
  | some input =>
    simp only [hinput, answer_eq, Except.ok.injEq] at h
    split at h
    · rename_i hknown
      obtain ⟨entry, hentry, hsame⟩ := (Option.any_eq_true _ _).1 hknown
      obtain rfl := loginData_inj (FlowStep.createEntry.inj h)
      exact ⟨input, entry, rfl, rfl, hentry, hsame⟩
    · cases h

/-- The form, filled in with the username and the password of an entry. -/
def PasswordEntry.filledIn (entry : PasswordEntry) : Json :=
  .record [("username", .text entry.username), ("password", .text entry.password)]

private theorem PasswordList.respond_of_entry? {users : PasswordList} {entry : PasswordEntry}
    (h : users.entry? entry.username = some entry) (earlier : List Submission) :
    users.flow.respond earlier ⟨PasswordList.stepId, some entry.filledIn⟩
      = .ok (.createEntry (PasswordList.loginData entry.username)) := by
  have husername : entry.filledIn.textAt "username" = entry.username := by
    simp [PasswordEntry.filledIn, Json.textAt, Json.record, Json.textMember?, Json.member?,
      Table.ofList, Table.get?_insert]
  have hpassword : entry.filledIn.textAt "password" = entry.password := by
    simp [PasswordEntry.filledIn, Json.textAt, Json.record, Json.textMember?, Json.member?,
      Table.ofList, Table.get?_insert]
  have hknown : users.recognizes (entry.filledIn.textAt "username")
      (entry.filledIn.textAt "password") = true := by
    rw [husername, hpassword, recognizes, h, Option.any_some, sameDigestText, sameDigest_self]
  have hanswer : users.flow.respond earlier ⟨stepId, some entry.filledIn⟩ = _ :=
    users.answer_eq entry.filledIn
  rw [hanswer, if_pos hknown, husername]

/-- What is drawn last, if nothing is drawn twice, has not been drawn before. -/
theorem notMem_of_drawn {α β : Type} {f : α → Option β} {drawn : List α} {a : α} {k : β}
    (h : ((drawn ++ [a]).filterMap f).Nodup) (ha : f a = some k) : k ∉ drawn.filterMap f := by
  rw [List.filterMap_append, List.filterMap_cons_some ha] at h
  intro hk
  exact List.disjoint_of_nodup_append h hk List.mem_cons_self

/-- What is drawn at two places of a list, if nothing is drawn twice, is drawn at one place. -/
private theorem eq_of_drawn {α β : Type} {f : α → Option β} {drawn first second : List α} {a b : α}
    {k : β} (h : (drawn.filterMap f).Nodup) (hfirst : first ++ [a] <+: drawn)
    (hsecond : second ++ [b] <+: drawn) (ha : f a = some k) (hb : f b = some k) :
    first = second ∧ a = b := by
  have hbefore : ∀ {first second : List α} {a b : α}, first ++ [a] <+: second ++ [b] →
      second ++ [b] <+: drawn → f a = some k → f b = some k → first = second ∧ a = b := by
    intro first second a b hprefix hdrawn ha hb
    rcases List.prefix_concat_iff.1 hprefix with heq | hmem
    · obtain ⟨hlists, hitems⟩ := List.append_inj' heq rfl
      exact ⟨hlists, List.singleton_inj.1 hitems⟩
    · have hk : k ∈ second.filterMap f :=
        List.mem_filterMap.2 ⟨a, hmem.subset (by simp), ha⟩
      exact absurd hk (notMem_of_drawn (h.sublist (hdrawn.sublist.filterMap f)) hb)
  rcases List.prefix_or_prefix_of_prefix hfirst hsecond with hprefix | hprefix
  · exact hbefore hprefix hsecond ha hb
  · obtain ⟨hlists, hitems⟩ := hbefore hprefix hfirst hb ha
    exact ⟨hlists.symm, hitems.symm⟩

namespace Manager

/-! ### Calls that take credentials to their user -/

/-- The credentials that a call takes to their user, with the id that it draws for a new one. -/
def Call.brings? : Call σ → Option (String × Credentials)
  | resolve userId c | store (.resolve _ userId c) => some (userId, c)
  | _ => none

/-- The id that a call draws for a new user. -/
def Call.userId? (c : Call σ) : Option String := c.brings?.map Prod.fst

/-- The id that a call draws for fresh credentials. -/
def Call.freshId? : Call σ → Option String
  | finishFlow freshId _ => some freshId
  | _ => none

/-- A call that neither links credentials to a user who is there nor removes a user. Such calls
leave every user with the credentials that it was created with. -/
def Call.IsOrdinary : Call σ → Prop
  | store (.link _ _) | store (.removeUser _) => False
  | _ => True

/-- After some other calls, a call takes credentials of a provider to their user. -/
def Enters (m : Manager σ) (backend : Backend σ) (s : Shared σ) (before : List (Call σ))
    (c : Call σ) (key : ProviderKey) : Prop :=
  ∃ userId c' r, c.brings? = some (userId, c') ∧ c'.key = key ∧ m.reply backend s before c = .ok r

/-- The provider with a key has a list of passwords. -/
def HasPasswords (m : Manager σ) (key : ProviderKey) : Prop :=
  ∃ config users, m.provider? key = .ok (PasswordList.provider config users)

/-- Credentials of a provider without a list of passwords, whose id is none of those that are drawn
in some calls for providers with one. -/
def IsForeign (m : Manager σ) (calls : List (Call σ)) (c : Credentials) : Prop :=
  ¬ m.HasPasswords c.key ∧ ∀ freshId result, .finishFlow freshId result ∈ calls →
    m.HasPasswords result.handler → c.id ≠ freshId

/-- A completed login through a list of passwords, with the calls of the run before it and in the
middle of it. It consists of two calls: one turns in the result of the flow, and the other takes the
credentials that it is handed to their user. Anything can be called before the first and between the
two. -/
structure Visit (m : Manager σ) (backend : Backend σ) (s : Shared σ) where
  config : ProviderConfig
  users : PasswordList
  found : m.provider? config.key = .ok (PasswordList.provider config users)
  /-- What has been submitted to the flow, the latest apart. -/
  earlier : List Submission
  submission : Submission
  username : String
  /-- The flow has come to an entry. -/
  admitted : users.flow.respond earlier submission
    = .ok (.createEntry (PasswordList.loginData username))
  before : List (Call σ)
  freshId : String
  handed : Credentials
  /-- The result of the flow has been turned in for credentials. -/
  handing : m.reply backend s before
    (.finishFlow freshId ⟨config.key, PasswordList.loginData username⟩) = .ok (.credentials handed)
  between : List (Call σ)
  userId : String
  user : User
  /-- The credentials as they are afterwards. -/
  final : Credentials
  /-- The credentials have been taken to their user. -/
  entering : m.reply backend s
    (before ++ .finishFlow freshId ⟨config.key, PasswordList.loginData username⟩ :: between)
    (.resolve userId handed) = .ok (.store (.account user final))
  /-- No credentials of the provider have been taken to their user in between. -/
  alone : ∀ first c rest, between = first ++ c :: rest → ¬ m.Enters backend s
    (before ++ .finishFlow freshId ⟨config.key, PasswordList.loginData username⟩ :: first) c
    config.key

namespace Visit

variable {m : Manager σ} {calls : List (Call σ)} (x y : Visit m backend s)

/-- The key of the provider. -/
def key : ProviderKey := x.config.key

/-- The provider. -/
def portal : Portal σ := ⟨m, x.config, x.users, x.found⟩

/-- The credentials for the username, if they are fresh. -/
def issued : Credentials := x.portal.issued x.freshId x.username

/-- The call that turns in the result of the flow. -/
def turnIn : Call σ := .finishFlow x.freshId ⟨x.key, PasswordList.loginData x.username⟩

/-- The call that takes the credentials to their user. -/
def enter : Call σ := .resolve x.userId x.handed

/-- All calls before the last one of the login. -/
def upTo : List (Call σ) := x.before ++ x.turnIn :: x.between

/-- All calls to the end of the login. -/
def path : List (Call σ) := x.upTo ++ [x.enter]

/-- The state before the result of the flow is turned in. -/
def atDesk : Shared σ := m.stateAfter backend s x.before

/-- The state before the credentials are taken to their user. -/
def atDoor : Shared σ := m.stateAfter backend s x.upTo

end Visit

/-- A run of calls to a backend without users, in which people log in through lists of passwords
and otherwise. -/
structure Regular (m : Manager σ) (backend : Backend σ) (s : Shared σ) (calls : List (Call σ)) :
    Prop where
  vacant : Vacant backend s
  /-- Providers put no users into the backend when they are prepared. -/
  retains : m.Retains backend fun d => d.users = []
  ordinary : ∀ c ∈ calls, c.IsOrdinary
  /-- Credentials of a provider with a list of passwords are taken to their user in visits only. -/
  visits : ∀ before c key, before ++ [c] <+: calls → m.HasPasswords key →
    m.Enters backend s before c key → ∃ x : Visit m backend s, x.path = before ++ [c]
  userIds : (calls.filterMap Call.userId?).Nodup
  freshIds : (calls.filterMap Call.freshId?).Nodup
  /-- New credentials of other providers have ids of their own. -/
  foreign : ∀ c ∈ calls, ∀ userId c', c.brings? = some (userId, c') → c'.isNew = true →
    ¬ m.HasPasswords c'.key → m.IsForeign calls c'

variable {m : Manager σ} {calls : List (Call σ)}

/-! ### The calls of a visit -/

/-- Credentials that are not new are looked up. -/
theorem Call.run_resolve_linked {t : Shared σ} (hl : t.loaded = true) {p : Provider σ}
    {c : Credentials} (hp : m.provider? c.key = .ok p) (hc : c.isNew = false) (userId : String) :
    ((resolve userId c).procedure m).run backend t
      = ((Store.userOfLinked c t.directory).map fun r => .store (.account r.1 r.2), t) := by
  simp only [procedure, Manager.resolve, withProvider, hp, Store.resolve, hc, Procedure.map,
    Procedure.run_load_of_loaded hl, Procedure.run, Bool.false_eq_true, if_false]
  cases Store.userOfLinked c t.directory <;> rfl

/-- New credentials of a provider with a list of passwords are decided on. -/
theorem Call.run_resolve_new {t : Shared σ} (hl : t.loaded = true) {config : ProviderConfig}
    {users : PasswordList} {c : Credentials}
    (hp : m.provider? c.key = .ok (PasswordList.provider config users)) (hc : c.isNew = true)
    (userId : String) :
    ((resolve userId c).procedure m).run backend t
      = ((t.settle backend (Store.decideNew userId ⟨users.displayName? c⟩ c t.directory)).1.map
          fun r => .store (.account r.1 r.2),
        (t.settle backend (Store.decideNew userId ⟨users.displayName? c⟩ c t.directory)).2) := by
  have hresolve : m.resolve userId c
      = .load (.write (Store.decideNew userId ⟨users.displayName? c⟩ c)) := by
    simp only [Manager.resolve, withProvider, hp, Store.resolve, hc, if_true,
      PasswordList.provider, Hook.andThen]
  rw [procedure, hresolve, Procedure.run_map, Procedure.run_map, Procedure.run_load_of_loaded hl,
    Procedure.run]
  cases (t.settle backend (Store.decideNew userId ⟨users.displayName? c⟩ c t.directory)).1 <;> rfl

/-- **A login with the right password** is a visit, if its two calls are answered and no other
credentials of the provider are brought in between. -/
theorem exists_visit (config : ProviderConfig) (users : PasswordList) (entry : PasswordEntry)
    (before between : List (Call σ)) (freshId userId : String) (handed : Credentials)
    (found : m.provider? config.key = .ok (PasswordList.provider config users))
    (hentry : users.entry? entry.username = some entry)
    (handing : m.reply backend s before
      (.finishFlow freshId ⟨config.key, PasswordList.loginData entry.username⟩)
        = .ok (.credentials handed))
    (entering : ∃ user final, m.reply backend s (before ++
      .finishFlow freshId ⟨config.key, PasswordList.loginData entry.username⟩ :: between)
        (.resolve userId handed) = .ok (.store (.account user final)))
    (hbetween : ∀ c ∈ between, ∀ userId c', c.brings? = some (userId, c') → c'.key ≠ config.key) :
    ∃ x : Visit m backend s, x.path = (before ++
      .finishFlow freshId ⟨config.key, PasswordList.loginData entry.username⟩ :: between)
        ++ [.resolve userId handed] := by
  obtain ⟨user, final, entering⟩ := entering
  refine ⟨{ config, users, found, earlier := [], username := entry.username,
            admitted := PasswordList.respond_of_entry? hentry [],
            before, freshId, handed, handing, between, userId, user, final, entering,
            submission := _, alone := ?_ }, rfl⟩
  rintro first c rest rfl ⟨userId', c', r, hbrings, hkey, -⟩
  exact hbetween c (by simp) userId' c' hbrings hkey

namespace Visit

variable {x y : Visit m backend s}

private theorem path_eq : x.path = x.before ++ x.turnIn :: (x.between ++ [x.enter]) := by
  rw [path, upTo, List.append_assoc, List.cons_append]

theorem upTo_prefix : x.upTo <+: x.path := List.prefix_append _ _

theorem before_prefix : x.before <+: x.upTo := List.prefix_append _ _

theorem turnIn_prefix : x.before ++ [x.turnIn] <+: x.upTo :=
  ⟨x.between, by rw [upTo, List.append_assoc, List.singleton_append]⟩

/-- The result of the flow is turned in with one look at the data. -/
theorem procedure_turnIn (x : Visit m backend s) : x.turnIn.procedure m = .load (.read fun d =>
    .finish (.ok (.credentials (x.portal.chosen x.freshId x.username d)))) :=
  congrArg (Procedure.map Reply.credentials) (x.portal.finishFlow_eq x.freshId x.username)

/-- The data are there once the result of the flow has been turned in, and the credentials are
those that the provider chooses. -/
theorem handed_eq (x : Visit m backend s) : ∃ t, x.atDesk.ensureLoaded backend = (.ok (), t) ∧
    m.stateAfter backend s (x.before ++ [x.turnIn]) = t ∧
    x.handed = x.portal.chosen x.freshId x.username t.directory := by
  have hrun : (x.turnIn.procedure m).run backend x.atDesk
      = (.ok (.credentials x.handed), m.stateAfter backend s (x.before ++ [x.turnIn])) := by
    rw [atDesk, run_stateAfter]
    exact congrArg (·, _) x.handing
  rw [procedure_turnIn] at hrun
  rcases hload : x.atDesk.ensureLoaded backend with ⟨r, t⟩
  cases r with
  | error e =>
    rw [Procedure.run_load_of_error hload] at hrun
    cases hrun
  | ok =>
    rw [Procedure.run_load_of_ensureLoaded hload] at hrun
    simp only [Procedure.run, Prod.mk.injEq, Except.ok.injEq, Reply.credentials.injEq] at hrun
    exact ⟨t, rfl, hrun.2.symm, hrun.1.symm⟩

/-- The credentials are those of the provider, for the username. -/
theorem key_and_username (x : Visit m backend s) :
    x.handed.key = x.key ∧ x.handed.username? = some x.username := by
  obtain ⟨t, -, -, hchosen⟩ := x.handed_eq
  rw [hchosen]
  rcases x.portal.chosen_cases x.freshId x.username t.directory with
    ⟨hissued, -⟩ | ⟨-, hkey, husername⟩
  · rw [hissued]
    exact ⟨rfl, x.portal.username?_issued _ _⟩
  · exact ⟨hkey, husername⟩

theorem provider?_eq (x : Visit m backend s) :
    m.provider? x.handed.key = .ok (PasswordList.provider x.config x.users) := by
  rw [x.key_and_username.1]
  exact x.found

theorem hasPasswords (x : Visit m backend s) : m.HasPasswords x.key := ⟨_, _, x.found⟩

/-- The data are there when the credentials are taken to their user. -/
theorem loaded_atDoor (x : Visit m backend s) : x.atDoor.loaded = true := by
  obtain ⟨t, hload, ht, -⟩ := x.handed_eq
  have hl : (m.stateAfter backend s (x.before ++ [x.turnIn])).loaded = true :=
    ht ▸ Shared.loaded_of_ensureLoaded hload
  obtain ⟨rest, hrest⟩ := x.turnIn_prefix
  rw [atDoor, ← hrest]
  exact loaded_stateAfter hl rest

theorem run_enter (x : Visit m backend s) : (x.enter.procedure m).run backend x.atDoor
    = (.ok (.store (.account x.user x.final)), m.stateAfter backend s x.path) := by
  rw [atDoor, run_stateAfter]
  exact congrArg (·, _) x.entering

/-- The last call of a visit takes the credentials to their user. -/
private theorem enters (x : Visit m backend s) : m.Enters backend s x.upTo x.enter x.key :=
  ⟨_, _, _, rfl, x.key_and_username.1, x.entering⟩

/-- **No visit ends in the middle of another one** to the same provider. -/
theorem prefix_before (h : y.path <+: x.upTo) (hkey : y.key = x.key) : y.path <+: x.before := by
  rcases List.prefix_or_prefix_of_prefix h x.turnIn_prefix with hy | hx
  · rcases List.prefix_concat_iff.1 hy with hy | hy
    · -- the last call of a visit is not one that turns in a result
      have hlast := (List.append_inj' hy rfl).2
      cases hlast
    · exact hy
  · rcases List.prefix_concat_iff.1 hx with hx | ⟨first, hfirst⟩
    · have hlast := (List.append_inj' hx rfl).2
      cases hlast
    · obtain ⟨rest, hrest⟩ := h
      rw [List.append_assoc, List.singleton_append] at hfirst
      have hbetween : x.between = first ++ y.enter :: rest := by
        rw [path, ← hfirst, upTo] at hrest
        simpa using hrest.symm
      refine absurd ?_ (x.alone first y.enter rest hbetween)
      have henters := y.enters
      rw [← hfirst, hkey] at henters
      exact henters

/-- What has been drawn for one visit is drawn for no other. -/
theorem path_eq_of_freshId (hfresh : (calls.filterMap Call.freshId?).Nodup)
    (hx : x.path <+: calls) (hy : y.path <+: calls) (h : x.freshId = y.freshId) :
    x.path = y.path := by
  obtain ⟨hbefore, hturnIn⟩ := eq_of_drawn hfresh
    (x.turnIn_prefix.trans (x.upTo_prefix.trans hx))
    (y.turnIn_prefix.trans (y.upTo_prefix.trans hy)) rfl (congrArg some h.symm)
  have hkey : x.key = y.key := by
    injection hturnIn with _ hresult
    exact congrArg FlowResult.handler hresult
  have hnot : ∀ {z z' : Visit m backend s}, z.before = z'.before → ¬ z.path <+: z'.before := by
    intro z z' hz hpath
    rw [← hz, path_eq] at hpath
    have hlength := hpath.length_le
    simp only [List.length_append, List.length_cons] at hlength
    omega
  rcases List.prefix_or_prefix_of_prefix hx hy with hxy | hyx
  · rcases List.prefix_concat_iff.1 hxy with heq | hxy
    · exact heq
    · exact absurd (prefix_before hxy hkey) (hnot hbefore)
  · rcases List.prefix_concat_iff.1 hyx with heq | hyx
    · exact heq.symm
    · exact absurd (prefix_before hyx hkey.symm) (hnot hbefore.symm)

/-- Visits that end with one call are answered alike. -/
theorem user_eq_of_path_eq (h : x.path = y.path) :
    x.handed = y.handed ∧ x.user = y.user ∧ x.final = y.final := by
  obtain ⟨hupTo, henter⟩ := List.append_inj' h rfl
  have henter : x.enter = y.enter := List.singleton_inj.1 henter
  have hreply : m.reply backend s x.upTo x.enter = m.reply backend s y.upTo y.enter := by
    rw [hupTo, henter]
  have hx : m.reply backend s x.upTo x.enter = .ok (.store (.account x.user x.final)) := x.entering
  have hy : m.reply backend s y.upTo y.enter = .ok (.store (.account y.user y.final)) := y.entering
  rw [hx, hy] at hreply
  injection hreply with hreply
  injection hreply with hreply
  injection hreply with huser hfinal
  injection henter with _ hhanded
  exact ⟨hhanded, huser, hfinal⟩

end Visit

end Manager

end SignIn
