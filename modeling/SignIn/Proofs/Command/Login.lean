import SignIn.Proofs.Command.Calls
import SignIn.Proofs.Config.Precedence
import SignIn.Proofs.Logins.ListedUsers
import SignIn.Proofs.Manager.Lifetime

/-!
# A login on the command line

`Command.LogsIn` is what a login comes to as a whole: who can log in is a matter of the
configuration, one of whose entries counts for the key (`Config.Lists`), and of the passwords in its
list; whoever is admitted gets a user, a client and a token, which are printed, and everybody else
gets a failure and leaves nothing behind. `Command.logsIn` proves it of every command that asks for
a login, with any files and any environment.
-/

namespace SignIn

namespace Command

variable {files : Files} {env : Environment} {supply : Supply} {c : Command} {config : Config}
  {key : ProviderKey} {username password : String} {validity : Span} {expiry : Instant}

private theorem validate_of_config (h : c.config files env = .ok config) :
    config.validate = .ok () := by
  rw [Command.config] at h
  split at h
  · rw [Config.ofFileOverridden] at h
    split at h
    · cases h
    · exact Config.validate_of_overridden h
  · exact Config.validate_of_load h

/-- A command comes to what its action takes the empty data to. -/
private theorem execute_of_takes {m : Manager Unit} {r : Except CommandFailure (List Json)}
    {d : Directory} (hconfig : c.config files env = .ok config)
    (hm : Manager.ofConfig .builtin config = .ok m)
    (h : (perform m supply c.action).Takes {} r d) : c.execute files env supply = (r, d) := by
  obtain ⟨s, hrun, hs⟩ := h { world := () } ⟨rfl, fun _ => rfl⟩
  rw [execute, hconfig]
  simp only [hm, hrun, hs.directory]

/-- There is a manager for a valid configuration whose minutes are a span. -/
private theorem exists_manager (h : c.config files env = .ok config)
    (hvalidity : config.validity? = some validity) :
    ∃ m : Manager Unit, Manager.ofConfig .builtin config = .ok m ∧ m.validity = validity := by
  refine ⟨⟨Manager.distinct (config.providers.filterMap Registry.builtin.build?), validity⟩,
    ?_, rfl⟩
  simp only [Manager.ofConfig, validate_of_config h, hvalidity]

section Login

variable {m : Manager Unit} {entry : ProviderConfig} {users : PasswordList}

/-- The login of somebody whose password is that of the entry for the username. -/
private theorem execute_login (hconfig : c.config files env = .ok config)
    (haction : c.action = .login key username password)
    (hm : Manager.ofConfig .builtin config = .ok m)
    (hexpiry : (supply.token m.validity).expiresAt? = some expiry)
    (hlists : config.Lists key entry users) {e : PasswordEntry}
    (hentry : users.entry? username = some e) (hpassword : e.password = password) :
    c.execute files env supply = (.ok [supply.printed e.name expiry],
      { users := [supply.user key username e.name [supply.token m.validity]]
        clients := [supply.client] }) := by
  have hknown : users.recognizes username password = true := by
    rw [PasswordList.recognizes, hentry, Option.any_some, hpassword, sameDigestText,
      sameDigest_self]
  have hname : (users.entry? username).bind PasswordEntry.name = e.name := by
    rw [hentry, Option.bind_some]
  have hprovider := (Manager.provider?_eq_ok_iff hm).2 ⟨entry, users, hlists, rfl⟩
  obtain ⟨-, -, -, -, hkey, -⟩ := hlists
  refine execute_of_takes hconfig hm ?_
  rw [haction, perform]
  exact (Manager.takes_signIn hprovider hkey hknown hname hexpiry).bind (CommandM.takes_mk rfl)

/-- The login of somebody whom no list that counts admits. -/
private theorem execute_login_of_nobody (hconfig : c.config files env = .ok config)
    (haction : c.action = .login key username password)
    (hm : Manager.ofConfig .builtin config = .ok m)
    (hapart : ∀ entry users, config.Lists key entry users →
      users.Collisionless username password)
    (hnobody : ¬ ∃ entry users, config.Lists key entry users ∧
      users.Admits username password) :
    ∃ f, c.execute files env supply = (.error f, {}) ∧ (Ending.failed f).exitCode = 1 := by
  have hfails : ∃ f, (m.signIn supply key username password).Takes {} (.error f) {} ∧
      (Ending.failed f).exitCode = 1 := by
    cases hprovider : m.provider? key with
    | error failure => exact ⟨_, Manager.takes_signIn_of_missing hprovider, rfl⟩
    | ok p =>
      obtain ⟨entry, users, hlists, rfl⟩ := (Manager.provider?_eq_ok_iff hm).1 hprovider
      have hunknown : users.recognizes username password = false := by
        rw [← Bool.not_eq_true, PasswordList.recognizes_iff (hapart entry users hlists)]
        exact fun hadmits => hnobody ⟨entry, users, hlists, hadmits⟩
      exact ⟨_, Manager.takes_signIn_of_unknown hprovider hunknown, rfl⟩
  obtain ⟨f, htakes, hexit⟩ := hfails
  refine ⟨f, execute_of_takes hconfig hm ?_, hexit⟩
  rw [haction, perform]
  exact htakes.bind_error

end Login

/-- What a login comes to, with a configuration and the moment at which its token would expire. -/
structure LogsIn (files : Files) (env : Environment) (supply : Supply) (c : Command)
    (config : Config) (key : ProviderKey) (username password : String) (validity : Span)
    (expiry : Instant) : Prop where
  /-- One entry counts for the key, with one list. -/
  counts : ∀ entry users, config.Lists key entry users → ∀ entry' users',
    config.Lists key entry' users' → entry' = entry ∧ users' = users
  /-- Those succeed whom the list of the entry that counts admits. -/
  succeeds : (∃ lines, (c.execute files env supply).1 = .ok lines) ↔
    ∃ entry users, config.Lists key entry users ∧ users.Admits username password
  /-- They are told about the user and the token, and there are this user and a client. -/
  success : ∀ entry users, config.Lists key entry users → ∀ before e after,
    users = before ++ e :: after → (∀ e' ∈ before, e'.username ≠ username) →
    e.username = username → e.password = password →
    c.execute files env supply = (.ok [supply.printed e.name expiry],
      { users := [supply.user key username e.name [supply.token validity]]
        clients := [supply.client] })
  /-- All others are told of a failure, and there is nothing. -/
  failure : (¬ ∃ entry users, config.Lists key entry users ∧ users.Admits username password) →
    ∃ f, c.execute files env supply = (.error f, {}) ∧ (Ending.failed f).exitCode = 1
  /-- Whatever a flow answers, it goes on for two steps at most. -/
  steps : ∀ (f : OpenFlow) (input : Json),
    f.fillIn input
        = f.thenWith ⟨"init", none⟩ (fun step f => OpenFlow.goOn input false step f) ∧
      (f.fillIn input).2.earlier.length ≤ f.earlier.length + 2

/-- **A login succeeds for the configured users**, and for nobody else: a user of the entry that
counts for the key, with the password in its list. What is printed and what the store holds at the
end are given in full for both outcomes. -/
theorem logsIn (hconfig : c.config files env = .ok config)
    (haction : c.action = .login key username password)
    (hvalidity : config.validity? = some validity)
    (hexpiry : (supply.token validity).expiresAt? = some expiry)
    (hapart : ∀ entry users, config.Lists key entry users →
      users.Collisionless username password) :
    LogsIn files env supply c config key username password validity expiry := by
  obtain ⟨m, hm, rfl⟩ := exists_manager hconfig hvalidity
  constructor
  case counts => exact fun entry users h entry' users' h' => h.eq h'
  case succeeds =>
    constructor
    · rintro ⟨lines, hlines⟩
      by_contra hnobody
      have hfails : ∃ f, c.execute files env supply = (.error f, {}) ∧ _ :=
        execute_login_of_nobody hconfig haction hm hapart hnobody
      obtain ⟨f, hexecute, -⟩ := hfails
      rw [hexecute] at hlines
      cases hlines
    · rintro ⟨entry, users, hlists, before, e, after, heq, hbefore, husername, hpassword⟩
      have hentry := PasswordList.entry?_eq_some_iff.2 ⟨before, after, heq, hbefore, husername⟩
      rw [execute_login hconfig haction hm hexpiry hlists hentry hpassword]
      exact ⟨_, rfl⟩
  case success =>
    intro entry users hlists before e after heq hbefore husername hpassword
    have hentry := PasswordList.entry?_eq_some_iff.2 ⟨before, after, heq, hbefore, husername⟩
    exact execute_login hconfig haction hm hexpiry hlists hentry hpassword
  case failure => exact execute_login_of_nobody hconfig haction hm hapart
  case steps => exact fun f input => ⟨f.fillIn_eq input, f.length_earlier_fillIn_le input⟩

/-- A document with two lists of passwords, of which the first one cannot be read. -/
def shop : String :=
  "[[providers]]\ntype = \"insecure_example\"\nusers = 1\n"
    ++ "[[providers]]\ntype = \"insecure_example\"\nusers = [[\"ann\", \"one\", \"Ann\"]]\n"

/-- A place where the document stands under the standard path. -/
def shopFiles : Files := fun path =>
  if path = "auth.toml" then .file shop.toUTF8 else .missing

/-- The key of both entries. -/
def shopKey : ProviderKey := ⟨"insecure_example", none⟩

/-- What a visit is supplied with, at noon on 1 January 2024 or a little later. -/
def shopSupply : Supply :=
  ⟨"c1", "u1", "k1", "s1", "t1", { second := 1704110400, nano := 250000000 }⟩

/-- Half an hour later. -/
def halfPast : Instant := { second := 1704112200, nano := 250000000 }

/-- A visit of a user with some password. -/
def visit (password : String) : Command := ⟨none, .login shopKey "ann" password⟩

/-- What can be seen of the configuration of a visit: its minutes, and the list that counts. -/
theorem load_shop : ∃ config entry, Config.load shopFiles {} = .ok config ∧
    config.minutes = 30 ∧ config.Lists shopKey entry [⟨"ann", "one", some "Ann"⟩] := by
  have hseen : (Config.load shopFiles {}).toOption.map
      (fun config => (config.minutes, (config.listed? shopKey).map Prod.snd))
        = some (30, some [⟨"ann", "one", some "Ann"⟩]) := by
    decide +kernel
  cases hload : Config.load shopFiles {} with
  | error fault =>
    rw [hload] at hseen
    cases hseen
  | ok config =>
    rw [hload] at hseen
    have hpair := Option.some.inj hseen
    obtain ⟨⟨entry, _⟩, hlisted, rfl⟩ := Option.map_eq_some_iff.1 (congrArg Prod.snd hpair)
    exact ⟨config, entry, rfl, congrArg Prod.fst hpair, Config.listed?_eq_some_iff.1 hlisted⟩

/-- The second entry counts, and lets its user in by the password that is listed there and by no
other one. -/
theorem logsIn_shop :
    ∃ config,
      LogsIn shopFiles {} shopSupply (visit "one") config shopKey "ann" "one" .standard halfPast ∧
      LogsIn shopFiles {} shopSupply (visit "two") config shopKey "ann" "two" .standard halfPast ∧
      (visit "one").execute shopFiles {} shopSupply
        = (.ok [shopSupply.printed (some "Ann") halfPast],
          { users := [shopSupply.user shopKey "ann" (some "Ann") [shopSupply.token .standard]]
            clients := [shopSupply.client] }) ∧
      ∃ f, (visit "two").execute shopFiles {} shopSupply = (.error f, {}) := by
  obtain ⟨config, entry, hconfig, hminutes, hlists⟩ := load_shop
  have hvalidity : config.validity? = some .standard := by
    rw [Config.validity?, hminutes]
    rfl
  have hexpiry : (shopSupply.token .standard).expiresAt? = some halfPast := by decide
  have hentry : PasswordList.entry? [⟨"ann", "one", some "Ann"⟩] "ann"
      = some ⟨"ann", "one", some "Ann"⟩ := by decide
  have hapart : ∀ password, Sha256.TellsApart (utf8 "one") (utf8 password) →
      ∀ entry users, config.Lists shopKey entry users → users.Collisionless "ann" password := by
    intro password htells entry users h e he
    rw [(hlists.eq h).2, hentry] at he
    cases he
    exact htells
  have hone : LogsIn shopFiles {} shopSupply (visit "one") config shopKey "ann" "one" .standard
      halfPast := logsIn hconfig rfl hvalidity hexpiry (hapart "one" fun _ => rfl)
  have htwo : LogsIn shopFiles {} shopSupply (visit "two") config shopKey "ann" "two" .standard
      halfPast := logsIn hconfig rfl hvalidity hexpiry (hapart "two" (by decide +kernel))
  refine ⟨config, hone, htwo, ?_, ?_⟩
  · exact hone.success entry _ hlists [] ⟨"ann", "one", some "Ann"⟩ [] rfl
      (fun _ h => absurd h List.not_mem_nil) rfl rfl
  · have hnobody : ¬ ∃ entry users, config.Lists shopKey entry users ∧
        users.Admits "ann" "two" := by
      rintro ⟨entry, users, h, hadmits⟩
      obtain ⟨before, e, after, heq, -, -, hpassword⟩ := (hlists.eq h).2 ▸ hadmits
      have he : e ∈ [(⟨"ann", "one", some "Ann"⟩ : PasswordEntry)] := by simp [heq]
      rw [List.mem_singleton.1 he] at hpassword
      exact absurd hpassword (by decide)
    obtain ⟨f, hf, -⟩ := htwo.failure hnobody
    exact ⟨f, hf⟩

end Command

end SignIn
