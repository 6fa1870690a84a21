import SignIn.Manager
import SignIn.Proofs.Logins.PasswordSettings

/-!
# Which list of passwords counts

A configuration may have several entries for one key, and some of them may be of no use: an entry
counts if it is the first one with the key whose settings hold a list of passwords
(`Config.Lists`). There is one such entry at most (`Config.Lists.eq`), and there is one just if the
manager for the configuration has a provider with the key; its list of passwords is that of the
provider (`Manager.provider?_eq_ok_iff`).
-/

namespace SignIn

namespace Config

/-- The entry of a configuration that counts for a key, with its list of passwords: the first one
with the key whose settings hold a list. The key has the type of such lists. -/
def Lists (config : Config) (key : ProviderKey) (entry : ProviderConfig) (users : PasswordList) :
    Prop :=
  key.kind = "insecure_example" ∧ ∃ before after, config.providers = before ++ entry :: after ∧
    entry.key = key ∧ PasswordList.Holds entry.extra users ∧
    ∀ e ∈ before, e.key = key → ∀ others, ¬ PasswordList.Holds e.extra others

/-- The list of an entry that has a key. -/
def readFor? (key : ProviderKey) (entry : ProviderConfig) :
    Option (ProviderConfig × PasswordList) :=
  if entry.key = key then (PasswordList.ofSettings entry.extra).toOption.map (entry, ·) else none

/-- The search for the entry that counts for a key. -/
def listed? (config : Config) (key : ProviderKey) : Option (ProviderConfig × PasswordList) :=
  if key.kind = "insecure_example" then config.providers.findSome? (readFor? key) else none

variable {config : Config} {key : ProviderKey} {e entry entry' : ProviderConfig}
  {users users' : PasswordList}

theorem readFor?_eq_some_iff : readFor? key e = some (entry, users) ↔
    e = entry ∧ entry.key = key ∧ PasswordList.Holds entry.extra users := by
  rw [readFor?, ← PasswordList.ofSettings_eq_ok_iff]
  constructor
  · intro h
    split at h
    · rename_i hkey
      obtain ⟨_, hread, hpair⟩ := Option.map_eq_some_iff.1 h
      cases hpair
      refine ⟨rfl, hkey, ?_⟩
      cases hok : PasswordList.ofSettings e.extra with
      | error fault =>
        rw [hok] at hread
        cases hread
      | ok us =>
        rw [hok] at hread
        cases hread
        rfl
    · cases h
  · rintro ⟨rfl, hkey, hread⟩
    rw [if_pos hkey, hread]
    rfl

theorem readFor?_eq_none_iff : readFor? key e = none ↔
    (e.key = key → ∀ others, ¬ PasswordList.Holds e.extra others) := by
  rw [Option.eq_none_iff_forall_ne_some]
  constructor
  · intro h hkey others hothers
    exact h (e, others) (readFor?_eq_some_iff.2 ⟨rfl, hkey, hothers⟩)
  · rintro h ⟨entry, users⟩ hread
    obtain ⟨rfl, hkey, hholds⟩ := readFor?_eq_some_iff.1 hread
    exact h hkey users hholds

/-- The search finds the entry that counts. -/
theorem listed?_eq_some_iff : config.listed? key = some (entry, users) ↔
    config.Lists key entry users := by
  rw [listed?, Lists]
  by_cases hkind : key.kind = "insecure_example"
  · rw [if_pos hkind, List.findSome?_eq_some_iff]
    simp only [readFor?_eq_some_iff, readFor?_eq_none_iff]
    constructor
    · rintro ⟨before, _, after, heq, ⟨rfl, hkey, hholds⟩, hbefore⟩
      exact ⟨hkind, before, after, heq, hkey, hholds, hbefore⟩
    · rintro ⟨-, before, after, heq, hkey, hholds, hbefore⟩
      exact ⟨before, entry, after, heq, ⟨rfl, hkey, hholds⟩, hbefore⟩
  · rw [if_neg hkind]
    exact ⟨nofun, fun h => absurd h.1 hkind⟩

/-- One entry counts for a key, with one list. -/
theorem Lists.eq (h : config.Lists key entry users) (h' : config.Lists key entry' users') :
    entry' = entry ∧ users' = users := by
  rw [← listed?_eq_some_iff] at h h'
  exact Prod.mk.inj (Option.some.inj (h'.symm.trans h))

end Config

namespace Registry

variable {σ : Type}

/-- The registered type builds providers with a list of passwords. -/
theorem build?_builtin_eq_some_iff {entry : ProviderConfig} {p : Provider σ} :
    builtin.build? entry = some p ↔ entry.kind = "insecure_example" ∧
      ∃ users, PasswordList.Holds entry.extra users ∧ p = PasswordList.provider entry users := by
  rw [build?, builtin, factory?_register, factory?_empty, PasswordList.kind]
  simp only [← PasswordList.factory_eq_ok_iff]
  by_cases hkind : entry.kind = "insecure_example"
  · rw [if_pos hkind.symm, Option.bind_some]
    cases PasswordList.factory entry <;> simp [Except.toOption, hkind]
  · rw [if_neg (Ne.symm hkind)]
    simp [hkind]

end Registry

namespace Manager

variable {σ : Type} {m : Manager σ} {config : Config} {key : ProviderKey}

/-- An entry comes to a provider with a key just if it has the key, the type is that of lists of
passwords, and its settings hold a list. -/
theorem any_build?_builtin_iff {entry : ProviderConfig} :
    ((Registry.builtin : Registry σ).build? entry).any (fun p => p.key == key) = true ↔
      entry.key = key ∧ key.kind = "insecure_example" ∧
        ∃ users, PasswordList.Holds entry.extra users := by
  simp only [Option.any_eq_true, Registry.build?_builtin_eq_some_iff, beq_iff_eq]
  constructor
  · rintro ⟨p, ⟨hkind, users, hholds, rfl⟩, rfl⟩
    exact ⟨rfl, hkind, users, hholds⟩
  · rintro ⟨rfl, hkind, users, hholds⟩
    exact ⟨_, ⟨hkind, users, hholds, rfl⟩, rfl⟩

/-- **The provider with a key is that of the entry that counts.** -/
theorem provider?_eq_ok_iff {p : Provider σ} (h : ofConfig .builtin config = .ok m) :
    m.provider? key = .ok p ↔
      ∃ entry users, config.Lists key entry users ∧ p = PasswordList.provider entry users := by
  have hproviders :
      m.providers = distinct (config.providers.filterMap Registry.builtin.build?) := by
    rw [ofConfig] at h
    split at h
    · cases h
    · split at h <;> cases h
      rfl
  have hfind : m.provider? key = .ok p ↔
      (m.providers.find? fun p => p.key == key) = some p := by
    rw [provider?]
    cases m.providers.find? fun p => p.key == key <;> simp
  -- the first provider with the key is that of the first entry that comes to one with the key
  rw [hfind, hproviders, find?_distinct, List.find?_filterMap, Option.bind_eq_some_iff]
  refine exists_congr fun entry => ?_
  simp only [List.find?_eq_some_iff_append, any_build?_builtin_iff,
    Registry.build?_builtin_eq_some_iff, Config.Lists]
  constructor
  · rintro ⟨⟨⟨hkey, hkind, -⟩, before, after, heq, hbefore⟩, -, users, hholds, hp⟩
    refine ⟨users, ⟨hkind, before, after, heq, hkey, hholds, ?_⟩, hp⟩
    intro e he hekey others hothers
    have hnone := hbefore e he
    rw [Bool.not_eq_true', Bool.eq_false_iff] at hnone
    exact hnone (any_build?_builtin_iff.2 ⟨hekey, hkind, others, hothers⟩)
  · rintro ⟨users, ⟨hkind, before, after, heq, rfl, hholds, hbefore⟩, hp⟩
    refine ⟨⟨⟨rfl, hkind, users, hholds⟩, before, after, heq, fun e he => ?_⟩,
      hkind, users, hholds, hp⟩
    rw [Bool.not_eq_true', Bool.eq_false_iff]
    intro hany
    obtain ⟨hekey, -, others, hothers⟩ := any_build?_builtin_iff.1 hany
    exact hbefore e he hekey others hothers

end Manager

end SignIn
