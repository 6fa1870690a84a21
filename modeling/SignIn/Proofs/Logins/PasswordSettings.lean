import SignIn.Proofs.Json.Records
import SignIn.Provider.PasswordList

/-!
# Which settings hold a list of passwords

The users of a list of passwords are the items of an array under one key of the settings. Each of
them is an object or an array, as `PasswordEntry.Describes` says, and that is what is read
(`PasswordEntry.ofJson_eq_ok_iff`). So a provider is built from the settings that hold a list
(`PasswordList.Holds`), and from no others.

Other members of the objects and other settings make no difference, not even to the fault that is
found (`PasswordList.Alike.ofSettings_eq`).
-/

namespace SignIn

namespace PasswordEntry

/-- A value describes an entry. -/
inductive Describes : Json → PasswordEntry → Prop
  /-- An object has the texts under their keys. There may be no name, or `null` in its place. -/
  | object {members : List (String × Json)} {username password : String} {name : Option String} :
      Table.get? members "username" = some (.text username) →
      Table.get? members "password" = some (.text password) →
      (Table.get? members "name").getD .null = .ofOption name →
      Describes (.object members) ⟨username, password, name⟩
  /-- An array has the texts in their order. It may end before the name. -/
  | pair (username password : String) :
      Describes (.array [.text username, .text password]) ⟨username, password, none⟩
  | triple (username password : String) (name : Option String) :
      Describes (.array [.text username, .text password, .ofOption name])
        ⟨username, password, name⟩

variable {json : Json} {entry : PasswordEntry}

theorem ofJson_object_eq_ok_iff {members : List (String × Json)} :
    ofJson (.object members) = .ok entry ↔ Describes (.object members) entry := by
  have hname : ∀ s : Option String,
      (Fields.defaulted "name" (Decode.nullable Decode.text) none).ofMembers members = .ok s ↔
        (Table.get? members "name").getD .null = .ofOption s :=
    fun s => Fields.ofMembers_optional_text_eq_ok_iff
  rw [ofJson, Fields.decode, Reading.result_eq_ok_iff, fields]
  simp only [Fields.ofMembers_andThen, Reading.both_eq_ok_iff, hname,
    Fields.ofMembers_required_text_eq_ok_iff]
  constructor
  · rintro ⟨_, name, ⟨_, password, ⟨_, username, hstart, husername, rfl⟩, hpassword, rfl⟩, hname,
      rfl⟩
    cases hstart
    exact .object husername hpassword hname
  · rintro (⟨husername, hpassword, hname⟩ | _ | _)
    exact ⟨_, _, ⟨_, _, ⟨_, _, rfl, husername, rfl⟩, hpassword, rfl⟩, hname, rfl⟩

theorem ofJson_array_eq_ok_iff {items : List Json} :
    ofJson (.array items) = .ok entry ↔ Describes (.array items) entry := by
  constructor
  · intro h
    have hfields := Fields.decode_array_eq_ok_iff.1 h
    obtain ⟨_, _, name, htexts, hname, rfl⟩ := Fields.ofItems_andThen_eq_ok_iff.1 hfields
    obtain ⟨_, _, password, hfirst, hpassword, rfl⟩ := Fields.ofItems_andThen_eq_ok_iff.1 htexts
    obtain ⟨_, _, username, hstart, husername, rfl⟩ := Fields.ofItems_andThen_eq_ok_iff.1 hfirst
    cases hstart
    obtain ⟨rfl⟩ := Fields.ofItems_required_text_eq_ok_iff.1 husername
    obtain ⟨rfl⟩ := Fields.ofItems_required_text_eq_ok_iff.1 hpassword
    rcases Fields.ofItems_one_eq_ok_iff.1 hname with ⟨_, rfl, hread⟩ | ⟨rfl, -, hnone⟩
    · rw [Decode.nullable_text_eq_ok_iff] at hread
      exact hread ▸ .triple username password name
    · cases hnone
      exact .pair username password
  · rintro (_ | ⟨username, password⟩ | ⟨username, password, name⟩)
    · rfl
    · cases name <;> rfl

/-- **The values that describe an entry are read as it, and no others are read.** -/
theorem ofJson_eq_ok_iff : ofJson json = .ok entry ↔ Describes json entry := by
  cases json with
  | object members => exact ofJson_object_eq_ok_iff
  | array items => exact ofJson_array_eq_ok_iff
  | null | bool _ | number _ | text _ => exact ⟨nofun, nofun⟩

/-- Two values say the same about an entry: they are objects with the same under its keys, or the
same value. -/
inductive Alike : Json → Json → Prop
  | refl (json : Json) : Alike json json
  | object {members members' : List (String × Json)} :
      (∀ key ∈ ["username", "password", "name"],
        Table.get? members key = Table.get? members' key) →
      Alike (.object members) (.object members')

/-- What else is in an object makes no difference, not even to the fault that is found. -/
private theorem Alike.ofJson_eq {json json' : Json} (h : Alike json json') :
    ofJson json = ofJson json' := by
  cases h with
  | refl => rfl
  | @object members members' h =>
    have husername := h "username" (by simp)
    have hpassword := h "password" (by simp)
    have hname := h "name" (by simp)
    simp only [ofJson, Fields.decode, fields, Fields.ofMembers_andThen, Fields.required,
      Fields.defaulted]
    rw [Fields.ofMembers_one_congr husername, Fields.ofMembers_one_congr hpassword,
      Fields.ofMembers_one_congr hname]
    rfl

end PasswordEntry

namespace PasswordList

/-- Settings hold a list of passwords. -/
inductive Holds (settings : Table Json) : PasswordList → Prop
  /-- Settings without any users hold the empty list. -/
  | absent : Table.get? settings "users" = none → Holds settings []
  /-- The items of an array describe the entries of the list, one by one. -/
  | listed {items : List Json} {users : PasswordList} :
      Table.get? settings "users" = some (.array items) →
      List.Forall₂ PasswordEntry.Describes items users → Holds settings users

variable {settings settings' : Table Json} {users : PasswordList}

/-- **The list that is read is the one that the settings hold.** -/
theorem ofSettings_eq_ok_iff : ofSettings settings = .ok users ↔ Holds settings users := by
  have hitems : ∀ items, Decode.items PasswordEntry.ofJson items = .ok users ↔
      List.Forall₂ PasswordEntry.Describes items users := by
    intro items
    simp only [Decode.items_eq_ok_iff, PasswordEntry.ofJson_eq_ok_iff]
  rw [ofSettings, settingsKey]
  constructor
  · intro h
    split at h
    · rename_i hnone
      cases h
      exact .absent hnone
    · rename_i json hjson
      cases json with
      | array items => exact .listed hjson ((hitems items).1 h)
      | null | bool _ | number _ | text _ | object _ => cases h
  · rintro (hnone | ⟨hlist, hentries⟩)
    · rw [hnone]
    · rw [hlist]
      exact (hitems _).2 hentries

/-- Both notations may stand in one list. -/
example : ofSettings [("users", .array [
    .object [("password", .text "p"), ("shoe size", .null), ("username", .text "ann")],
    .array [.text "bob", .text "q", .null]])]
      = .ok [⟨"ann", "p", none⟩, ⟨"bob", "q", none⟩] := by rfl

theorem Holds.eq {users' : PasswordList} (h : Holds settings users) (h' : Holds settings users') :
    users' = users := by
  rw [← ofSettings_eq_ok_iff] at h h'
  exact Except.ok.inj (h'.symm.trans h)

/-- Two tables of settings say the same about users. -/
inductive Alike (settings settings' : Table Json) : Prop
  /-- They have the same there. -/
  | same : Table.get? settings "users" = Table.get? settings' "users" → Alike settings settings'
  /-- They have arrays whose items say the same one by one. -/
  | listed {items items' : List Json} :
      Table.get? settings "users" = some (.array items) →
      Table.get? settings' "users" = some (.array items') →
      List.Forall₂ PasswordEntry.Alike items items' → Alike settings settings'

/-- Whatever else is among the settings makes no difference. -/
theorem Alike.ofSettings_eq (h : Alike settings settings') :
    ofSettings settings = ofSettings settings' := by
  rw [ofSettings, ofSettings, settingsKey]
  cases h with
  | same h => rw [h]
  | listed hitems hitems' halike =>
    rw [hitems, hitems']
    exact Decode.items_congr (halike.imp fun _ _ h => h.ofJson_eq)

/-! ### Providers -/

variable {σ : Type} {config : ProviderConfig}

theorem factory_eq_ok_iff {p : Provider σ} : factory config = .ok p ↔
    ∃ users, Holds config.extra users ∧ p = provider config users := by
  simp only [← ofSettings_eq_ok_iff]
  rw [factory]
  cases ofSettings config.extra with
  | ok users => simp [eq_comm]
  | error fault => simp

theorem factory_eq_error_iff {failure : Failure} :
    (factory config : Except Failure (Provider σ)) = .error failure ↔
      ∃ fault, ofSettings config.extra = .error fault ∧
        failure = .invalidConfig (.settings config.kind fault) := by
  rw [factory]
  cases ofSettings config.extra with
  | ok users => simp
  | error fault => simp [eq_comm]

/-- What is made of the configuration of a provider. -/
structure WellBuilt (σ : Type) (config : ProviderConfig) : Prop where
  /-- There is a provider just if the settings hold a list. -/
  built : (∃ p : Provider σ, factory config = .ok p) ↔ ∃ users, Holds config.extra users
  /-- The provider has this list, which is the only one. -/
  list : ∀ users, Holds config.extra users →
    (factory config : Except Failure (Provider σ)) = .ok (provider config users) ∧
      ∀ users', Holds config.extra users' → users' = users
  /-- Otherwise the configuration is of no use, and the failure tells the type of the provider. -/
  fails : (¬ ∃ users, Holds config.extra users) → ∃ fault,
    (factory config : Except Failure (Provider σ))
      = .error (.invalidConfig (.settings config.kind fault)) ∧
    (Failure.invalidConfig (.settings config.kind fault)).message
      = "Invalid configuration: " ++ ("auth provider " ++ config.kind ++ ": " ++ fault.message)
  /-- With other settings that say the same about users there is the same list, or the same
  failure. -/
  unaffected : ∀ extra, Alike config.extra extra →
    (∀ users, Holds extra users ↔ Holds config.extra users) ∧
      ∀ failure, (factory { config with extra } : Except Failure (Provider σ)) = .error failure ↔
        (factory config : Except Failure (Provider σ)) = .error failure

/-- **A provider is built from the settings that hold a list of passwords**, and from no others.
Which settings do is said by a grammar of entries, apart from the decoders; there is one list at
most that they hold, and the provider has this one. -/
theorem wellBuilt (σ : Type) (config : ProviderConfig) : WellBuilt σ config where
  built := by simp [factory_eq_ok_iff]
  list users h := ⟨factory_eq_ok_iff.2 ⟨users, h, rfl⟩, fun _ h' => h.eq h'⟩
  fails h := by
    cases hread : ofSettings config.extra with
    | ok users => exact absurd ⟨users, ofSettings_eq_ok_iff.1 hread⟩ h
    | error fault =>
      exact ⟨fault, factory_eq_error_iff.2 ⟨fault, hread, rfl⟩, rfl⟩
  unaffected extra h := by
    simp only [← ofSettings_eq_ok_iff, factory_eq_error_iff, h.ofSettings_eq, implies_true,
      and_self]

end PasswordList

end SignIn
