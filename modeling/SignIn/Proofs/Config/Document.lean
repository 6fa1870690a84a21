import Mathlib.Data.List.Forall2
import SignIn.Config.Load
import SignIn.Proofs.Toml.Keys

/-!
# What a document says about a configuration

`Config.Describes` relates the table of a document to the configuration that it describes, by what
is under each key: the minutes are an integer, and the providers are the tables of an array, each
with its own settings (`ProviderConfig.Describes`). What a setting is in JSON is a relation as well
(`Toml.Value.Shows`), so that nothing here looks at how a document is read.

`Config.ofToml_eq_some_iff` says that reading does find the configuration that is described, and
that there is none where nothing is read. It relies on a document having no key twice
(`Toml.tidy_of_parse?`).
-/

namespace SignIn

namespace Toml.Value

/-! ### Values in JSON -/

/-- What a value of a document is in JSON. -/
inductive Shows : Value → Json → Prop
  | text (s : String) : Shows (.text s) (.text s)
  | integer (n : Int) : Shows (.integer n) (.number (.integer n))
  | float {x : Double} (h : x.isFinite = true) : Shows (.float x) (.number (.double x))
  /-- JSON knows no infinite numbers, and none that are none. -/
  | notFinite {x : Double} (h : x.isFinite = false) : Shows (.float x) .null
  | bool (b : Bool) : Shows (.bool b) (.bool b)
  /-- JSON knows no moments. There is an object with the text of the moment instead. -/
  | moment (m : Moment) :
      Shows (.moment m) (.object [("$__toml_private_datetime", .text (String.ofList m.chars))])
  /-- The items are the same, one by one. -/
  | array {items : List Value} {shown : List Json} (h : List.Forall₂ Shows items shown) :
      Shows (.array items) (.array shown)
  /-- The keys are the same, in order, and what is under each of them. -/
  | table {members : List (String × Value)} {shown : Table Json} (hsorted : Table.IsSorted shown)
      (hnone : ∀ key, Table.get? shown key = none ↔ Table.get? members key = none)
      (h : ∀ key v json, Table.get? members key = some v → Table.get? shown key = some json →
        Shows v json) :
      Shows (.table members) (.object shown)

private theorem itemsToJson_eq_map (items : List Value) : itemsToJson items = items.map toJson := by
  induction items with
  | nil => rfl
  | cons x items ih => rw [itemsToJson, ih, List.map_cons]

/-- What a table becomes has under a key what the table has there. -/
private theorem get?_toJson {members : List (String × Value)} (h : (Table.keys members).Nodup)
    (key : String) : Table.get? (Table.ofList (membersToJson members)) key
      = (Table.get? members key).map toJson := by
  have hkeys : Table.keys (membersToJson members) = Table.keys members := by
    rw [membersToJson_eq_map, Table.keys, Table.keys, List.map_map]
    rfl
  rw [Table.get?_ofList (hkeys ▸ h), membersToJson_eq_map, Table.get?_map]

private theorem Tidy.shows_toJson {v : Value} (h : v.Tidy) : v.Shows v.toJson := by
  induction h with
  | text s => exact .text s
  | integer => exact .integer _
  | bool b => exact .bool b
  | moment m => exact .moment m
  | float x =>
    cases hx : x.isFinite with
    | true =>
      rw [toJson, if_pos hx]
      exact .float hx
    | false =>
      rw [toJson, hx, if_neg Bool.false_ne_true]
      exact .notFinite hx
  | @array items _ ih =>
    rw [toJson, itemsToJson_eq_map]
    exact .array (List.forall₂_map_right_iff.2 (List.forall₂_same.2 ih))
  | @table members hkeys _ ih =>
    rw [toJson]
    refine .table (Table.isSorted_ofList _) (fun key => ?_) fun key v json hv hjson => ?_
    · rw [get?_toJson hkeys, Option.map_eq_none_iff]
    · rw [get?_toJson hkeys, hv] at hjson
      cases hjson
      exact ih _ (Table.mem_of_get? hv)

/-- Items that show nothing else than what they become. -/
private theorem eq_map_of_shows {items : List Value} {shown : List Json}
    (h : List.Forall₂ Shows items shown)
    (hitems : ∀ x ∈ items, ∀ {json : Json}, x.Shows json → json = x.toJson) :
    shown = items.map toJson := by
  induction h with
  | nil => rfl
  | cons hx _ ih =>
    obtain ⟨hfirst, hrest⟩ := List.forall_mem_cons.1 hitems
    rw [List.map_cons, ← hfirst hx, ih hrest]

private theorem Tidy.eq_of_shows {v : Value} (h : v.Tidy) {json : Json} (hshows : v.Shows json) :
    json = v.toJson := by
  induction h generalizing json with
  | text | integer | bool | moment =>
    cases hshows
    rfl
  | float x =>
    cases hshows with
    | float hx => rw [toJson, if_pos hx]
    | notFinite hx => rw [toJson, hx, if_neg Bool.false_ne_true]
  | array _ ih =>
    cases hshows with
    | array hitems => rw [toJson, itemsToJson_eq_map, eq_map_of_shows hitems ih]
  | @table members hkeys _ ih =>
    cases hshows with
    | @table _ shown hsorted hnone hmembers =>
      have hshown : shown = Table.ofList (membersToJson members) := by
        -- two sorted tables are the same if they have the same under every key
        refine hsorted.ext (Table.isSorted_ofList _) fun key => ?_
        rw [get?_toJson hkeys]
        cases hv : Table.get? members key with
        | none => exact (hnone key).2 hv
        | some v =>
          cases hjson : Table.get? shown key with
          | none => cases ((hnone key).1 hjson).symm.trans hv
          | some json =>
            have hv' := ih _ (Table.mem_of_get? hv) (hmembers key v json hv hjson)
            rw [hv', Option.map_some]
      rw [hshown]
      rfl

theorem Tidy.shows_iff {v : Value} (h : v.Tidy) {json : Json} :
    v.Shows json ↔ v.toJson = json :=
  ⟨fun hshows => (h.eq_of_shows hshows).symm, fun heq => heq ▸ h.shows_toJson⟩

theorem Tidy.filter {members : List (String × Value)} (h : (Value.table members).Tidy)
    (p : String × Value → Bool) : (Value.table (members.filter p)).Tidy := by
  cases h with
  | table hkeys htidy =>
    refine .table (hkeys.sublist (List.filter_sublist.map _)) fun m hm => ?_
    exact htidy m (List.mem_filter.1 hm).1

/-- What is under a key of a tidy table. -/
theorem Tidy.of_get? {members : List (String × Value)} (h : (Value.table members).Tidy)
    {key : String} {v : Value} (hv : Table.get? members key = some v) : v.Tidy := by
  cases h with
  | table _ htidy => exact htidy _ (Table.mem_of_get? hv)

end Toml.Value

/-! ### Providers -/

namespace ProviderConfig

/-- A table of a document describes a provider: it states the type, perhaps a name and an id, and
everything else in it is the provider's own. -/
inductive Describes : Toml.Value → ProviderConfig → Prop
  | table {members : List (String × Toml.Value)} {p : ProviderConfig}
      (hkind : Table.get? members "type" = some (.text p.kind))
      (hname : Table.get? members "name" = p.name.map .text)
      (hid : Table.get? members "id" = p.id.map .text)
      (hextra : (Toml.Value.table (members.filter fun m => m.1 ∉ ["type", "name", "id"])).Shows
        (.object p.extra)) :
      Describes (.table members) p

variable {members : List (String × Toml.Value)} {p : ProviderConfig}

/-- A member that may be absent, but is a text where it is there. -/
theorem tomlText?_eq_some_iff {key : String} {s : Option String} :
    tomlText? members key = some s ↔ Table.get? members key = s.map .text := by
  rw [tomlText?]
  cases hv : Table.get? members key with
  | none => cases s <;> simp
  | some v =>
    cases v with
    | text t => cases s <;> simp
    | integer _ | float _ | bool _ | moment _ | array _ | table _ => cases s <;> simp

/-- What is read from a table is what the table describes. -/
theorem ofToml_eq_some_iff {value : Toml.Value} (h : value.Tidy) :
    ofToml value = some p ↔ Describes value p := by
  cases value with
  | text _ | integer _ | float _ | bool _ | moment _ | array _ => exact ⟨nofun, nofun⟩
  | table members =>
    have hextra : ∀ extra : Table Json,
        Table.ofList (Toml.Value.membersToJson (members.filter fun m => !knownKeys.contains m.1))
          = extra ↔
        (Toml.Value.table (members.filter fun m => m.1 ∉ ["type", "name", "id"])).Shows
          (.object extra) := by
      intro extra
      have hfilter : (members.filter fun m => !knownKeys.contains m.1)
          = members.filter fun m => m.1 ∉ ["type", "name", "id"] := by
        simp only [knownKeys, List.contains_eq_mem, decide_not]
      rw [(h.filter _).shows_iff, hfilter, Toml.Value.toJson, Json.record, Json.object.injEq]
    simp only [ofToml, Option.bind_eq_bind, Option.bind_eq_some_iff, tomlText?_eq_some_iff,
      Option.some.injEq]
    constructor
    · rintro ⟨kind?, hkind?, kind, rfl, name, hname, id, hid, rfl⟩
      exact .table hkind? hname hid ((hextra _).1 rfl)
    · rintro ⟨hkind, hname, hid, hshows⟩
      exact ⟨some p.kind, hkind, p.kind, rfl, p.name, hname, p.id, hid,
        by rw [(hextra p.extra).2 hshows]⟩

end ProviderConfig

/-! ### Whole documents -/

namespace Config

/-- What a document says about the minutes: an integer, or nothing, and then they are thirty. -/
inductive DescribesMinutes (members : List (String × Toml.Value)) (minutes : Int64) : Prop
  | stated : Table.get? members "access_token_valid_minutes" = some (.integer minutes.toInt) →
      DescribesMinutes members minutes
  | absent : Table.get? members "access_token_valid_minutes" = none → minutes = 30 →
      DescribesMinutes members minutes

/-- What a document says about the providers: an array of tables, each of which describes one, in
this order, or nothing, and then there are none. -/
inductive DescribesProviders (members : List (String × Toml.Value)) (ps : List ProviderConfig) :
    Prop
  | listed {items : List Toml.Value} : Table.get? members "providers" = some (.array items) →
      List.Forall₂ ProviderConfig.Describes items ps → DescribesProviders members ps
  | absent : Table.get? members "providers" = none → ps = [] → DescribesProviders members ps

/-- The table of a document describes a configuration. This says what the members of the document
mean without saying how they are read; members under other keys mean nothing. -/
structure Describes (members : List (String × Toml.Value)) (c : Config) : Prop where
  minutes : DescribesMinutes members c.minutes
  providers : DescribesProviders members c.providers

variable {members : List (String × Toml.Value)} {c : Config}

theorem tomlMinutes?_eq_some_iff (h : (Toml.Value.table members).Tidy) {minutes : Int64} :
    tomlMinutes? members = some minutes ↔ DescribesMinutes members minutes := by
  rw [tomlMinutes?]
  constructor
  · intro hminutes
    split at hminutes
    · rename_i hnone
      cases hminutes
      exact .absent hnone rfl
    · rename_i n hn
      cases hminutes
      cases h.of_get? hn with
      | integer hlow hhigh =>
        have htoInt : (Int64.ofInt n).toInt = n :=
          Int64.toInt_ofInt_of_le (by omega) (by omega)
        exact .stated (htoInt.symm ▸ hn)
    · cases hminutes
  · rintro (hn | ⟨hnone, rfl⟩)
    · rw [hn]
      exact congrArg some (Int64.ofInt_toInt minutes)
    · rw [hnone]
      rfl

theorem mapM_ofToml_eq_some_iff {items : List Toml.Value} (h : ∀ x ∈ items, x.Tidy)
    {ps : List ProviderConfig} : items.mapM ProviderConfig.ofToml = some ps ↔
      List.Forall₂ ProviderConfig.Describes items ps := by
  induction items generalizing ps with
  | nil =>
    rw [List.mapM_nil, List.forall₂_nil_left_iff]
    exact Option.some_inj.trans eq_comm
  | cons x items ih =>
    obtain ⟨hx, hitems⟩ := List.forall_mem_cons.1 h
    simp only [List.mapM_cons, Option.bind_eq_bind, Option.bind_eq_some_iff,
      ProviderConfig.ofToml_eq_some_iff hx, ih hitems, List.forall₂_cons_left_iff]
    constructor
    · rintro ⟨p, hp, rest, hrest, heq⟩
      exact ⟨p, rest, hp, hrest, (Option.some.inj heq).symm⟩
    · rintro ⟨p, rest, hp, hrest, rfl⟩
      exact ⟨p, hp, rest, hrest, rfl⟩

theorem tomlProviders?_eq_some_iff (h : (Toml.Value.table members).Tidy)
    {ps : List ProviderConfig} :
    tomlProviders? members = some ps ↔ DescribesProviders members ps := by
  have hitems : ∀ items, Table.get? members "providers" = some (.array items) →
      ∀ x ∈ items, x.Tidy := by
    intro items hget
    cases h.of_get? hget with
    | array htidy => exact htidy
  rw [tomlProviders?]
  constructor
  · intro hps
    split at hps
    · rename_i hnone
      cases hps
      exact .absent hnone rfl
    · rename_i items hget
      exact .listed hget ((mapM_ofToml_eq_some_iff (hitems items hget)).1 hps)
    · cases hps
  · rintro (⟨hget, hall⟩ | ⟨hnone, rfl⟩)
    · rw [hget]
      exact (mapM_ofToml_eq_some_iff (hitems _ hget)).2 hall
    · rw [hnone]

/-- **What is read from a document is what the document describes.** -/
theorem ofToml_eq_some_iff (h : (Toml.Value.table members).Tidy) :
    ofToml members = some c ↔ Describes members c := by
  simp only [ofToml, Option.bind_eq_bind, Option.bind_eq_some_iff, Option.some.injEq,
    tomlMinutes?_eq_some_iff h, tomlProviders?_eq_some_iff h]
  constructor
  · rintro ⟨minutes, hminutes, providers, hproviders, rfl⟩
    exact ⟨hminutes, hproviders⟩
  · rintro ⟨hminutes, hproviders⟩
    exact ⟨_, hminutes, _, hproviders, rfl⟩

end Config

end SignIn
