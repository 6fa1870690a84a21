import SignIn.Config.Load
import SignIn.Proofs.Json.Ordered
import SignIn.Proofs.Json.Records
import SignIn.Proofs.Json.Text

/-!
# A provider's object, flat and taken apart

A provider's type, name and id stand in one object with the settings of the provider itself.
`ProviderConfig.setting?` says what is under each key of that object, and
`ProviderConfig.ofJson_object_eq_ok_iff` what is read from an object, so that neither direction
looks at how the other is computed.

A configuration is flat (`Config.IsFlat`) when no provider keeps one of the known keys among its
own settings. Everything that is read, from JSON or from TOML, is flat, and what is flat is read
back as it was (`Config.ofJson_toJson`).
-/

namespace SignIn

/-! ### One provider -/

namespace ProviderConfig

/-- A provider's own settings are in order, and none of them is under a known key. -/
structure IsFlat (p : ProviderConfig) : Prop where
  isSorted : Table.IsSorted p.extra
  unknown : ∀ key ∈ knownKeys, key ∉ Table.keys p.extra

instance (p : ProviderConfig) : Decidable p.IsFlat :=
  decidable_of_iff (Table.IsSorted p.extra ∧ ∀ key ∈ knownKeys, key ∉ Table.keys p.extra)
    ⟨fun h => ⟨h.1, h.2⟩, fun h => ⟨h.isSorted, h.unknown⟩⟩

/-- The entries of a provider's object, as they are written. -/
def entries (p : ProviderConfig) : List (String × Json) :=
  [("type", Json.text p.kind)] ++ (p.name.map fun s => ("name", Json.text s)).toList
    ++ (p.id.map fun s => ("id", Json.text s)).toList ++ p.extra

/-- What a provider's object has under a key. -/
def setting? (p : ProviderConfig) (key : String) : Option Json :=
  if key = "type" then some (.text p.kind)
  else if key = "name" then p.name.map .text
  else if key = "id" then p.id.map .text
  else Table.get? p.extra key

variable {p : ProviderConfig}

private theorem setting?_of_not_mem {key : String} (h : key ∉ knownKeys) :
    p.setting? key = Table.get? p.extra key := by
  simp only [knownKeys, List.mem_cons, List.not_mem_nil, or_false, not_or] at h
  rw [setting?, if_neg h.1, if_neg h.2.1, if_neg h.2.2]

private theorem IsFlat.nodup_keys_entries (h : p.IsFlat) : (Table.keys p.entries).Nodup := by
  have hextra := h.isSorted.nodup_keys
  have htype := h.unknown "type" (by decide)
  have hname := h.unknown "name" (by decide)
  have hid := h.unknown "id" (by decide)
  rw [Table.keys] at hextra htype hname hid
  cases hn : p.name <;> cases hi : p.id <;>
    simp only [Table.keys, entries, hn, hi, Option.map_none, Option.map_some, Option.toList_none,
      Option.toList_some, List.cons_append, List.nil_append, List.append_nil, List.map_cons,
      List.nodup_cons, List.mem_cons, not_or, String.reduceEq, not_false_eq_true, true_and] <;>
    simp only [htype, hname, hid, hextra, not_false_eq_true, and_self]

private theorem IsFlat.get?_entries (h : p.IsFlat) (key : String) :
    Table.get? p.entries key = p.setting? key := by
  have hunknown : ∀ key ∈ knownKeys, Table.get? p.extra key = none :=
    fun key hkey => Table.get?_eq_none (h.unknown key hkey)
  have hname : Table.get? ((p.name.map fun s => ("name", Json.text s)).toList) key
      = if key = "name" then p.name.map .text else none := by
    cases p.name <;> simp [Table.get?_cons, eq_comm]
  have hid : Table.get? ((p.id.map fun s => ("id", Json.text s)).toList) key
      = if key = "id" then p.id.map .text else none := by
    cases p.id <;> simp [Table.get?_cons, eq_comm]
  rw [entries, Table.get?_append, Table.get?_append, Table.get?_append, hname, hid, setting?,
    Table.get?_cons, Table.get?_nil]
  rcases Decidable.em (key ∈ knownKeys) with hkey | hkey
  · rw [hunknown key hkey]
    simp only [knownKeys, List.mem_cons, List.not_mem_nil, or_false] at hkey
    rcases hkey with rfl | rfl | rfl <;> simp
  · simp only [knownKeys, List.mem_cons, List.not_mem_nil, or_false, not_or] at hkey
    obtain ⟨htype, hname, hid⟩ := hkey
    simp only [if_neg (Ne.symm htype), if_neg htype, if_neg hname, if_neg hid, Option.none_or]

/-- The object of a provider has its entries in order. -/
private theorem IsFlat.exists_toJson_eq (h : p.IsFlat) :
    ∃ members, p.toJson = .object members ∧ Table.IsSorted members ∧
      ∀ key, Table.get? members key = p.setting? key :=
  ⟨Table.ofList p.entries, rfl, Table.isSorted_ofList _, fun key => by
    rw [Table.get?_ofList h.nodup_keys_entries, h.get?_entries]⟩

/-- What is left of an object without its known keys. -/
private theorem get?_filter_unknown {members : List (String × Json)}
    (hsorted : Table.IsSorted members) (key : String) :
    Table.get? (members.filter fun m => !knownKeys.contains m.1) key
      = if key ∈ knownKeys then none else Table.get? members key := by
  rw [hsorted.get?_filter]
  split
  · rename_i hknown
    cases Table.get? members key <;> simp [hknown]
  · rename_i hknown
    cases Table.get? members key <;> simp [hknown]

theorem ofJson_object_eq_ok_iff {members : List (String × Json)} :
    ofJson (.object members) = .ok p ↔
      Table.get? members "type" = some (.text p.kind) ∧
        (Table.get? members "name").getD .null = .ofOption p.name ∧
        (Table.get? members "id").getD .null = .ofOption p.id ∧
        p.extra = members.filter fun m => !knownKeys.contains m.1 := by
  rw [ofJson, Reading.result_eq_ok_iff]
  simp only [Fields.ofMembers_andThen, Reading.both_eq_ok_iff,
    Fields.ofMembers_required_text_eq_ok_iff, Fields.ofMembers_optional_text_eq_ok_iff]
  constructor
  · rintro ⟨_, id, ⟨_, name, ⟨_, kind, hstart, hkind, rfl⟩, hname, rfl⟩, hid, rfl⟩
    cases hstart
    exact ⟨hkind, hname, hid, rfl⟩
  · obtain ⟨kind, name, id, extra⟩ := p
    rintro ⟨hkind, hname, hid, rfl⟩
    exact ⟨_, id, ⟨_, name, ⟨_, kind, rfl, hkind, rfl⟩, hname, rfl⟩, hid, rfl⟩

/-- The settings of the provider itself are the members under other keys, as they are. -/
private theorem get?_extra {members : List (String × Json)} (hsorted : Table.IsSorted members)
    (h : ofJson (.object members) = .ok p) (key : String) :
    Table.get? p.extra key = if key ∈ knownKeys then none else Table.get? members key := by
  obtain ⟨-, -, -, hextra⟩ := ofJson_object_eq_ok_iff.1 h
  rw [hextra, get?_filter_unknown hsorted]

/-- What is read from a sorted object is flat. -/
private theorem isFlat_of_ofJson {members : List (String × Json)} (hsorted : Table.IsSorted members)
    (h : ofJson (.object members) = .ok p) : p.IsFlat := by
  obtain ⟨-, -, -, hextra⟩ := ofJson_object_eq_ok_iff.1 h
  refine ⟨hextra ▸ List.Pairwise.filter _ hsorted, fun key hknown hkey => ?_⟩
  obtain ⟨m, hm, rfl⟩ := List.mem_map.1 (hextra ▸ hkey)
  have hunknown := (List.mem_filter.1 hm).2
  simp only [List.contains_iff_mem.2 hknown, Bool.not_true, Bool.false_eq_true] at hunknown

/-- A flat provider is read back as it was. -/
theorem ofJson_toJson (h : p.IsFlat) : ofJson p.toJson = .ok p := by
  obtain ⟨members, hjson, hsorted, hget⟩ := h.exists_toJson_eq
  have htext : ∀ s : Option String, (s.map Json.text).getD .null = .ofOption s := by
    rintro (_ | _) <;> rfl
  rw [hjson, ofJson_object_eq_ok_iff, hget, hget, hget]
  refine ⟨rfl, htext p.name, htext p.id, ?_⟩
  refine h.isSorted.ext (List.Pairwise.filter _ hsorted) fun key => ?_
  rw [get?_filter_unknown hsorted, hget]
  split
  · rename_i hknown
    exact Table.get?_eq_none (h.unknown key hknown)
  · rename_i hknown
    rw [setting?_of_not_mem hknown]

/-- Whether a member is a name or an id that is `null`. Without it the object says the same. -/
def isVoid : String × Json → Bool
  | (key, .null) => key == "name" || key == "id"
  | _ => false

private theorem filter_not_isVoid {key : String} (hkey : key = "name" ∨ key = "id")
    {x : Option Json} {s : Option String} (h : x.getD .null = .ofOption s) :
    (x.filter fun value => !isVoid (key, value)) = s.map .text := by
  cases s with
  | none =>
    cases x with
    | none => rfl
    | some x =>
      have hx : x = .null := h
      rcases hkey with rfl | rfl <;> rw [hx] <;> rfl
  | some s =>
    cases x with
    | none => cases h
    | some x =>
      have hx : x = .text s := h
      rw [hx]
      rfl

private theorem isVoid_of_not_mem {key : String} (hkey : key ∉ knownKeys) (value : Json) :
    isVoid (key, value) = false := by
  simp only [knownKeys, List.mem_cons, List.not_mem_nil, or_false, not_or] at hkey
  cases value <;> simp [isVoid, hkey]

/-- What was read is written as it was, but for a name or an id that was `null`. -/
private theorem toJson_of_ofJson {members : List (String × Json)} (hsorted : Table.IsSorted members)
    (h : ofJson (.object members) = .ok p) :
    p.toJson = .object (members.filter fun m => !isVoid m) := by
  obtain ⟨written, hjson, hwritten, hget⟩ := (isFlat_of_ofJson hsorted h).exists_toJson_eq
  obtain ⟨htype, hname, hid, -⟩ := ofJson_object_eq_ok_iff.1 h
  rw [hjson]
  refine congrArg Json.object (hwritten.ext (List.Pairwise.filter _ hsorted) fun key => ?_)
  rw [hget, hsorted.get?_filter]
  rcases Decidable.em (key ∈ knownKeys) with hknown | hunknown
  · simp only [knownKeys, List.mem_cons, List.not_mem_nil, or_false] at hknown
    rcases hknown with rfl | rfl | rfl
    · rw [htype]
      rfl
    · exact (filter_not_isVoid (Or.inl rfl) hname).symm
    · exact (filter_not_isVoid (Or.inr rfl) hid).symm
  · rw [setting?_of_not_mem hunknown, get?_extra hsorted h, if_neg hunknown]
    cases Table.get? members key <;> simp [Option.filter, isVoid_of_not_mem hunknown]

/-- A provider fits a text where its own settings do. -/
theorem fits_toJson {depth : Nat} (h : ∀ m ∈ p.extra, Json.Fits depth m.2) :
    Json.Fits (depth + 1) p.toJson := by
  refine .record fun m hm => ?_
  simp only [List.mem_append, List.mem_singleton, Option.mem_toList, Option.map_eq_some_iff] at hm
  rcases hm with ((rfl | ⟨s, -, rfl⟩) | ⟨s, -, rfl⟩) | hm
  · exact .text _
  · exact .text s
  · exact .text s
  · exact h m hm

/-- A provider that is read from a table of a document is flat. -/
private theorem isFlat_of_ofToml {value : Toml.Value} (h : ofToml value = some p) : p.IsFlat := by
  cases value with
  | table members =>
    obtain ⟨_, -, h⟩ := Option.bind_eq_some_iff.1 h
    obtain ⟨kind, -, h⟩ := Option.bind_eq_some_iff.1 h
    obtain ⟨name, -, h⟩ := Option.bind_eq_some_iff.1 h
    obtain ⟨id, -, h⟩ := Option.bind_eq_some_iff.1 h
    cases h
    refine ⟨Table.isSorted_ofList _, fun key hknown hkey => ?_⟩
    obtain ⟨entry, hentry, rfl⟩ := List.mem_map.1 hkey
    have hentry := Table.mem_of_mem_ofList hentry
    rw [Toml.Value.membersToJson_eq_map] at hentry
    obtain ⟨m, hm, rfl⟩ := List.mem_map.1 hentry
    have hunknown := (List.mem_filter.1 hm).2
    simp only [List.contains_iff_mem.2 hknown, Bool.not_true, Bool.false_eq_true] at hunknown
  | text _ | integer _ | float _ | bool _ | moment _ | array _ => cases h

end ProviderConfig

/-! ### The whole configuration -/

namespace Config

/-- No provider keeps one of the known keys among its own settings. -/
def IsFlat (c : Config) : Prop := ∀ p ∈ c.providers, p.IsFlat

instance (c : Config) : Decidable c.IsFlat :=
  inferInstanceAs (Decidable (∀ p ∈ c.providers, p.IsFlat))

/-- A flat configuration is read back as it was. -/
theorem ofJson_toJson {c : Config} (h : c.IsFlat) : ofJson c.toJson = .ok c := by
  obtain ⟨minutes, providers⟩ := c
  have hproviders := Decode.list_map fun p hp => ProviderConfig.ofJson_toJson (h p hp)
  refine Fields.Reads.decode ?_
  refine .entry (by simp) hproviders ?_
  refine .entry (by simp) (Decode.integer_ofInt minutes) ?_
  exact .start (by simp [Table.keys])

/-- The text of a configuration holds it, if the providers' own settings fit a text. -/
theorem parse?_render {c : Config} (h : ∀ p ∈ c.providers, ∀ m ∈ p.extra, Json.Fits 124 m.2) :
    Json.parse? c.toJson.render = some c.toJson := by
  have hlow : -9223372036854775808 ≤ c.minutes.toInt := c.minutes.minValue_le_toInt
  have hhigh : c.minutes.toInt ≤ 9223372036854775807 := c.minutes.toInt_le
  have hproviders : Json.Fits 126 (.array (c.providers.map ProviderConfig.toJson)) :=
    .map fun p hp => ProviderConfig.fits_toJson (h p hp)
  have hminutes : Json.Fits 126 (.ofInt c.minutes.toInt) := .integer (by omega) (by omega)
  exact Json.parse?_render (.record (by simp [hproviders, hminutes]))

/-- The providers of an array of ordered objects are flat. -/
private theorem isFlat_of_list {json : Json} (hordered : json.Ordered) {ps : List ProviderConfig}
    (h : Decode.list ProviderConfig.ofJson json = .ok ps) : ∀ p ∈ ps, p.IsFlat := by
  intro p hp
  obtain ⟨xs, rfl, x, hx, hread⟩ := Decode.mem_list h hp
  have hx : x.Ordered := hordered.items x hx
  cases x with
  | object members => exact ProviderConfig.isFlat_of_ofJson hx.isSorted hread
  | null | bool _ | number _ | text _ | array _ => cases hread

/-- A configuration that is read from an ordered value is flat. -/
private theorem isFlat_of_ofJson {json : Json} (hordered : json.Ordered) {c : Config}
    (h : ofJson json = .ok c) : c.IsFlat := by
  cases json with
  | object members =>
    rw [ofJson, Fields.decode, Reading.result_eq_ok_iff] at h
    simp only [fields, Fields.ofMembers_andThen, Reading.both_eq_ok_iff] at h
    obtain ⟨_, ps, ⟨_, minutes, hstart, -, rfl⟩, hps, rfl⟩ := h
    cases hstart
    rcases Fields.ofMembers_one_eq_ok_iff.1 hps with ⟨x, hx, hread⟩ | ⟨-, hnone⟩
    · exact isFlat_of_list (hordered.of_get? hx) hread
    · cases hnone
      exact List.forall_mem_nil _
  | array items =>
    have h := Fields.decode_array_eq_ok_iff.1 h
    obtain ⟨_, left, ps, hleft, hps, rfl⟩ := Fields.ofItems_andThen_eq_ok_iff.1 h
    obtain ⟨_, _, minutes, hstart, hminutes, rfl⟩ := Fields.ofItems_andThen_eq_ok_iff.1 hleft
    cases hstart
    rcases Fields.ofItems_one_eq_ok_iff.1 hps with ⟨x, rfl, hread⟩ | ⟨-, -, hnone⟩
    · have hx : x ∈ items := by
        rcases Fields.ofItems_one_eq_ok_iff.1 hminutes with ⟨y, rfl, -⟩ | ⟨-, hnil, -⟩
        · exact List.mem_cons_of_mem _ List.mem_cons_self
        · cases hnil
      exact isFlat_of_list (hordered.items x hx) hread
    · cases hnone
      exact List.forall_mem_nil _
  | null | bool _ | number _ | text _ => cases h

private theorem isFlat_of_mapM {values : List Toml.Value} {ps : List ProviderConfig}
    (h : values.mapM ProviderConfig.ofToml = some ps) : ∀ p ∈ ps, p.IsFlat := by
  induction values generalizing ps with
  | nil =>
    cases h
    exact List.forall_mem_nil _
  | cons value values ih =>
    rw [List.mapM_cons] at h
    obtain ⟨p, hp, h⟩ := Option.bind_eq_some_iff.1 h
    obtain ⟨rest, hrest, h⟩ := Option.bind_eq_some_iff.1 h
    cases h
    exact List.forall_mem_cons.2 ⟨ProviderConfig.isFlat_of_ofToml hp, ih hrest⟩

/-- A configuration that is read from a document is flat. -/
private theorem isFlat_of_ofToml {members : List (String × Toml.Value)} {c : Config}
    (h : ofToml members = some c) : c.IsFlat := by
  obtain ⟨minutes, -, h⟩ := Option.bind_eq_some_iff.1 h
  obtain ⟨ps, hps, h⟩ := Option.bind_eq_some_iff.1 h
  cases h
  rw [tomlProviders?] at hps
  split at hps
  · cases hps
    exact List.forall_mem_nil _
  · exact isFlat_of_mapM hps
  · cases hps

/-- **Nothing is lost in the flat object.** A flat configuration is read back from its JSON as it
was, and from the text of it where its settings fit a text. Every configuration that is read from
an ordered value, from a JSON text or from a TOML text is flat. What is read from a provider's
object keeps each member under an unknown key and nothing else among the provider's own settings,
and is written as that object again, but for a name or an id that was `null`. -/
theorem loses_nothing :
    (∀ c : Config, c.IsFlat → ofJson c.toJson = .ok c ∧
      ((∀ p ∈ c.providers, ∀ m ∈ p.extra, Json.Fits 124 m.2) →
        (Json.parse? c.toJson.render).map ofJson = some (.ok c))) ∧
      (∀ (json : Json) (c : Config), json.Ordered → ofJson json = .ok c → c.IsFlat) ∧
      (∀ (text : String) (json : Json) (c : Config),
        Json.parse? text = some json → ofJson json = .ok c → c.IsFlat) ∧
      (∀ (text : String) (c : Config), (Toml.parse? text).bind ofToml = some c → c.IsFlat) ∧
      ∀ (members : List (String × Json)) (p : ProviderConfig), Table.IsSorted members →
        ProviderConfig.ofJson (.object members) = .ok p →
          (∀ key, Table.get? p.extra key =
            if key ∈ ProviderConfig.knownKeys then none else Table.get? members key) ∧
          p.toJson = .object (members.filter fun m => !ProviderConfig.isVoid m) := by
  refine ⟨fun c h => ⟨ofJson_toJson h, fun hfits => ?_⟩,
    fun json c hordered h => isFlat_of_ofJson hordered h,
    fun text json c htext h => isFlat_of_ofJson (Json.ordered_of_parse? htext) h,
    fun text c h => ?_, fun members p hsorted h => ⟨?_, ?_⟩⟩
  · rw [parse?_render hfits, Option.map_some, ofJson_toJson h]
  · obtain ⟨members, -, h⟩ := Option.bind_eq_some_iff.1 h
    exact isFlat_of_ofToml h
  · exact ProviderConfig.get?_extra hsorted h
  · exact ProviderConfig.toJson_of_ofJson hsorted h

/-- A document with a provider whose name is empty, and a provider's object whose id is `null`. -/
theorem loses_nothing_sample :
    let document := "[[providers]]\ntype = \"a\"\nname = \"\"\nusers = []\n"
    let users : Json := .array [.record [("id", .null)]]
    let members := [("id", Json.null), ("name", .text ""), ("type", .text "a"), ("users", users)]
    let p : ProviderConfig := ⟨"a", some "", none, [("users", users)]⟩
    (∃ c, (Toml.parse? document).bind ofToml = some c ∧ c.IsFlat ∧
      ofJson c.toJson = .ok c) ∧
    ProviderConfig.ofJson (.object members) = .ok p ∧
      p.toJson = .object (members.filter fun m => !ProviderConfig.isVoid m) := by
  obtain ⟨hback, -, -, hdocument, hobject⟩ := loses_nothing
  refine ⟨?_, rfl, (hobject _ _ (by decide) rfl).2⟩
  have hsome : ((Toml.parse? "[[providers]]\ntype = \"a\"\nname = \"\"\nusers = []\n").bind
      ofToml).isSome = true := by decide +kernel
  obtain ⟨c, hc⟩ := Option.isSome_iff_exists.1 hsome
  exact ⟨c, hc, hdocument _ c hc, (hback c (hdocument _ c hc)).1⟩

end Config

end SignIn
