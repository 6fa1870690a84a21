import SignIn.Files
import SignIn.Provider.Key
import SignIn.Time.Instant

/-!
# Configuration

A `Config` says how long tokens are valid and which providers there are, in the order in which
they are shown. A `ProviderConfig` keeps every setting that it does not know in a table for the
provider itself.

`Config.validate` is the check that every configuration passes before it is used.
-/

namespace SignIn

/-- The configuration of one provider. -/
structure ProviderConfig where
  /-- The type of the provider, which selects what builds it. -/
  kind : String
  /-- The name to show. -/
  name : Option String := none
  /-- Needed only where one type is configured more than once. -/
  id : Option String := none
  /-- The settings of the provider itself. -/
  extra : Table Json := []

/-- The configuration of a service. -/
structure Config where
  /-- How long a token is valid, in minutes. -/
  minutes : Int64 := 30
  providers : List ProviderConfig := []

/-- Why a configuration is of no use. The first reason found is the one that is given. -/
inductive ConfigFault where
  /-- The number of minutes is zero or negative. -/
  | minutesNotPositive
  /-- A provider has an empty type; its name is given. -/
  | emptyKind (name : Option String)
  /-- The text that is to override the minutes is no number of sixty-four bits. -/
  | minutesNotANumber (text : String)
  | unreadable (path : String) (fault : FileFault)
  /-- The text is no TOML document, or the document has not the form of a configuration. -/
  | malformed
  /-- The settings of a provider of the given type do not have the form that it asks for. -/
  | settings (kind : String) (fault : DecodeFault)
  /-- A reason that a provider states itself. -/
  | stated (reason : String)

namespace ConfigFault

/-- The wording of a fault. -/
def message : ConfigFault → String
  | .minutesNotPositive => "access_token_valid_minutes must be positive"
  | .emptyKind name => "auth provider with empty type (name: " ++ Text.quoteOption name ++ ")"
  | .minutesNotANumber text => "ACCESS_TOKEN_EXPIRY_MINUTES is not a number: " ++ text
  | .unreadable path fault => "failed to read " ++ path ++ ": " ++ fault.message
  | .malformed => "malformed configuration document"
  | .settings kind fault => "auth provider " ++ kind ++ ": " ++ fault.message
  | .stated reason => reason

end ConfigFault

namespace ProviderConfig

/-- The key of the provider. -/
def key (p : ProviderConfig) : ProviderKey := ⟨p.kind, p.id⟩

/-- The keys of a provider's object that do not go to the provider itself. -/
def knownKeys : List String := ["type", "name", "id"]

/-- A provider's configuration as one flat object. An absent name or id is left out. -/
def toJson (p : ProviderConfig) : Json :=
  let known := [("type", Json.text p.kind)]
    ++ (p.name.map fun s => ("name", Json.text s)).toList
    ++ (p.id.map fun s => ("id", Json.text s)).toList
  .record (known ++ p.extra)

/-- Reads a provider's configuration from a flat object. -/
def ofJson : Decoder ProviderConfig
  | .object members =>
    let fields : Fields ProviderConfig :=
      Fields.start (fun (kind : String) (name id : Option String) => ProviderConfig.mk kind name id
          (members.filter fun m => !knownKeys.contains m.1))
        |>.andThen (.required "type" Decode.text)
        |>.andThen (.optional "name" Decode.text)
        |>.andThen (.optional "id" Decode.text)
    (fields.ofMembers members).result
  | json => .error (.unexpected json .table)

end ProviderConfig

namespace Config

/-- The default number of minutes. -/
def standardMinutes : Int64 := 30

/-- Checks that the minutes are positive and that every provider has a type. -/
def validate (c : Config) : Except ConfigFault Unit :=
  if c.minutes ≤ 0 then .error .minutesNotPositive
  else
    match c.providers.find? fun p => p.kind.isEmpty with
    | some p => .error (.emptyKind p.name)
    | none => .ok ()

/-- What a configuration has to be like. -/
structure IsValid (c : Config) : Prop where
  positive : 0 < c.minutes.toInt
  kinds : ∀ p ∈ c.providers, p.kind ≠ ""

/-- The check passes just the valid configurations. -/
theorem validate_eq_ok_iff {c : Config} : c.validate = .ok () ↔ c.IsValid := by
  have hpos : ¬ c.minutes ≤ 0 ↔ 0 < c.minutes.toInt := by
    rw [Int64.le_iff_toInt_le]
    exact Int.not_le
  have hkinds : (c.providers.find? fun p => p.kind.isEmpty) = none ↔
      ∀ p ∈ c.providers, p.kind ≠ "" := by
    simp only [List.find?_eq_none, String.isEmpty_iff, ne_eq]
  have hvalid : c.IsValid ↔ ¬ c.minutes ≤ 0 ∧
      (c.providers.find? fun p => p.kind.isEmpty) = none := by
    rw [hpos, hkinds]
    exact ⟨fun h => ⟨h.positive, h.kinds⟩, fun h => ⟨h.1, h.2⟩⟩
  rw [validate, hvalid]
  split
  · simp [*]
  · cases c.providers.find? fun p => p.kind.isEmpty <;> simp [*]

/-- Minutes that are not positive are the first thing to be refused. -/
theorem validate_of_not_pos {c : Config} (h : c.minutes.toInt ≤ 0) :
    c.validate = .error .minutesNotPositive := by
  rw [validate, if_pos (Int64.le_iff_toInt_le.2 h)]

/-- How long a token is valid, if it is not too long for a span. The check asks for a positive
number of minutes and for nothing else, so that a valid configuration can have no such span. -/
def validity? (c : Config) : Option Span := Span.ofMinutes? c.minutes.toInt

/-- A configuration as JSON. -/
def toJson (c : Config) : Json :=
  .record [("access_token_valid_minutes", .ofInt c.minutes.toInt),
    ("providers", .array (c.providers.map ProviderConfig.toJson))]

/-- The fields of a configuration, both with a default. -/
def fields : Fields Config :=
  Fields.start Config.mk
    |>.andThen (.defaulted "access_token_valid_minutes" Decode.integer standardMinutes)
    |>.andThen (.defaulted "providers" (Decode.list ProviderConfig.ofJson) [])

/-- Reads a configuration. It is not validated. -/
def ofJson : Decoder Config := fields.decode "Config"

end Config

end SignIn
