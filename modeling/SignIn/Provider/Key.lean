import SignIn.Json.Decode

/-!
# Provider keys

A provider instance is known by its type, and by an id where one type is configured more than
once. An absent id and an empty one are different.
-/

namespace SignIn

/-- The key of a provider instance. -/
structure ProviderKey where
  /-- The type of the provider. -/
  kind : String
  id : Option String := none
  deriving DecidableEq, Repr

namespace ProviderKey

/-- The text of a key: the type, and the id after a slash. Different keys may have one text. -/
def display (key : ProviderKey) : String :=
  match key.id with
  | some id => key.kind ++ "/" ++ id
  | none => key.kind

/-- A key as JSON. -/
def toJson (key : ProviderKey) : Json :=
  .record [("type", .text key.kind), ("id", .ofOption key.id)]

/-- The fields of a key. -/
def fields : Fields ProviderKey :=
  Fields.start ProviderKey.mk
    |>.andThen (.required "type" Decode.text)
    |>.andThen (.optional "id" Decode.text)

/-- Reads a key. -/
def ofJson : Decoder ProviderKey := fields.decode "ProviderKey"

end ProviderKey

/-- What a provider shows about itself. -/
structure ProviderInfo where
  name : String
  id : Option String
  /-- The type of the provider. -/
  kind : String
  deriving DecidableEq, Repr

namespace ProviderInfo

/-- The description of a provider as JSON. -/
def toJson (info : ProviderInfo) : Json :=
  .record [("name", .text info.name), ("id", .ofOption info.id), ("type", .text info.kind)]

/-- The fields of a description. -/
def fields : Fields ProviderInfo :=
  Fields.start ProviderInfo.mk
    |>.andThen (.required "name" Decode.text)
    |>.andThen (.optional "id" Decode.text)
    |>.andThen (.required "type" Decode.text)

/-- Reads a description. -/
def ofJson : Decoder ProviderInfo := fields.decode "ProviderInfo"

end ProviderInfo

end SignIn
