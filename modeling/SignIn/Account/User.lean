import SignIn.Json.Decode
import SignIn.Provider.Key
import SignIn.Time.Timestamp

/-!
# Users, their credentials and their tokens

Credentials are what a provider knows about a person who has signed in through it. They are new
until they are linked to a user; the data inside belong to the provider that issued them.

A token lets a client act for a user. It expires its span of validity after it was last refreshed,
or after it was created if it never was. The moment of expiry has to lie within the bounds of
instants, so that there may be none.

A user owns the credentials that are linked to it and the tokens that were issued for it. `UserView`
is the part of a user that may be shown to anyone.
-/

namespace SignIn

/-! ### Credentials -/

/-- The credentials of a person with one provider. What is in the data matters to the provider that
issued them and to nobody else. -/
structure Credentials where
  /-- The type of the provider that issued the credentials. -/
  providerKind : String
  /-- The id of that provider. -/
  providerId : Option String
  /-- What the provider keeps in them. -/
  data : Json
  id : String
  /-- Whether they have not been linked to a user yet. -/
  isNew : Bool

namespace Credentials

/-- Fresh credentials of a provider, with an id that has been drawn for them. -/
def issue (key : ProviderKey) (id : String) (data : Json) : Credentials :=
  ⟨key.kind, key.id, data, id, true⟩

/-- The key of the provider that issued the credentials. -/
def key (c : Credentials) : ProviderKey := ⟨c.providerKind, c.providerId⟩

/-- Whether a provider issued the credentials. -/
def belongsTo (c : Credentials) (key : ProviderKey) : Bool := c.key == key

/-- The credentials once they are linked to a user. Only the mark changes, and it does not change
back. -/
def linked (c : Credentials) : Credentials := { c with isNew := false }

/-- Credentials as JSON. -/
def toJson (c : Credentials) : Json :=
  .record [("auth_provider_type", .text c.providerKind),
    ("auth_provider_id", .ofOption c.providerId), ("data", c.data), ("id", .text c.id),
    ("is_new", .bool c.isNew)]

/-- The fields of credentials. -/
def fields : Fields Credentials :=
  Fields.start Credentials.mk
    |>.andThen (.required "auth_provider_type" Decode.text)
    |>.andThen (.optional "auth_provider_id" Decode.text)
    |>.andThen (.required "data" Decode.any)
    |>.andThen (.required "id" Decode.text)
    |>.andThen (.required "is_new" Decode.bool)

/-- Reads credentials. -/
def ofJson : Decoder Credentials := fields.decode "Credentials"

@[simp] theorem id_linked (c : Credentials) : c.linked.id = c.id := rfl

@[simp] theorem key_linked (c : Credentials) : c.linked.key = c.key := rfl

@[simp] theorem isNew_linked (c : Credentials) : c.linked.isNew = false := rfl

@[simp] theorem key_issue (key : ProviderKey) (id : String) (data : Json) :
    (issue key id data).key = key := rfl

theorem belongsTo_iff {c : Credentials} {key : ProviderKey} :
    c.belongsTo key = true ↔ c.key = key := beq_iff_eq

end Credentials

/-! ### Tokens -/

namespace Instant

/-- An instant as JSON. -/
def toJson (t : Instant) : Json := .text (Timestamp.render t)

/-- Reads an instant. -/
def ofJson : Decoder Instant
  | .text s =>
    match Timestamp.parse? s with
    | some t => .ok t
    | none => .error (.notAnInstant s)
  | json => .error (.unexpected json .text)

end Instant

namespace Span

/-- A span as JSON: its seconds. -/
def toJson (s : Span) : Json := .ofInt s.seconds

/-- Reads a span. A number that is too large for a span is a fault of its own. -/
def ofJson : Decoder Span := fun json => do
  match ofSeconds? (← Decode.integer json).toInt with
  | some s => .ok s
  | none => .error .spanOverflow

/-- The span of tokens unless something else is configured: thirty minutes. -/
def standard : Span := ⟨1800, by decide⟩

end Span

/-- A session token, for one user and one client. It says how long it is valid and not until when,
so that it can be refreshed. -/
structure Token where
  userId : String
  clientId : String
  id : String
  createdAt : Instant
  lastRefreshed : Option Instant
  /-- How long the token is valid after its last refreshment. -/
  validity : Span
  deriving DecidableEq, Repr

namespace Token

/-- A token that is issued now. -/
def issue (userId clientId id : String) (now : Instant) (validity : Span) : Token :=
  ⟨userId, clientId, id, now, none, validity⟩

/-- The instant that the validity counts from. -/
def base (t : Token) : Instant := t.lastRefreshed.getD t.createdAt

/-- The moment of expiry, if it is within the bounds of instants. Beyond them the sum has no value,
and who asks for it gets no answer: a token can be issued, saved and read again without anybody
asking. -/
def expiresAt? (t : Token) : Option Instant := t.base.shift? t.validity.nanos

/-- Whether the token is expired at an instant, if it has a moment of expiry. -/
def isExpired? (t : Token) (now : Instant) : Option Bool :=
  t.expiresAt?.map fun expiry => decide (expiry ≤ now)

/-- A token as JSON. -/
def toJson (t : Token) : Json :=
  .record [("user_id", .text t.userId), ("client_id", .text t.clientId), ("id", .text t.id),
    ("created_at", t.createdAt.toJson),
    ("last_refreshed", t.lastRefreshed.elim .null Instant.toJson),
    ("access_token_valid", t.validity.toJson)]

/-- The fields of a token. -/
def fields : Fields Token :=
  Fields.start Token.mk
    |>.andThen (.required "user_id" Decode.text)
    |>.andThen (.required "client_id" Decode.text)
    |>.andThen (.required "id" Decode.text)
    |>.andThen (.required "created_at" Instant.ofJson)
    |>.andThen (.optional "last_refreshed" Instant.ofJson)
    |>.andThen (.required "access_token_valid" Span.ofJson)

/-- Reads a token. -/
def ofJson : Decoder Token := fields.decode "Token"

end Token

/-! ### Users -/

/-- A user. Whether it is owner or active is settled when it is created, and nothing changes it
later. -/
structure User where
  id : String
  /-- Whether the user was the first one of an empty store. -/
  isOwner : Bool
  isActive : Bool
  /-- The name to show. -/
  name : Option String
  /-- The credentials linked to the user. -/
  credentials : List Credentials
  /-- The tokens issued for the user. -/
  tokens : List Token

/-- The public part of a user: everything but the credentials and the tokens. -/
structure UserView where
  id : String
  isOwner : Bool
  isActive : Bool
  name : Option String
  deriving DecidableEq, Repr

/-- What a provider tells about a user who is about to be created. -/
structure UserMeta where
  name : Option String := none
  deriving DecidableEq, Repr

namespace UserView

/-- A view as JSON. -/
def toJson (v : UserView) : Json :=
  .record [("id", .text v.id), ("is_owner", .bool v.isOwner), ("is_active", .bool v.isActive),
    ("name", .ofOption v.name)]

/-- The fields of a view. -/
def fields : Fields UserView :=
  Fields.start UserView.mk
    |>.andThen (.required "id" Decode.text)
    |>.andThen (.required "is_owner" Decode.bool)
    |>.andThen (.required "is_active" Decode.bool)
    |>.andThen (.optional "name" Decode.text)

/-- Reads a view. -/
def ofJson : Decoder UserView := fields.decode "UserView"

end UserView

namespace UserMeta

/-- What a provider tells about a user, as JSON. -/
def toJson (m : UserMeta) : Json := .record [("name", .ofOption m.name)]

/-- The field of it. -/
def fields : Fields UserMeta := Fields.start UserMeta.mk |>.andThen (.optional "name" Decode.text)

/-- Reads it. -/
def ofJson : Decoder UserMeta := fields.decode "UserMeta"

end UserMeta

namespace User

/-- A user without credentials and tokens, with an id that has been drawn for it. -/
def create (id : String) (isOwner isActive : Bool) (name : Option String) : User :=
  ⟨id, isOwner, isActive, name, [], []⟩

/-- The public part of a user. -/
def view (u : User) : UserView := ⟨u.id, u.isOwner, u.isActive, u.name⟩

/-- Whether a user holds credentials with an id. -/
def holds (u : User) (credentialsId : String) : Bool :=
  u.credentials.any fun c => c.id == credentialsId

/-- Whether a user holds credentials with an id that a given provider issued. -/
def holdsFrom (u : User) (key : ProviderKey) (credentialsId : String) : Bool :=
  u.credentials.any fun c => c.belongsTo key && c.id == credentialsId

/-- A user as JSON. -/
def toJson (u : User) : Json :=
  .record [("id", .text u.id), ("is_owner", .bool u.isOwner), ("is_active", .bool u.isActive),
    ("name", .ofOption u.name), ("credentials", .array (u.credentials.map Credentials.toJson)),
    ("tokens", .array (u.tokens.map Token.toJson))]

/-- The fields of a user. -/
def fields : Fields User :=
  Fields.start User.mk
    |>.andThen (.required "id" Decode.text)
    |>.andThen (.required "is_owner" Decode.bool)
    |>.andThen (.required "is_active" Decode.bool)
    |>.andThen (.optional "name" Decode.text)
    |>.andThen (.required "credentials" (Decode.list Credentials.ofJson))
    |>.andThen (.required "tokens" (Decode.list Token.ofJson))

/-- Reads a user. -/
def ofJson : Decoder User := fields.decode "User"

end User

end SignIn
