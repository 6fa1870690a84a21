import SignIn.Provider.PasswordList
import SignIn.Store

/-!
# The manager

A `Registry` says what builds the providers of each type. Registering a type again replaces what
was registered under it.

A `Manager` is what a configuration calls for: the providers, and the validity of new tokens. Its
calls are those of the store and those that start and finish a login. A configured provider whose
type is not registered, or that cannot be built, is skipped. Of two providers with one key the first
stays.
-/

namespace SignIn

/-! ### Registered provider types -/

/-- What builds the providers of each type. -/
structure Registry (σ : Type) where
  factories : Table (Factory σ) := []

namespace Registry

variable {σ : Type}

/-- The registry without any type. -/
def empty : Registry σ := {}

/-- The registry with a type registered. -/
def register (r : Registry σ) (kind : String) (factory : Factory σ) : Registry σ :=
  ⟨Table.insert r.factories kind factory⟩

/-- What builds the providers of a type. -/
def factory? (r : Registry σ) (kind : String) : Option (Factory σ) := Table.get? r.factories kind

/-- Whether a type is registered. -/
def contains (r : Registry σ) (kind : String) : Bool := (r.factory? kind).isSome

/-- The registered types in order. -/
def kinds (r : Registry σ) : List String := Table.keys r.factories

/-- The registry of the types that need no other library. -/
def builtin : Registry σ := empty.register PasswordList.kind PasswordList.factory

/-- The provider for a configuration, if its type is registered and can be built from it. -/
def build? (r : Registry σ) (config : ProviderConfig) : Option (Provider σ) :=
  (r.factory? config.kind).bind fun factory => (factory config).toOption

@[simp] theorem factory?_empty (kind : String) : (empty : Registry σ).factory? kind = none := rfl

/-- The last registration of a type counts. -/
theorem factory?_register (r : Registry σ) (kind : String) (factory : Factory σ) (kind' : String) :
    (r.register kind factory).factory? kind'
      = if kind = kind' then some factory else r.factory? kind' :=
  Table.get?_insert r.factories kind factory kind'

end Registry

/-! ### Managers -/

/-- The providers of a service, and the validity of its tokens. -/
structure Manager (σ : Type) where
  providers : List (Provider σ)
  validity : Span

/-- Why there is no manager for a configuration. -/
inductive StartFailure where
  /-- The configuration is not valid. -/
  | invalid (fault : ConfigFault)
  /-- The validity of tokens is too long for a span of time. -/
  | validityOverflow

namespace Manager

variable {σ : Type}

/-- The providers without those whose key an earlier one has. -/
def distinct : List (Provider σ) → List (Provider σ)
  | [] => []
  | p :: ps => p :: (distinct ps).filter fun q => q.key != p.key

/-- The manager for a configuration. The configuration is checked first. Minutes that pass the check
can still be too many for a span of time, which is a failure of its own. -/
def ofConfig (registry : Registry σ) (config : Config) : Except StartFailure (Manager σ) :=
  match config.validate with
  | .error fault => .error (.invalid fault)
  | .ok () =>
    match config.validity? with
    | none => .error .validityOverflow
    | some validity => .ok ⟨distinct (config.providers.filterMap registry.build?), validity⟩

/-- What the providers show about themselves, in the order of the configuration. Only those that are
kept show anything. -/
def infos (m : Manager σ) : List ProviderInfo := m.providers.map Provider.info

/-- The provider with a key. -/
def provider? (m : Manager σ) (key : ProviderKey) : Except Failure (Provider σ) :=
  match m.providers.find? fun p => p.key == key with
  | some p => .ok p
  | none => .error (.providerNotFound key)

/-- A call that needs the provider with a key, and ends at once where there is none. -/
def withProvider {α : Type} (m : Manager σ) (key : ProviderKey)
    (next : Provider σ → Procedure σ α) : Procedure σ α :=
  match m.provider? key with
  | .ok p => next p
  | .error e => .finish (.error e)

/-- Prepares a provider. -/
def prepare (m : Manager σ) (key : ProviderKey) : Procedure σ Unit :=
  m.withProvider key fun p => .prepare p.key p.prepare (.finish (.ok ()))

/-- Starts a login. The provider is prepared first, by this call or another one, and opens its flow
only after that. -/
def openFlow (m : Manager σ) (key : ProviderKey) : Procedure σ OpenFlow :=
  m.withProvider key fun p =>
    .prepare p.key p.prepare (.finish (p.openFlow.map fun flow => { flow }))

/-- Turns the result of a flow into credentials. Nothing is stored by that: the credentials may be
fresh, and stay so until they are taken to a user. -/
def finishFlow (m : Manager σ) (freshId : String) (result : FlowResult) :
    Procedure σ Credentials :=
  m.withProvider result.handler fun p =>
    (p.credentials freshId result.data).andThen p.key fun c => .finish (.ok c)

/-- What a provider knows about the person behind credentials. -/
def userMeta (m : Manager σ) (key : ProviderKey) (c : Credentials) : Procedure σ UserMeta :=
  m.withProvider key fun p => (p.userMeta c).andThen p.key fun about => .finish (.ok about)

/-- The user for credentials, who is created if need be. -/
def resolve (m : Manager σ) (userId : String) (c : Credentials) :
    Procedure σ (User × Credentials) :=
  m.withProvider c.key fun p => Store.resolve p userId c

/-- Issues a token for a user, which is valid as long as the configuration says. -/
def createToken (m : Manager σ) (userId clientId tokenId : String) (now : Instant) :
    Procedure σ Token :=
  Store.createToken m.validity userId clientId tokenId now

/-- The client with an id, found by the same work whatever the id is. -/
def client? (clientId : String) : Procedure σ (Option Client) :=
  Store.look fun d => .ok (Client.select d.clients clientId)

/-! ### Which providers are kept -/

/-- No two of the providers that are kept have one key. -/
theorem pairwise_distinct (ps : List (Provider σ)) :
    (distinct ps).Pairwise fun p q => p.key ≠ q.key := by
  induction ps with
  | nil => exact List.Pairwise.nil
  | cons p ps ih =>
    refine List.pairwise_cons.2 ⟨fun q hq => ?_, ih.filter _⟩
    have hne : (q.key != p.key) = true := (List.mem_filter.1 hq).2
    exact fun heq => bne_iff_ne.1 hne heq.symm

/-- For every key the first provider with it is kept. -/
theorem find?_distinct (ps : List (Provider σ)) (key : ProviderKey) :
    (distinct ps).find? (fun p => p.key == key) = ps.find? fun p => p.key == key := by
  induction ps with
  | nil => rfl
  | cons p ps ih =>
    simp only [distinct, List.find?_cons, List.find?_filter]
    split
    · rfl
    · rename_i hp
      rw [← ih]
      congr 1
      funext q
      by_cases hq : q.key = key
      · have hne : q.key ≠ p.key := fun heq => by simp [← heq, hq] at hp
        simp [hq ▸ hne, hq]
      · simp [hq]

end Manager

end SignIn
