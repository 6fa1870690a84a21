import SignIn.Provider.Basic

/-!
# The store

The calls that read and change the directory. Each of them is a `Procedure` that loads the data
first, so that nothing is loaded before it is needed.

`Store.resolve` takes credentials to their user. New credentials make a new user, unless they have
been linked in the meantime; the first user of an empty store is its owner. A call that takes
credentials answers with them as they are afterwards; where it fails, they stay as they were.

Ids of new objects and the present instant are arguments.
-/

namespace SignIn.Store

variable {σ : Type}

/-- A call that reads the directory. It answers from the data as they are in one step, and its
answer does not follow what is changed afterwards. -/
def look {α : Type} (f : Directory → Except Failure α) : Procedure σ α :=
  .load (.read fun d => .finish (f d))

/-- Loads the data. -/
def load : Procedure σ Unit := .load (.finish (.ok ()))

/-- All users. -/
def users : Procedure σ (List User) := look fun d => .ok d.users

/-- The user with an id. -/
def user? (userId : String) : Procedure σ (Option User) := look fun d => .ok (d.user? userId)

/-- All clients. -/
def clients : Procedure σ (List Client) := look fun d => .ok d.clients

/-- The credentials that a provider has issued. -/
def credentialsOf (key : ProviderKey) : Procedure σ (List Credentials) :=
  look fun d => .ok (d.credentialsOf key)

/-! ### From credentials to users -/

/-- The user for credentials that are not new, who holds them under the key of their provider. Where
nobody does, the credentials refer to something that is gone. -/
def userOfLinked (c : Credentials) (d : Directory) : Except Failure (User × Credentials) :=
  match d.holderFrom? c.key c.id with
  | some u => .ok (u, c)
  | none => .error (.credentialsWithoutUser c.id)

/-- The user who is made for new credentials, and holds them as linked. A user who comes to an empty
directory is owner and active. -/
def newUser (d : Directory) (userId : String) (about : UserMeta) (c : Credentials) : User :=
  let first := d.users.isEmpty
  { User.create userId first first about.name with credentials := [c.linked] }

/-- What is decided for credentials that are new. Somebody may have linked them by now, or a copy
of them: then they lead to their holder, provided that they are held under the key of their
provider. -/
def decideNew (userId : String) (about : UserMeta) (c : Credentials) (d : Directory) :
    Decision (User × Credentials) :=
  match d.holder? c.id with
  | some u =>
    if u.holdsFrom c.key c.id then .answer (.ok (u, c.linked))
    else .answer (.error (.credentialsAlreadyLinked c.id))
  | none =>
    let u := newUser d userId about c
    .commit (.addUser u) (u, c.linked)

/-- The user for credentials, who is created if need be. The provider tells about the person behind
credentials that are new. It is asked before the data are locked, since it may look at them, and so
before it is known whether anybody is to be created: its failure ends the call even where nobody
would be. -/
def resolve (provider : Provider σ) (userId : String) (c : Credentials) :
    Procedure σ (User × Credentials) :=
  .load <|
    if c.isNew then
      (provider.userMeta c).andThen provider.key fun about => .write (decideNew userId about c)
    else .read fun d => .finish (userOfLinked c d)

/-! ### Changes -/

/-- A call that changes the directory, given what it decides. It sees the data that it changes,
since it keeps them locked from the decision until the change is saved. -/
def alter {α : Type} (decide : Directory → Decision α) : Procedure σ α := .load (.write decide)

/-- Does something with the user with an id and its position. Users are changed by position, so that
a change can be taken back where it was made. -/
def withUser {α : Type} (d : Directory) (userId : String) (f : Nat → User → Decision α) :
    Decision α :=
  match d.userPosition? userId with
  | none => .answer (.error (.userNotFound userId))
  | some i =>
    match d.users[i]? with
    | none => .answer (.error (.userNotFound userId))
    | some u => f i u

/-- Links credentials to a user. Credentials with an id that the user holds already are answered as
linked, and nothing is saved; under which key they are held is not looked at. -/
def link (userId : String) (c : Credentials) : Procedure σ Credentials :=
  alter fun d =>
    match d.holder? c.id with
    | some u =>
      if u.id = userId then .answer (.ok c.linked)
      else .answer (.error (.credentialsAlreadyLinked c.id))
    | none => withUser d userId fun i _ => .commit (.addCredentials i c.linked) c.linked

/-- Removes a user, and with it the credentials and the tokens that it owns. -/
def removeUser (userId : String) : Procedure σ Unit :=
  alter fun d => withUser d userId fun i u => .commit (.removeUser i u) ()

/-- Issues a token for a user. Nobody looks whether there is a client with the id that the token is
issued to. -/
def createToken (validity : Span) (userId clientId tokenId : String) (now : Instant) :
    Procedure σ Token :=
  alter fun d =>
    withUser d userId fun i _ =>
      let t := Token.issue userId clientId tokenId now validity
      .commit (.addToken i t) t

/-- Registers a client. Its id and its secret have been drawn already, and its name need not be a
new one. -/
def createClient (c : Client) : Procedure σ Client := alter fun _ => .commit (.addClient c) c

end SignIn.Store
