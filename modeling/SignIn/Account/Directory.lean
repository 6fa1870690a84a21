import SignIn.Account.User
import SignIn.Identifier
import SignIn.Json.Decode

/-!
# The directory

All users and clients of a store, in the order in which they came: what is kept in memory, and
what is saved as a whole.

A client acts on behalf of users and proves itself by a secret. The secret is never shown:
`Client.showLine` and `Client.showLines` write a placeholder for it. `Client.select` finds a client
by its id. It compares the digests of all ids, whether or not one has been found already, so that
the work depends on the number of clients alone.

Every operation that changes a directory makes one `Change`. A change is applied first and saved
then; when it could not be saved it is undone. `Change.undo_apply` says that this restores the
directory, for a change that fits the directory it is made for.
-/

namespace SignIn

/-! ### Clients -/

/-- An API client. It gets its id and its secret when it is registered, and keeps both. -/
structure Client where
  name : String
  id : String
  /-- What the client proves itself by. -/
  secret : String
  deriving DecidableEq, Repr

namespace Client

/-- What stands for a secret where a client is shown. -/
def redacted : String := "<redacted>"

/-- A client in one line, without its secret. -/
def showLine (c : Client) : String :=
  "Client \x7b name: " ++ Text.quote c.name ++ ", id: " ++ Text.quote c.id ++ ", secret: "
    ++ Text.quote redacted ++ " \x7d"

/-- A client in one line for each field, without its secret. -/
def showLines (c : Client) : String :=
  "Client \x7b\n    name: " ++ Text.quote c.name ++ ",\n    id: " ++ Text.quote c.id
    ++ ",\n    secret: " ++ Text.quote redacted ++ ",\n\x7d"

/-- A client as JSON, with its secret. -/
def toJson (c : Client) : Json :=
  .record [("name", .text c.name), ("id", .text c.id), ("secret", .text c.secret)]

/-- The fields of a client. -/
def fields : Fields Client :=
  Fields.start Client.mk
    |>.andThen (.required "name" Decode.text)
    |>.andThen (.required "id" Decode.text)
    |>.andThen (.required "secret" Decode.text)

/-- Reads a client. -/
def ofJson : Decoder Client := fields.decode "Client"

/-! ### Selection by id -/

/-- What a search among clients has come to: whether one matched, and the position of the last
that did. -/
structure Search where
  found : Bool := false
  position : Nat := 0
  deriving DecidableEq, Repr

/-- Takes the outcome of one more comparison into a search. -/
def Search.next (s : Search) (here : Nat) (hit : Bool) : Search :=
  ⟨s.found || hit, if hit then here else s.position⟩

/-- Compares an id with that of every client, from the given position on. The comparisons may be
those of any monad, so that what they do can be told apart from their outcomes. -/
def scan {m : Type → Type} [Monad m] (compare : String → m Bool) (s : Search) (here : Nat) :
    List Client → m Search
  | [] => pure s
  | c :: cs => do
    let hit ← compare c.id
    scan compare (s.next here hit) (here + 1) cs

/-- The client that a search has come to, if one matched. -/
def Search.selected? (s : Search) (clients : List Client) : Option Client :=
  if s.found then clients[s.position]? else none

/-- The search for an id, by the digests of the ids. -/
def search (clients : List Client) (id : String) : Search :=
  Id.run (scan (fun other => pure (sameDigestText id other)) {} 0 clients)

/-- The last client with an id. Ids are compared by their digests, so that one with the digest of
another would pass for it. -/
def select (clients : List Client) (id : String) : Option Client :=
  (search clients id).selected? clients

end Client

/-! ### The directory -/

/-- Users and clients, in the order in which they came. Nothing here keeps ids from coming twice;
which directories have none twice is a question about the changes that have led to them. -/
structure Directory where
  users : List User := []
  clients : List Client := []

namespace Directory

/-- The first user with an id. -/
def user? (d : Directory) (userId : String) : Option User :=
  d.users.find? fun u => u.id == userId

/-- The position of the first user with an id. -/
def userPosition? (d : Directory) (userId : String) : Option Nat :=
  d.users.findIdx? fun u => u.id == userId

/-- The first user who holds credentials with an id, whichever provider issued them. -/
def holder? (d : Directory) (credentialsId : String) : Option User :=
  d.users.find? fun u => u.holds credentialsId

/-- The first user who holds credentials with an id that a given provider issued. -/
def holderFrom? (d : Directory) (key : ProviderKey) (credentialsId : String) : Option User :=
  d.users.find? fun u => u.holdsFrom key credentialsId

/-- All credentials that a provider issued, in order. -/
def credentialsOf (d : Directory) (key : ProviderKey) : List Credentials :=
  (d.users.flatMap User.credentials).filter fun c => c.belongsTo key

/-- A directory as JSON. -/
def toJson (d : Directory) : Json :=
  .record [("users", .array (d.users.map User.toJson)),
    ("clients", .array (d.clients.map Client.toJson))]

/-- The fields of a directory. -/
def fields : Fields Directory :=
  Fields.start Directory.mk
    |>.andThen (.required "users" (Decode.list User.ofJson))
    |>.andThen (.required "clients" (Decode.list Client.ofJson))

/-- Reads a directory. -/
def ofJson : Decoder Directory := fields.decode "Directory"

end Directory

/-! ### Changes -/

/-- A change of a directory, with all that it takes to make it and to take it back. Positions are
those of users. -/
inductive Change where
  | addUser (user : User)
  /-- Links credentials to the user at a position. -/
  | addCredentials (position : Nat) (credentials : Credentials)
  /-- Removes the user at a position, which is the one given. -/
  | removeUser (position : Nat) (user : User)
  /-- Issues a token for the user at a position. -/
  | addToken (position : Nat) (token : Token)
  | addClient (client : Client)

namespace Change

/-- The directory with the change made. -/
def apply (d : Directory) : Change → Directory
  | .addUser user => { d with users := d.users ++ [user] }
  | .addCredentials i c =>
    { d with users := d.users.modify i fun u => { u with credentials := u.credentials ++ [c] } }
  | .removeUser i _ => { d with users := d.users.eraseIdx i }
  | .addToken i t =>
    { d with users := d.users.modify i fun u => { u with tokens := u.tokens ++ [t] } }
  | .addClient client => { d with clients := d.clients ++ [client] }

/-- The directory with the change taken back. It undoes the last thing at the place of the change,
which is the change itself only if nothing has happened there since. -/
def undo (d : Directory) : Change → Directory
  | .addUser _ => { d with users := d.users.dropLast }
  | .addCredentials i _ =>
    { d with users := d.users.modify i fun u => { u with credentials := u.credentials.dropLast } }
  | .removeUser i user => { d with users := d.users.insertIdx i user }
  | .addToken i _ =>
    { d with users := d.users.modify i fun u => { u with tokens := u.tokens.dropLast } }
  | .addClient _ => { d with clients := d.clients.dropLast }

/-- Whether a change can be made to a directory: a user who is removed has to be there. -/
def Fits (d : Directory) : Change → Prop
  | .removeUser i user => d.users[i]? = some user
  | _ => True

/-- Two changes at one position cancel when the second takes the first back. -/
theorem modify_modify_cancel {α : Type} {f g : α → α} (h : ∀ a, g (f a) = a) (xs : List α)
    (i : Nat) : (xs.modify i f).modify i g = xs := by
  induction xs generalizing i with
  | nil => cases i <;> rfl
  | cons x xs ih =>
    cases i with
    | zero => simp only [List.modify_zero_cons, h]
    | succ i => simp only [List.modify_succ_cons, ih]

/-- Putting an item back at the position it was removed from restores the list. -/
theorem insertIdx_eraseIdx {α : Type} {xs : List α} {i : Nat} {x : α} (h : xs[i]? = some x) :
    (xs.eraseIdx i).insertIdx i x = xs := by
  induction xs generalizing i with
  | nil => simp only [List.getElem?_nil, reduceCtorEq] at h
  | cons y ys ih =>
    cases i with
    | zero =>
      simp only [List.getElem?_cons_zero, Option.some.injEq] at h
      simp only [List.eraseIdx_cons_zero, List.insertIdx_zero, h]
    | succ i =>
      simp only [List.getElem?_cons_succ] at h
      simp only [List.eraseIdx_cons_succ, List.insertIdx_succ_cons, ih h]

/-- Taking a change back restores the directory. -/
theorem undo_apply {d : Directory} {c : Change} (h : c.Fits d) : c.undo (c.apply d) = d := by
  cases c with
  | addUser user => simp only [apply, undo, List.dropLast_concat]
  | addCredentials i c =>
    simp only [apply, undo]
    rw [modify_modify_cancel fun u => by simp only [List.dropLast_concat]]
  | removeUser i user => simp only [apply, undo, insertIdx_eraseIdx h]
  | addToken i t =>
    simp only [apply, undo]
    rw [modify_modify_cancel fun u => by simp only [List.dropLast_concat]]
  | addClient client => simp only [apply, undo, List.dropLast_concat]

end Change

end SignIn
