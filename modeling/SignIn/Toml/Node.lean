import SignIn.Toml.Value

/-!
# Tables under construction

While a document is read, each of its tables remembers how it came to be: by a header of its own,
by the header of a table inside it, or by a dotted key. `Node` is a value or a table with this
memory, and the two ways to reach into the entries are

* `Entries.alter`, which follows the keys of a header and may step into any table;
* `Entries.putDotted`, which follows the keys of a dotted key and may not step into a table that
  has a header of its own.

No key is ever given a second value.
-/

namespace SignIn.Toml

/-- How a table came to be. -/
inductive Origin where
  /-- By its own header, or as the document itself. -/
  | header
  /-- By the header of a table inside it. -/
  | implied
  /-- By a dotted key. -/
  | dotted
  deriving DecidableEq, Repr

/-- An entry of a table under construction. -/
inductive Node where
  | value (v : Value)
  | table (origin : Origin) (entries : List (String × Node))
  /-- An array of tables, each begun by a header of the array. -/
  | tables (elements : List (List (String × Node)))

/-- The entries of a table under construction, in the order in which they came. -/
abbrev Entries := List (String × Node)

mutual

/-- The value of a finished node. -/
def Node.toValue : Node → Value
  | .value v => v
  | .table _ entries => .table (entriesToValues entries)
  | .tables elements => .array (elementsToValues elements)

/-- The members of a finished table. -/
def entriesToValues : List (String × Node) → List (String × Value)
  | [] => []
  | (k, n) :: rest => (k, n.toValue) :: entriesToValues rest

/-- The items of a finished array of tables. -/
def elementsToValues : List (List (String × Node)) → List Value
  | [] => []
  | entries :: rest => .table (entriesToValues entries) :: elementsToValues rest

end

namespace Entries

/-- The entry under a key. -/
def find? (es : Entries) (key : String) : Option Node := Table.get? es key

/-- The entries with another node under a key that they have. -/
def replace (es : Entries) (key : String) (n : Node) : Entries :=
  es.map fun e => if e.1 = key then (key, n) else e

/-- The entries with a node under a key that is new or is to be replaced. -/
def put (es : Entries) (key : String) (n : Node) : Entries :=
  if (find? es key).isSome then replace es key n else es ++ [(key, n)]

/-- Changes the entries of the table at the end of a path of keys. Tables on the way that are not
there yet are implied; of an array of tables the last one is meant. -/
def alter (path : List String) (change : Entries → Option Entries) (es : Entries) :
    Option Entries :=
  match path with
  | [] => change es
  | key :: path =>
    match find? es key with
    | none => (alter path change []).map fun sub => put es key (.table .implied sub)
    | some (.value _) => none
    | some (.table origin sub) =>
      (alter path change sub).map fun sub => put es key (.table origin sub)
    | some (.tables elements) =>
      match elements.getLast? with
      | none => none
      | some last =>
        (alter path change last).map fun last =>
          put es key (.tables (elements.dropLast ++ [last]))

/-- Gives a value to a new key. -/
def putNew (key : String) (v : Value) (es : Entries) : Option Entries :=
  if (find? es key).isSome then none else some (es ++ [(key, .value v)])

/-- Gives a value to a new key at the end of a path of keys. The table at the end has to come
from a dotted key itself. -/
def putBelow (path : List String) (key : String) (v : Value) (origin : Origin) (es : Entries) :
    Option Entries :=
  match path with
  | [] => if origin = .dotted then putNew key v es else none
  | first :: path =>
    match find? es first with
    | none => (putBelow path key v .dotted []).map fun sub => put es first (.table .dotted sub)
    | some (.value _) => none
    | some (.table .header _) => none
    | some (.table origin sub) =>
      (putBelow path key v origin sub).map fun sub => put es first (.table origin sub)
    | some (.tables elements) =>
      match elements.getLast? with
      | none => none
      | some last =>
        (putBelow path key v .header last).map fun last =>
          put es first (.tables (elements.dropLast ++ [last]))

/-- Gives a value to a dotted key. -/
def putDotted (key : List String) (v : Value) (es : Entries) : Option Entries :=
  match key with
  | [] => none
  | [key] => putNew key v es
  | first :: rest => putBelow (first :: rest.dropLast) (rest.getLast?.getD first) v .header es

/-- Begins the table of a header. It may have been implied, and only once has it a header. -/
def openTable (key : String) (es : Entries) : Option Entries :=
  match find? es key with
  | none => some (es ++ [(key, .table .header [])])
  | some (.table .implied sub) => some (put es key (.table .header sub))
  | some _ => none

/-- Begins the next table of an array of tables. -/
def openElement (key : String) (es : Entries) : Option Entries :=
  match find? es key with
  | none => some (es ++ [(key, .tables [[]])])
  | some (.tables elements) => some (put es key (.tables (elements ++ [[]])))
  | some _ => none

/-- Follows a header to its last key, and changes the entries there. -/
def alterLast (header : List String) (change : String → Entries → Option Entries)
    (es : Entries) : Option Entries :=
  match header.getLast? with
  | none => none
  | some key => alter header.dropLast (change key) es

end Entries

end SignIn.Toml
