import SignIn.Decimal
import SignIn.Json.Basic
import SignIn.Text.Quoted

/-!
# Reading records out of JSON values

A decoder takes a `Json` value to a value of another type or to a `DecodeFault`. There are no
conversions: a text field takes a text, a truth value takes a truth value, and a number that is
written with a fraction is no integer.

A record is described by its `Fields`, in their order of declaration. It is read from an object,
in which unknown members are ignored, or from an array that holds the fields in order. In an
object the members are read in the order of their keys and the first fault wins; a missing field
is found only after all members have been read. `Fields.decode` puts the two forms together.
-/

namespace SignIn

/-- What a decoder asks for. -/
inductive Shape where
  | text
  | bool
  | integer
  | sequence
  | table
  /-- A record of the given name. -/
  | record (name : String)
  deriving DecidableEq, Repr

/-- Why a JSON value could not be read. -/
inductive DecodeFault where
  /-- A field that is neither optional nor has a default is not there. -/
  | missing (field : String)
  /-- A value has another shape than the one asked for. -/
  | unexpected (found : Json) (wanted : Shape)
  /-- An integer does not fit its type. -/
  | outOfRange (n : Int)
  /-- An array ends before the record of the given name and number of fields is complete. -/
  | tooShort (length : Nat) (name : String) (size : Nat)
  /-- An array goes on after the record is complete. -/
  | tooLong (length : Nat)
  /-- A text is no instant. -/
  | notAnInstant (text : String)
  /-- A tag names no variant. -/
  | unknownVariant (tag : String)
  /-- A number of seconds is too large for a span of time. -/
  | spanOverflow
  deriving BEq, Repr

namespace Shape

/-- How a fault names what was asked for. -/
def describe : Shape → String
  | .text => "a string"
  | .bool => "a boolean"
  | .integer => "i64"
  | .sequence => "a sequence"
  | .table => "a map"
  | .record name => "struct " ++ name

end Shape

/-- How a fault names a value that was found. -/
def Json.describe : Json → String
  | .null => "null"
  | .bool b => "boolean `" ++ (if b then "true" else "false") ++ "`"
  | .number (.integer n) => "integer `" ++ Text.ofInt n ++ "`"
  | .number (.double x) => "floating point `" ++ Decimal.Layout.standard.render x ++ "`"
  | .text s => "string " ++ Text.quote s
  | .array _ => "sequence"
  | .object _ => "map"

namespace DecodeFault

/-- The wording of a fault. -/
def message : DecodeFault → String
  | .missing field => "missing field `" ++ field ++ "`"
  | .unexpected found wanted =>
    "invalid type: " ++ found.describe ++ ", expected " ++ wanted.describe
  | .outOfRange n => "invalid value: integer `" ++ Text.ofInt n ++ "`, expected i64"
  | .tooShort length name size =>
    "invalid length " ++ toString length ++ ", expected struct " ++ name ++ " with "
      ++ toString size ++ (if size = 1 then " element" else " elements")
  | .tooLong length =>
    "invalid length " ++ toString length ++ ", expected fewer elements in array"
  | .notAnInstant text => "no instant: " ++ text
  | .unknownVariant tag => "unknown variant `" ++ tag ++ "`"
  | .spanOverflow => "the span of time is too large"

end DecodeFault

/-- Takes a JSON value to a value of another type. -/
abbrev Decoder (α : Type) := Json → Except DecodeFault α

namespace Decode

/-- Any value. -/
def any : Decoder Json := .ok

/-- A text. -/
def text : Decoder String
  | .text s => .ok s
  | json => .error (.unexpected json .text)

/-- A truth value. -/
def bool : Decoder Bool
  | .bool b => .ok b
  | json => .error (.unexpected json .bool)

/-- An integer of sixty-four bits with a sign. -/
def integer : Decoder Int64
  | .number (.integer n) =>
    if -9223372036854775808 ≤ n ∧ n ≤ 9223372036854775807 then .ok (Int64.ofInt n)
    else .error (.outOfRange n)
  | json => .error (.unexpected json .integer)

/-- What another decoder reads, or nothing for `null`. -/
def nullable {α : Type} (read : Decoder α) : Decoder (Option α)
  | .null => .ok none
  | json => (read json).map some

/-- The items of an array, one after the other; the first fault wins. -/
def items {α : Type} (read : Decoder α) : List Json → Except DecodeFault (List α)
  | [] => .ok []
  | x :: xs =>
    match read x with
    | .error fault => .error fault
    | .ok a => (items read xs).map (a :: ·)

/-- An array of what another decoder reads. -/
def list {α : Type} (read : Decoder α) : Decoder (List α)
  | .array xs => items read xs
  | json => .error (.unexpected json .sequence)

/-- The members of an object, each read by the same decoder. -/
def members {α : Type} (read : Decoder α) : List (String × Json) → Except DecodeFault (Table α)
  | [] => .ok []
  | (k, x) :: xs =>
    match read x with
    | .error fault => .error fault
    | .ok a => (members read xs).map ((k, a) :: ·)

/-- An object whose members are all read by the same decoder. -/
def table {α : Type} (read : Decoder α) : Decoder (Table α)
  | .object xs => members read xs
  | json => .error (.unexpected json .table)

end Decode

/-! ### Records -/

/-- What came of reading some fields from an object. -/
inductive Reading (α : Type) where
  | ok (a : α)
  /-- The member under the key could not be read. -/
  | fault (key : String) (fault : DecodeFault)
  /-- All members that are there could be read, but a field is missing. -/
  | missing (field : String)

namespace Reading

variable {α β : Type}

/-- Joins what came of some fields with what came of later ones. The fault at the lesser key
wins; a fault wins against a missing field, and of two missing fields the earlier is named. -/
def both : Reading (α → β) → Reading α → Reading β
  | .ok f, .ok a => .ok (f a)
  | .ok _, .fault k e => .fault k e
  | .ok _, .missing x => .missing x
  | .fault k e, .fault l e' => if l < k then .fault l e' else .fault k e
  | .fault k e, _ => .fault k e
  | .missing _, .fault k e => .fault k e
  | .missing x, _ => .missing x

/-- The result of a whole record. -/
def result : Reading α → Except DecodeFault α
  | .ok a => .ok a
  | .fault _ e => .error e
  | .missing field => .error (.missing field)

@[simp] theorem both_ok_ok (f : α → β) (a : α) : both (.ok f) (.ok a) = .ok (f a) := rfl

@[simp] theorem result_ok (a : α) : (Reading.ok a).result = .ok a := rfl

end Reading

/-- Some fields of a record, in their order of declaration, with what they make together. -/
structure Fields (α : Type) where
  /-- The number of fields. -/
  size : Nat
  /-- Reads them from the members of an object. -/
  ofMembers : List (String × Json) → Reading α
  /-- Reads them from the front of an array. The first argument makes the fault of an array that
  ends too early, from the number of its items. -/
  ofItems : (Nat → DecodeFault) → (position : Nat) → List Json →
    Except DecodeFault (α × List Json)

namespace Fields

variable {α β : Type}

/-- No fields: the function that makes the record, before its arguments. -/
def start (a : α) : Fields α where
  size := 0
  ofMembers _ := .ok a
  ofItems _ _ items := .ok (a, items)

/-- Some fields and then others. -/
def andThen (fs : Fields (α → β)) (gs : Fields α) : Fields β where
  size := fs.size + gs.size
  ofMembers ms := (fs.ofMembers ms).both (gs.ofMembers ms)
  ofItems short position items :=
    match fs.ofItems short position items with
    | .error e => .error e
    | .ok (f, rest) =>
      match gs.ofItems short (position + fs.size) rest with
      | .error e => .error e
      | .ok (a, rest) => .ok (f a, rest)

/-- One field. `absent` is its value in an object without it, and `past` its value when an array
ends before it. -/
def one (key : String) (read : Decoder α) (absent past : Option α) : Fields α where
  size := 1
  ofMembers ms :=
    match Table.get? ms key with
    | some x =>
      match read x with
      | .ok a => .ok a
      | .error e => .fault key e
    | none =>
      match absent with
      | some a => .ok a
      | none => .missing key
  ofItems short position items :=
    match items with
    | x :: rest => (read x).map fun a => (a, rest)
    | [] =>
      match past with
      | some a => .ok (a, [])
      | none => .error (short position)

/-- A field that has to be there. -/
def required (key : String) (read : Decoder α) : Fields α := one key read none none

/-- A field that may be missing from an object or be `null`; an array has to hold it. -/
def optional (key : String) (read : Decoder α) : Fields (Option α) :=
  one key (Decode.nullable read) (some none) none

/-- A field that has a default when an object or an array does not hold it. -/
def defaulted (key : String) (read : Decoder α) (value : α) : Fields α :=
  one key read (some value) (some value)

/-- Reads a record of the given name from an object or an array. -/
def decode (fs : Fields α) (name : String) : Decoder α
  | .object ms => (fs.ofMembers ms).result
  | .array items =>
    match fs.ofItems (fun n => .tooShort n name fs.size) 0 items with
    | .error e => .error e
    | .ok (a, []) => .ok a
    | .ok (_, _ :: _) => .error (.tooLong items.length)
  | json => .error (.unexpected json (.record name))

end Fields

end SignIn
