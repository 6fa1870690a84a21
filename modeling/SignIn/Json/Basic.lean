import SignIn.Decimal
import SignIn.Table

/-!
# JSON values

`Json` is the value of a JSON document. A number is an integer or a double, and stays what it
is: `1` and `1.0` are different values. An object is a table of its members, so that the order
in which members were written does not matter.
-/

namespace SignIn

/-- A number of a JSON document. -/
inductive JsonNumber where
  /-- A number without a fraction and an exponent. -/
  | integer (n : Int)
  /-- A number with one. -/
  | double (x : Double)
  deriving DecidableEq, Repr

/-- A JSON value. -/
inductive Json where
  | null
  | bool (b : Bool)
  | number (n : JsonNumber)
  | text (s : String)
  | array (items : List Json)
  | object (members : List (String × Json))
  deriving BEq, Repr, Inhabited

namespace Json

/-- A whole number as a JSON value. -/
def ofInt (n : Int) : Json := .number (.integer n)

/-- An optional text as a JSON value, `null` when there is none. -/
def ofOption : Option String → Json
  | none => .null
  | some s => .text s

/-- The object with the given members. -/
def record (members : List (String × Json)) : Json := .object (Table.ofList members)

/-- The member of an object under a key. Nothing else has members. -/
def member? (json : Json) (key : String) : Option Json :=
  match json with
  | .object members => Table.get? members key
  | _ => none

/-- The member of an object under a key, if it is a text. -/
def textMember? (json : Json) (key : String) : Option String :=
  match json.member? key with
  | some (.text s) => some s
  | _ => none

/-- Whether two numbers are the same: two integers, or two doubles that stand for one number. -/
def sameNumber : JsonNumber → JsonNumber → Bool
  | .integer a, .integer b => a == b
  | .double x, .double y => x.same y
  | _, _ => false

mutual

/-- Whether two values are the same, with doubles compared as numbers. -/
def same : Json → Json → Bool
  | .null, .null => true
  | .bool a, .bool b => a == b
  | .number a, .number b => sameNumber a b
  | .text a, .text b => a == b
  | .array xs, .array ys => sameItems xs ys
  | .object xs, .object ys => sameMembers xs ys
  | _, _ => false

/-- Whether two rows of values are the same, one by one. -/
def sameItems : List Json → List Json → Bool
  | [], [] => true
  | x :: xs, y :: ys => x.same y && sameItems xs ys
  | _, _ => false

/-- Whether two tables have the same keys with the same values. -/
def sameMembers : List (String × Json) → List (String × Json) → Bool
  | [], [] => true
  | (k, x) :: xs, (l, y) :: ys => k == l && x.same y && sameMembers xs ys
  | _, _ => false

end

@[simp] theorem member?_object (members : List (String × Json)) (key : String) :
    (Json.object members).member? key = Table.get? members key := rfl

end Json

end SignIn
