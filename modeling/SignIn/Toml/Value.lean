import SignIn.Json.Basic
import SignIn.Text.Integer

/-!
# TOML values

`Toml.Value` is a value of a TOML document, with its own kinds of numbers and moments of time.
`Toml.Value.toJson` takes it to JSON: a moment becomes an object with one member that holds its
text, and an infinite number or one that is none becomes `null`.
-/

namespace SignIn.Toml

/-- A day of the calendar as a document writes it. -/
structure Day where
  year : Nat
  month : Nat
  day : Nat
  deriving DecidableEq, Repr

/-- A time of day, to the nanosecond. -/
structure Clock where
  hour : Nat
  minute : Nat
  second : Nat
  nano : Nat
  deriving DecidableEq, Repr

/-- The distance of a clock from UTC. -/
inductive Zone where
  | utc
  /-- Minutes ahead of UTC. -/
  | ahead (minutes : Nat)
  /-- Minutes behind UTC. -/
  | behind (minutes : Nat)
  deriving DecidableEq, Repr

/-- A moment of time, of which parts may be left open. -/
inductive Moment where
  | day (d : Day)
  | clock (c : Clock)
  | both (d : Day) (c : Clock) (zone : Option Zone)
  deriving DecidableEq, Repr

/-- A value of a document. -/
inductive Value where
  | text (s : String)
  | integer (n : Int)
  | float (x : Double)
  | bool (b : Bool)
  | moment (m : Moment)
  | array (items : List Value)
  | table (members : List (String × Value))

/-! ### The text of a moment -/

/-- The text of a day. -/
def Day.chars (d : Day) : List Char :=
  Text.fixed 4 d.year ++ '-' :: Text.fixed 2 d.month ++ '-' :: Text.fixed 2 d.day

/-- Nine digits of a fraction without the zeros at their end, and the point before them. -/
def fractionChars (nano : Nat) : List Char :=
  if nano = 0 then []
  else '.' :: ((Text.fixed 9 nano).reverse.dropWhile (· == '0')).reverse

/-- The text of a time of day. -/
def Clock.chars (c : Clock) : List Char :=
  Text.fixed 2 c.hour ++ ':' :: Text.fixed 2 c.minute ++ ':' :: Text.fixed 2 c.second
    ++ fractionChars c.nano

/-- Hours and minutes of a distance from UTC. -/
def offsetChars (minutes : Nat) : List Char :=
  Text.fixed 2 (minutes / 60) ++ ':' :: Text.fixed 2 (minutes % 60)

/-- The text of a distance from UTC. A distance of no minutes is ahead. -/
def Zone.chars : Zone → List Char
  | .utc => ['Z']
  | .ahead minutes => '+' :: offsetChars minutes
  | .behind minutes => (if minutes = 0 then '+' else '-') :: offsetChars minutes

/-- The text of a moment. -/
def Moment.chars : Moment → List Char
  | .day d => d.chars
  | .clock c => c.chars
  | .both d c zone => d.chars ++ 'T' :: c.chars ++ (zone.map Zone.chars).getD []

/-- The key under which the text of a moment stands in JSON. -/
def momentKey : String := "$__toml_private_datetime"

namespace Value

mutual

/-- A value as JSON. -/
def toJson : Value → Json
  | .text s => .text s
  | .integer n => .ofInt n
  | .float x => if x.isFinite then .number (.double x) else .null
  | .bool b => .bool b
  | .moment m => .object [(momentKey, .text (String.ofList m.chars))]
  | .array items => .array (itemsToJson items)
  | .table members => .record (membersToJson members)

/-- Some values as JSON. -/
def itemsToJson : List Value → List Json
  | [] => []
  | x :: xs => x.toJson :: itemsToJson xs

/-- Some members as JSON. -/
def membersToJson : List (String × Value) → List (String × Json)
  | [] => []
  | (k, x) :: xs => (k, x.toJson) :: membersToJson xs

end

theorem membersToJson_eq_map (members : List (String × Value)) :
    membersToJson members = members.map fun m => (m.1, m.2.toJson) := by
  induction members with
  | nil => rfl
  | cons m members ih => rw [membersToJson, ih, List.map_cons]

end Value

end SignIn.Toml
