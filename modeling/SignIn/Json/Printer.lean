import SignIn.Decimal
import SignIn.Json.Basic
import SignIn.Text.Integer

/-!
# JSON text

`Json.render` writes a value without any white space. A text has the short escapes where JSON has
one, `\u` and four digits for the other controls, and every other character as it is. A double
has a decimal point or an exponent, and none that is infinite or not a number can be written:
`null` stands in its place.
-/

namespace SignIn.Json

/-- How one character of a text is written. -/
def escapeChar (c : Char) : List Char :=
  if c = '"' then ['\\', '"']
  else if c = '\\' then ['\\', '\\']
  else if c = '\n' then ['\\', 'n']
  else if c = '\r' then ['\\', 'r']
  else if c = '\t' then ['\\', 't']
  else if c.toNat = 8 then ['\\', 'b']
  else if c.toNat = 12 then ['\\', 'f']
  else if c.toNat < 32 then ['\\', 'u', '0', '0', Hex.digit (c.toNat / 16), Hex.digit c.toNat]
  else [c]

/-- A text between quotes. -/
def renderText (s : String) : String :=
  String.ofList ('"' :: s.toList.flatMap escapeChar ++ ['"'])

/-- A number. -/
def renderNumber : JsonNumber → String
  | .integer n => Text.ofInt n
  | .double x => if x.isFinite then Decimal.Layout.standard.render x else "null"

mutual

/-- The text of a value. -/
def render : Json → String
  | .null => "null"
  | .bool true => "true"
  | .bool false => "false"
  | .number n => renderNumber n
  | .text s => renderText s
  | .array items => "[" ++ ",".intercalate (renderItems items) ++ "]"
  | .object members => "\x7b" ++ ",".intercalate (renderMembers members) ++ "\x7d"

/-- The texts of some values. -/
def renderItems : List Json → List String
  | [] => []
  | x :: xs => x.render :: renderItems xs

/-- The texts of some members. -/
def renderMembers : List (String × Json) → List String
  | [] => []
  | (k, x) :: xs => (renderText k ++ ":" ++ x.render) :: renderMembers xs

end

theorem renderItems_eq_map (items : List Json) : renderItems items = items.map render := by
  induction items with
  | nil => rfl
  | cons x xs ih => rw [renderItems, ih, List.map_cons]

theorem renderMembers_eq_map (members : List (String × Json)) :
    renderMembers members = members.map fun m => renderText m.1 ++ ":" ++ m.2.render := by
  induction members with
  | nil => rfl
  | cons m ms ih => rw [renderMembers, ih, List.map_cons]

end SignIn.Json
