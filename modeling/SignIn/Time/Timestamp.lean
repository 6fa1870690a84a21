import SignIn.Text.Integer
import SignIn.Time.Instant

/-!
# Instants as text

`Timestamp.render` writes an instant as `YYYY-MM-DDThh:mm:ss`, a fraction of three, six or nine
digits where one is needed, and `Z`. A year above 9999 has a plus sign, a year before 0 a minus
sign, and a leap second is the second 60.

`Timestamp.parse?` reads such a text. It also takes an offset from UTC, any number of fraction
digits (those after the ninth are dropped), `t` or a space for `T`, `z` or `UTC` for `Z`, fields
of fewer digits, and white space between the fields.
-/

namespace SignIn.Timestamp

/-! ### Writing -/

/-- The digits of a year: four, or as many as it has. -/
def yearDigits (n : Nat) : List Char :=
  Text.fixed (if n < 10000 then 4 else if n < 100000 then 5 else 6) n

/-- A year with the sign that it needs. -/
def yearText (y : Int) : List Char :=
  if y < 0 then '-' :: yearDigits y.natAbs
  else if 9999 < y then '+' :: yearDigits y.natAbs
  else yearDigits y.natAbs

/-- The fraction of a second, with its point, in the fewest of three, six or nine digits. -/
def fractionText (nano : Nat) : List Char :=
  if nano = 0 then []
  else if nano % 1000000 = 0 then '.' :: Text.fixed 3 (nano / 1000000)
  else if nano % 1000 = 0 then '.' :: Text.fixed 6 (nano / 1000)
  else '.' :: Text.fixed 9 nano

/-- The characters of an instant. -/
def chars (t : Instant) : List Char :=
  let date := Date.ofDays (t.second / 86400)
  let inDay := (t.second % 86400).toNat
  let second := if t.isLeap then inDay % 60 + 1 else inDay % 60
  yearText date.year ++ '-' :: Text.fixed 2 date.month ++ '-' :: Text.fixed 2 date.day
    ++ 'T' :: Text.fixed 2 (inDay / 3600) ++ ':' :: Text.fixed 2 (inDay / 60 % 60)
    ++ ':' :: Text.fixed 2 second ++ fractionText (t.nano % 1000000000) ++ ['Z']

/-- The text of an instant. -/
def render (t : Instant) : String := String.ofList (chars t)

/-! ### Reading -/

/-- Reads digits, at most as many as the limit, after a number already read. -/
def takeDigits : (limit : Nat) → Nat → List Char → Nat × List Char
  | 0, n, cs => (n, cs)
  | _, n, [] => (n, [])
  | limit + 1, n, c :: cs =>
    if Text.isDigit c then takeDigits limit (10 * n + Text.digitValue c) cs else (n, c :: cs)

/-- Reads white space and then a number of at least one digit and at most as many as the limit. -/
def number? (limit : Nat) (cs : List Char) : Option (Nat × List Char) :=
  match Text.dropBlanks cs with
  | c :: rest =>
    if Text.isDigit c then some (takeDigits limit 0 (c :: rest)) else none
  | [] => none

/-- Reads the given character after white space. -/
def mark? (mark : Char) (cs : List Char) : Option (List Char) :=
  match Text.dropBlanks cs with
  | c :: rest => if c = mark then some rest else none
  | [] => none

/-- Reads a year: up to four digits, or a sign and any number of digits. -/
def year? (cs : List Char) : Option (Int × List Char) :=
  match Text.dropBlanks cs with
  | '-' :: c :: rest =>
    if Text.isDigit c then
      let (n, rest) := takeDigits rest.length.succ 0 (c :: rest)
      some (-n, rest)
    else none
  | '+' :: c :: rest =>
    if Text.isDigit c then
      let (n, rest) := takeDigits rest.length.succ 0 (c :: rest)
      some (n, rest)
    else none
  | rest => (number? 4 rest).map fun (n, rest) => ((n : Int), rest)

/-- Reads a fraction of a second in nanoseconds, if one is there. -/
def fraction? : List Char → Option (Nat × List Char)
  | '.' :: c :: cs =>
    if Text.isDigit c then
      let (n, rest) := takeDigits 9 0 (c :: cs)
      let read := (c :: cs).length - rest.length
      some (n * Nat.pow 10 (9 - read), rest.dropWhile Text.isDigit)
    else none
  | ['.'] => none
  | cs => some (0, cs)

/-- Reads two digits. -/
def twoDigits? : List Char → Option (Nat × List Char)
  | a :: b :: rest =>
    if Text.isDigit a && Text.isDigit b then
      some (10 * Text.digitValue a + Text.digitValue b, rest)
    else none
  | _ => none

/-- Reads hours and minutes of an offset, in seconds; any colons and blanks may stand between. -/
def offset? (cs : List Char) : Option (Int × List Char) := do
  let (hours, rest) ← twoDigits? cs
  let (minutes, rest) ← twoDigits? (rest.dropWhile fun c => c == ':' || Text.isBlank c)
  if minutes < 60 ∧ hours < 24 then some ((hours * 3600 + minutes * 60 : Nat), rest) else none

/-- Reads the zone: UTC, or a signed offset from it in seconds. -/
def zone? (cs : List Char) : Option (Int × List Char) :=
  match cs with
  | 'Z' :: rest | 'z' :: rest => some (0, rest)
  | '+' :: rest => offset? rest
  | '-' :: rest | '\u2212' :: rest => (offset? rest).map fun (n, rest) => (-n, rest)
  | u :: t :: c :: rest =>
    if u.toLower = 'u' ∧ t.toLower = 't' ∧ c.toLower = 'c' then some (0, rest) else none
  | _ => none

/-- The instant of a date, a time of day and an offset. The second 60 is a leap second. -/
def assemble? (date : Date) (hour minute second nano : Nat) (offset : Int) : Option Instant :=
  if date.IsValid ∧ -262143 ≤ date.year ∧ date.year ≤ 262142
      ∧ hour < 24 ∧ minute < 60 ∧ second ≤ 60 then
    let inDay : Int := (hour * 3600 + minute * 60 + min second 59 : Nat)
    Instant.ofParts? (date.days * 86400 + inDay - offset)
      (if second = 60 then nano + 1000000000 else nano)
  else none

/-- The instant that the characters denote. -/
def parseChars? (cs : List Char) : Option Instant := do
  let (year, cs) ← year? cs
  let (month, cs) ← number? 2 (← mark? '-' cs)
  let (day, cs) ← number? 2 (← mark? '-' cs)
  let cs ← match cs with
    | 'T' :: cs | 't' :: cs | ' ' :: cs => some cs
    | _ => none
  let (hour, cs) ← number? 2 cs
  let (minute, cs) ← number? 2 (← mark? ':' cs)
  let (second, cs) ← number? 2 (← mark? ':' cs)
  let (nano, cs) ← fraction? cs
  let (offset, cs) ← zone? (Text.dropBlanks cs)
  if (Text.dropBlanks cs).isEmpty then
    assemble? ⟨year, month, day⟩ hour minute second nano offset
  else none

/-- The instant that a text denotes. -/
def parse? (s : String) : Option Instant := parseChars? s.toList

end SignIn.Timestamp
