import SignIn.Text.Integer
import SignIn.Toml.Value

/-!
# Reading TOML scalars

Texts, numbers and moments of a TOML document. Each reader answers with what it read and the
characters after it, or with nothing when the characters do not begin with such a value.

Texts come in four forms, between one or three quotes of either kind. Only double quotes know
escapes. In the long forms a line break directly after the opening quotes is dropped, and every
line break is a line feed.
-/

namespace SignIn.Toml

/-! ### Characters -/

/-- Whether a character separates tokens within a line. -/
def isSpace (c : Char) : Bool := c == ' ' || c == '\t'

/-- Whether a character may stand in a comment or a text: no control but the tab. -/
def isPlain (c : Char) : Bool := c == '\t' || (32 ≤ c.toNat && c.toNat != 127)

/-- Whether a character may stand in a key without quotes. -/
def isBareKeyChar (c : Char) : Bool :=
  Text.isDigit c || ('a' ≤ c && c ≤ 'z') || ('A' ≤ c && c ≤ 'Z') || c == '-' || c == '_'

/-- Drops spaces and tabs. -/
def skipSpaces (cs : List Char) : List Char := cs.dropWhile isSpace

/-- Reads a line break. -/
def lineBreak? : List Char → Option (List Char)
  | '\n' :: rest => some rest
  | '\r' :: '\n' :: rest => some rest
  | _ => none

/-- Drops spaces, tabs and line breaks. The fuel bounds the number of steps. -/
def skipBlanks : (fuel : Nat) → List Char → List Char
  | 0, cs => cs
  | fuel + 1, cs =>
    match cs with
    | ' ' :: rest | '\t' :: rest | '\n' :: rest | '\r' :: '\n' :: rest => skipBlanks fuel rest
    | cs => cs

/-! ### Texts -/

/-- The character with a code point, if the code point is that of a character. -/
def charOf? (n : Nat) : Option Char :=
  if n.isValidChar then some (Char.ofNat n) else none

/-- The number denoted by as many hexadecimal digits as the count says. -/
def hexDigits? (n : Nat) : (count : Nat) → List Char → Option (Nat × List Char)
  | 0, cs => some (n, cs)
  | count + 1, c :: cs => do hexDigits? (16 * n + (← Hex.value? c)) count cs
  | _ + 1, [] => none

/-- The character that a backslash and what follows stand for. -/
def escape? : List Char → Option (Char × List Char)
  | 'b' :: rest => some ('\x08', rest)
  | 't' :: rest => some ('\t', rest)
  | 'n' :: rest => some ('\n', rest)
  | 'f' :: rest => some ('\x0c', rest)
  | 'r' :: rest => some ('\r', rest)
  | '"' :: rest => some ('"', rest)
  | '\\' :: rest => some ('\\', rest)
  | 'u' :: rest => do
    let (n, rest) ← hexDigits? 0 4 rest
    some (← charOf? n, rest)
  | 'U' :: rest => do
    let (n, rest) ← hexDigits? 0 8 rest
    some (← charOf? n, rest)
  | _ => none

/-- The text up to a closing quote. Escapes are read only where a backslash means one. The
characters already read stand in reverse; the fuel bounds their number. -/
def shortText? (quote : Char) (escapes : Bool) (acc : List Char) :
    (fuel : Nat) → List Char → Option (String × List Char)
  | 0, _ => none
  | fuel + 1, cs =>
    match cs with
    | [] => none
    | c :: rest =>
      if c = quote then some (String.ofList acc.reverse, rest)
      else if escapes && c == '\\' then do
        let (c, rest) ← escape? rest
        shortText? quote escapes (c :: acc) fuel rest
      else if isPlain c then shortText? quote escapes (c :: acc) fuel rest
      else none

/-- The characters after a backslash that ends its line: the next that are not blank. -/
def joinedLine? (cs : List Char) : Option (List Char) :=
  (lineBreak? (skipSpaces cs)).map fun rest => skipBlanks rest.length rest

/-- The text up to three closing quotes, before which two more may stand as part of the text. -/
def longText? (quote : Char) (escapes : Bool) (acc : List Char) :
    (fuel : Nat) → List Char → Option (String × List Char)
  | 0, _ => none
  | fuel + 1, cs =>
    match cs with
    | [] => none
    | '\n' :: rest | '\r' :: '\n' :: rest => longText? quote escapes ('\n' :: acc) fuel rest
    | c :: rest =>
      if c = quote then
        let run := (c :: rest).takeWhile (· == quote)
        let after := (c :: rest).dropWhile (· == quote)
        if run.length < 3 then longText? quote escapes (run ++ acc) fuel after
        else if run.length < 6 then
          some (String.ofList (acc.reverse ++ run.drop 3), after)
        else none
      else if escapes && c == '\\' then
        match joinedLine? rest with
        | some rest => longText? quote escapes acc fuel rest
        | none => do
          let (c, rest) ← escape? rest
          longText? quote escapes (c :: acc) fuel rest
      else if isPlain c then longText? quote escapes (c :: acc) fuel rest
      else none

/-- The characters of a long text after its opening quotes, less a line break at their front. -/
def longBody (cs : List Char) : List Char := (lineBreak? cs).getD cs

/-- A text between single or double quotes, one of them at each end. -/
def lineText? : List Char → Option (String × List Char)
  | '"' :: rest => shortText? '"' true [] (rest.length + 1) rest
  | '\'' :: rest => shortText? '\'' false [] (rest.length + 1) rest
  | _ => none

/-- A text of any of the four forms. -/
def text? : List Char → Option (String × List Char)
  | '"' :: '"' :: '"' :: rest => longText? '"' true [] (rest.length + 1) (longBody rest)
  | '\'' :: '\'' :: '\'' :: rest => longText? '\'' false [] (rest.length + 1) (longBody rest)
  | cs => lineText? cs

/-! ### Numbers -/

/-- The digits of a number, in which single underscores may stand between two digits. The digits
already read stand in reverse. -/
def digitsFrom? (isDigit : Char → Bool) (acc : List Char) :
    List Char → Option (List Char × List Char)
  | '_' :: c :: rest => if isDigit c then digitsFrom? isDigit (c :: acc) rest else none
  | ['_'] => none
  | c :: rest =>
    if isDigit c then digitsFrom? isDigit (c :: acc) rest else some (acc.reverse, c :: rest)
  | [] => some (acc.reverse, [])

/-- One or more digits, with underscores between them. -/
def digits? (isDigit : Char → Bool) : List Char → Option (List Char × List Char)
  | c :: rest => if isDigit c then digitsFrom? isDigit [c] rest else none
  | [] => none

/-- The digits of a whole number in decimal: a zero alone, or digits that begin with none. -/
def wholeDigits? : List Char → Option (List Char × List Char)
  | '0' :: rest => some (['0'], rest)
  | cs => digits? Text.isDigit cs

/-- A sign, if there is one, and whether it is a minus. -/
def sign : List Char → Bool × List Char
  | '-' :: rest => (true, rest)
  | '+' :: rest => (false, rest)
  | cs => (false, cs)

/-- An integer of sixty-four bits with a sign. -/
def bounded? (n : Int) : Option Value :=
  if -9223372036854775808 ≤ n ∧ n ≤ 9223372036854775807 then some (.integer n) else none

/-- The number denoted by digits to a base. -/
def ofBase (base : Nat) (ds : List Char) : Nat :=
  ds.foldl (fun n d => base * n + (Hex.value? d).getD 0) 0

/-- An integer to another base than ten, after its mark. -/
def based? (base : Nat) (cs : List Char) : Option (Value × List Char) := do
  let (ds, rest) ← digits? (fun c => (Hex.value? c).any (· < base)) cs
  some (← bounded? (ofBase base ds), rest)

/-- The part of a float after its whole digits: a fraction, an exponent or both. -/
def floatTail? (cs : List Char) : Option ((List Char × Int) × List Char) :=
  match cs with
  | '.' :: rest => do
    let (fraction, rest) ← digits? Text.isDigit rest
    match rest with
    | 'e' :: rest | 'E' :: rest => do
      let (negative, rest) := sign rest
      let (ds, rest) ← digits? Text.isDigit rest
      let e : Int := Text.ofDigits 0 ds
      some ((fraction, if negative then -e else e), rest)
    | rest => some ((fraction, 0), rest)
  | 'e' :: rest | 'E' :: rest => do
    let (negative, rest) := sign rest
    let (ds, rest) ← digits? Text.isDigit rest
    let e : Int := Text.ofDigits 0 ds
    some (([], if negative then -e else e), rest)
  | _ => none

/-- The float of its parts. A positive one that is too large for a double is refused; a negative
one is the negative infinity. -/
def float? (negative : Bool) (whole fraction : List Char) (exponent : Int) : Option Value :=
  let x := Double.ofDecimal negative (Text.ofDigits 0 (whole ++ fraction))
    (exponent - fraction.length)
  if !negative && !x.isFinite then none else some (.float x)

/-- The number that is none, and the two infinities. -/
def specialFloat? (negative : Bool) : List Char → Option (Value × List Char)
  | 'i' :: 'n' :: 'f' :: rest =>
    some (.float (.ofFloat (if negative then -1.0 / 0.0 else 1.0 / 0.0)), rest)
  | 'n' :: 'a' :: 'n' :: rest => some (.float (.ofFloat (0.0 / 0.0)), rest)
  | _ => none

/-- An integer or a float. -/
def number? (cs : List Char) : Option (Value × List Char) :=
  match cs with
  | '0' :: 'x' :: rest => based? 16 rest
  | '0' :: 'o' :: rest => based? 8 rest
  | '0' :: 'b' :: rest => based? 2 rest
  | _ =>
    let (negative, rest) := sign cs
    match specialFloat? negative rest with
    | some result => some result
    | none => do
      let (whole, rest) ← wholeDigits? rest
      match rest with
      | '.' :: _ | 'e' :: _ | 'E' :: _ =>
        let ((fraction, exponent), rest) ← floatTail? rest
        some (← float? negative whole fraction exponent, rest)
      | _ =>
        let n : Int := Text.ofDigits 0 whole
        some (← bounded? (if negative then -n else n), rest)

/-! ### Moments -/

/-- The number denoted by exactly as many digits as the count says. -/
def count? (count : Nat) (cs : List Char) : Option (Nat × List Char) :=
  let ds := cs.take count
  if ds.length = count ∧ ds.all Text.isDigit then some (Text.ofDigits 0 ds, cs.drop count)
  else none

/-- The given character. -/
def mark? (mark : Char) : List Char → Option (List Char)
  | c :: rest => if c = mark then some rest else none
  | [] => none

/-- The number of days of a month. -/
def daysOfMonth (year month : Nat) : Nat :=
  if month = 2 then
    if year % 4 = 0 ∧ (year % 100 ≠ 0 ∨ year % 400 = 0) then 29 else 28
  else if month = 4 ∨ month = 6 ∨ month = 9 ∨ month = 11 then 30
  else 31

/-- A day that the calendar has. -/
def day? (cs : List Char) : Option (Day × List Char) := do
  let (year, cs) ← count? 4 cs
  let (month, cs) ← count? 2 (← mark? '-' cs)
  let (day, cs) ← count? 2 (← mark? '-' cs)
  if 1 ≤ month ∧ month ≤ 12 ∧ 1 ≤ day ∧ day ≤ daysOfMonth year month then
    some (⟨year, month, day⟩, cs)
  else none

/-- A fraction of a second in nanoseconds, if there is one; digits after the ninth are dropped. -/
def fraction? : List Char → Option (Nat × List Char)
  | '.' :: rest =>
    let ds := rest.takeWhile Text.isDigit
    if ds.isEmpty then none
    else
      let ds := ds.take 9
      some (Text.ofDigits 0 ds * Nat.pow 10 (9 - ds.length), rest.dropWhile Text.isDigit)
  | cs => some (0, cs)

/-- A time of day. The second may be 60. -/
def clock? (cs : List Char) : Option (Clock × List Char) := do
  let (hour, cs) ← count? 2 cs
  let (minute, cs) ← count? 2 (← mark? ':' cs)
  let (second, cs) ← count? 2 (← mark? ':' cs)
  let (nano, cs) ← fraction? cs
  if hour ≤ 23 ∧ minute ≤ 59 ∧ second ≤ 60 then some (⟨hour, minute, second, nano⟩, cs) else none

/-- Hours and minutes, as minutes. -/
def hoursAndMinutes? (cs : List Char) : Option (Nat × List Char) := do
  let (hours, cs) ← count? 2 cs
  let (minutes, cs) ← count? 2 (← mark? ':' cs)
  if hours ≤ 23 ∧ minutes ≤ 59 then some (hours * 60 + minutes, cs) else none

/-- A distance from UTC, if there is one. -/
def zone? : List Char → Option (Option Zone × List Char)
  | 'Z' :: rest | 'z' :: rest => some (some .utc, rest)
  | '+' :: rest => (hoursAndMinutes? rest).map fun (n, rest) => (some (.ahead n), rest)
  | '-' :: rest => (hoursAndMinutes? rest).map fun (n, rest) => (some (.behind n), rest)
  | cs => some (none, cs)

/-- The time of day and the distance from UTC after a day, if they are there. A space that no
time follows is left for what comes after the value. -/
def timeOfDay? (d : Day) (cs : List Char) : Option (Moment × List Char) :=
  match cs with
  | 'T' :: rest | 't' :: rest => do
    let (c, rest) ← clock? rest
    let (zone, rest) ← zone? rest
    some (.both d c zone, rest)
  | ' ' :: rest =>
    if rest.head?.any Text.isDigit then do
      let (c, rest) ← clock? rest
      let (zone, rest) ← zone? rest
      some (.both d c zone, rest)
    else some (.day d, cs)
  | _ => some (.day d, cs)

/-- A moment: what begins with four digits and a hyphen, or with two digits and a colon. -/
def moment? (cs : List Char) : Option (Moment × List Char) :=
  match cs with
  | _ :: _ :: ':' :: _ => (clock? cs).map fun (c, rest) => (.clock c, rest)
  | _ => do
    let (d, rest) ← day? cs
    timeOfDay? d rest

/-- Whether a row of characters begins like a moment and not like a number. -/
def beginsMoment : List Char → Bool
  | a :: b :: ':' :: _ => Text.isDigit a && Text.isDigit b
  | a :: b :: c :: d :: '-' :: _ =>
    Text.isDigit a && Text.isDigit b && Text.isDigit c && Text.isDigit d
  | _ => false

/-- A value that holds no other values. -/
def scalar? (cs : List Char) : Option (Value × List Char) :=
  match cs with
  | 't' :: 'r' :: 'u' :: 'e' :: rest => some (.bool true, rest)
  | 'f' :: 'a' :: 'l' :: 's' :: 'e' :: rest => some (.bool false, rest)
  | '"' :: _ | '\'' :: _ => (text? cs).map fun (s, rest) => (.text s, rest)
  | _ =>
    if beginsMoment cs then (moment? cs).map fun (m, rest) => (.moment m, rest)
    else number? cs

end SignIn.Toml
