import SignIn.Json.Basic
import SignIn.Text.Integer

/-!
# Reading JSON text

Each reader answers with what it read and the characters after it. `Json.parse?` reads one value
that fills a whole text. Values nest at most 127 deep. A number without a fraction and an exponent
is an integer if sixty-four bits hold it, signed or unsigned; any other number is a double, as is
`-0`. Of two members under one key the later one stays.

A double is read by scaling: its leading digits, as many as an unsigned integer of sixty-four
bits holds, are multiplied or divided by a power of ten in double arithmetic. That is the nearest
double for up to fifteen digits and exponents up to twenty-two.
-/

namespace SignIn.Json.Reader

/-- Drops the white space that JSON allows between tokens. -/
def skip (cs : List Char) : List Char :=
  cs.dropWhile fun c => c == ' ' || c == '\n' || c == '\r' || c == '\t'

/-! ### Texts -/

/-- Four hexadecimal digits. -/
def unit? : List Char → Option (Nat × List Char)
  | a :: b :: c :: d :: rest => do
    some (((← Hex.value? a) * 16 + (← Hex.value? b)) * 256
      + ((← Hex.value? c) * 16 + (← Hex.value? d)), rest)
  | _ => none

/-- The character after `\u`: one unit, or two that form a surrogate pair. -/
def escapedUnit? (cs : List Char) : Option (Char × List Char) := do
  let (high, rest) ← unit? cs
  if high < 0xd800 ∨ 0xdfff < high then some (Char.ofNat high, rest)
  else if high < 0xdc00 then
    match rest with
    | '\\' :: 'u' :: rest =>
      let (low, rest) ← unit? rest
      if 0xdc00 ≤ low ∧ low ≤ 0xdfff then
        some (Char.ofNat (0x10000 + (high - 0xd800) * 0x400 + (low - 0xdc00)), rest)
      else none
    | _ => none
  else none

/-- The character after a backslash. -/
def escape? : List Char → Option (Char × List Char)
  | '"' :: rest => some ('"', rest)
  | '\\' :: rest => some ('\\', rest)
  | '/' :: rest => some ('/', rest)
  | 'b' :: rest => some ('\x08', rest)
  | 'f' :: rest => some ('\x0c', rest)
  | 'n' :: rest => some ('\n', rest)
  | 'r' :: rest => some ('\r', rest)
  | 't' :: rest => some ('\t', rest)
  | 'u' :: rest => escapedUnit? rest
  | _ => none

/-- The characters up to the closing quote, put in front of those already read, which stand in
reverse. The fuel bounds their number. -/
def textFrom? (acc : List Char) : (fuel : Nat) → List Char → Option (String × List Char)
  | 0, _ => none
  | fuel + 1, cs =>
    match cs with
    | '"' :: rest => some (String.ofList acc.reverse, rest)
    | '\\' :: rest => do
      let (c, rest) ← escape? rest
      textFrom? (c :: acc) fuel rest
    | c :: rest => if c.toNat < 32 then none else textFrom? (c :: acc) fuel rest
    | [] => none

/-- The text after an opening quote. -/
def text? (cs : List Char) : Option (String × List Char) := textFrom? [] cs.length cs

/-! ### Numbers -/

/-- Appends digits to a number as long as sixty-four bits hold it; the digits left over follow. -/
def absorb (n : Nat) : List Char → Nat × List Char
  | [] => (n, [])
  | d :: ds =>
    let m := 10 * n + Text.digitValue d
    if m < UInt64.size then absorb m ds else (n, d :: ds)

/-- A number scaled by a power of ten, in double arithmetic. The fuel bounds the divisions by
`1e308` that a small exponent needs. -/
def scaleFloat (x : Float) : (fuel : Nat) → Int → Option Float
  | 0, _ => some x
  | fuel + 1, e =>
    if e.natAbs ≤ 308 then
      let power := Float.ofScientific 1 false e.natAbs
      if e < 0 then some (x / power)
      else if (x * power).isInf then none else some (x * power)
    else if x == 0 then some x
    else if 0 < e then none
    else scaleFloat (x / 1e308) fuel (e + 308)

/-- The double of some digits, a fraction and an exponent; none when it is too large. -/
def double? (negative : Bool) (whole fraction : List Char) (exponent : Int) : Option Double :=
  let (n, left) := absorb 0 whole
  let (n, unused) := absorb n fraction
  let e := exponent + left.length - ((fraction.length - unused.length : Nat) : Int)
  if n = 0 then some (.ofFloat (if negative then -0.0 else 0.0))
  else (scaleFloat n.toUInt64.toFloat 5 e).map fun x => .ofFloat (if negative then -x else x)

/-- The leading digits, and what follows them. -/
def digits (cs : List Char) : List Char × List Char := cs.span Text.isDigit

/-- The digits of a fraction, if a point is there. -/
def fraction? : List Char → Option (Option (List Char) × List Char)
  | '.' :: cs =>
    let (ds, rest) := digits cs
    if ds.isEmpty then none else some (some ds, rest)
  | cs => some (none, cs)

/-- The value of an exponent after its mark. -/
def exponentValue? (negative : Bool) (cs : List Char) : Option (Option Int × List Char) :=
  let (ds, rest) := digits cs
  if ds.isEmpty then none
  else
    let n : Int := min (Text.ofDigits 0 ds) 2147483647
    some (some (if negative then -n else n), rest)

/-- The exponent, if its mark is there. -/
def exponent? : List Char → Option (Option Int × List Char)
  | 'e' :: '+' :: cs | 'E' :: '+' :: cs => exponentValue? false cs
  | 'e' :: '-' :: cs | 'E' :: '-' :: cs => exponentValue? true cs
  | 'e' :: cs | 'E' :: cs => exponentValue? false cs
  | cs => some (none, cs)

/-- The number of an integer's digits: an integer if sixty-four bits hold it. -/
def whole? (negative : Bool) (ds : List Char) : Option JsonNumber :=
  let n := Text.ofDigits 0 ds
  if !negative && n < UInt64.size then some (.integer n)
  else if negative && 0 < n && n ≤ UInt64.size / 2 then some (.integer (-n))
  else (double? negative ds [] 0).map .double

/-- A number after its sign. -/
def unsigned? (negative : Bool) (cs : List Char) : Option (JsonNumber × List Char) := do
  let (ds, rest) := digits cs
  if ds.isEmpty ∨ (1 < ds.length ∧ ds.head? = some '0') then none
  else
    let (fraction, rest) ← fraction? rest
    let (exponent, rest) ← exponent? rest
    match fraction, exponent with
    | none, none => (whole? negative ds).map fun n => (n, rest)
    | _, _ =>
      (double? negative ds (fraction.getD []) (exponent.getD 0)).map fun x => (.double x, rest)

/-- A number. -/
def number? : List Char → Option (JsonNumber × List Char)
  | '-' :: cs => unsigned? true cs
  | cs => unsigned? false cs

/-! ### Values -/

/-- Items separated by commas, up to the closing bracket. The fuel bounds their number. -/
def items? (read : List Char → Option (Json × List Char)) (acc : List Json) :
    (fuel : Nat) → List Char → Option (List Json × List Char)
  | 0, _ => none
  | fuel + 1, cs => do
    let (x, rest) ← read cs
    match skip rest with
    | ',' :: rest => items? read (x :: acc) fuel rest
    | ']' :: rest => some ((x :: acc).reverse, rest)
    | _ => none

/-- Members separated by commas, up to the closing brace. The fuel bounds their number. -/
def members? (read : List Char → Option (Json × List Char)) (acc : List (String × Json)) :
    (fuel : Nat) → List Char → Option (List (String × Json) × List Char)
  | 0, _ => none
  | fuel + 1, cs =>
    match skip cs with
    | '"' :: rest => do
      let (key, rest) ← text? rest
      match skip rest with
      | ':' :: rest =>
        let (x, rest) ← read rest
        match skip rest with
        | ',' :: rest => members? read ((key, x) :: acc) fuel rest
        | '\x7d' :: rest => some (((key, x) :: acc).reverse, rest)
        | _ => none
      | _ => none
    | _ => none

/-- A value that nests less deep than the given number. -/
def value? : (depth : Nat) → List Char → Option (Json × List Char)
  | depth, cs =>
    match skip cs with
    | 'n' :: 'u' :: 'l' :: 'l' :: rest => some (.null, rest)
    | 't' :: 'r' :: 'u' :: 'e' :: rest => some (.bool true, rest)
    | 'f' :: 'a' :: 'l' :: 's' :: 'e' :: rest => some (.bool false, rest)
    | '"' :: rest => (text? rest).map fun (s, rest) => (.text s, rest)
    | '[' :: rest =>
      match depth, skip rest with
      | 0, _ => none
      | _ + 1, ']' :: rest => some (.array [], rest)
      | depth + 1, _ => (items? (value? depth) [] rest.length rest).map
          fun (xs, rest) => (.array xs, rest)
    | '\x7b' :: rest =>
      match depth, skip rest with
      | 0, _ => none
      | _ + 1, '\x7d' :: rest => some (.object [], rest)
      | depth + 1, _ => (members? (value? depth) [] rest.length rest).map
          fun (ms, rest) => (.record ms, rest)
    | rest => (number? rest).map fun (n, rest) => (.number n, rest)

end SignIn.Json.Reader

namespace SignIn.Json

/-- The value that a text holds. -/
def parse? (s : String) : Option Json :=
  match Reader.value? 127 s.toList with
  | some (json, rest) => if (Reader.skip rest).isEmpty then some json else none
  | none => none

end SignIn.Json
