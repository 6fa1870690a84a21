import SignIn.Toml.Node
import SignIn.Toml.Scalar

/-!
# Reading TOML documents

`Toml.parse?` reads a document into its table, line by line. A line sets a key, begins a table,
begins the next table of an array, or says nothing; a byte order mark in front is skipped.

Values nest at most 79 deep, and a dotted key has at most 79 parts. A table within braces stands
on one line and ends without a comma; an array may stretch over lines, hold comments, and end
with a comma.
-/

namespace SignIn.Toml

/-! ### Keys and values -/

/-- Drops the rest of a line that only holds a comment: none but plain characters after `#`. -/
def comment? : List Char → Option (List Char)
  | '#' :: rest => some (rest.dropWhile isPlain)
  | cs => some cs

/-- Reads what may stand after a statement: spaces, a comment, and the end of the line. -/
def endOfLine? (cs : List Char) : Option (List Char) := do
  match ← comment? (skipSpaces cs) with
  | [] => some []
  | rest => lineBreak? rest

/-- One part of a key: bare, or between quotes on one line. -/
def keyPart? (cs : List Char) : Option (String × List Char) :=
  match cs with
  | '"' :: _ | '\'' :: _ => lineText? cs
  | _ =>
    let name := cs.takeWhile isBareKeyChar
    if name.isEmpty then none else some (String.ofList name, cs.dropWhile isBareKeyChar)

/-- The parts of a dotted key, with spaces around each. The fuel bounds their number. -/
def keyFrom? (acc : List String) : (fuel : Nat) → List Char → Option (List String × List Char)
  | 0, _ => none
  | fuel + 1, cs => do
    let (part, rest) ← keyPart? (skipSpaces cs)
    match skipSpaces rest with
    | '.' :: rest => keyFrom? (part :: acc) fuel rest
    | rest => some ((part :: acc).reverse, rest)

/-- The greatest number of parts of a key, and the greatest depth of values. -/
def greatestDepth : Nat := 79

/-- A dotted key. -/
def key? (cs : List Char) : Option (List String × List Char) := keyFrom? [] greatestDepth cs

/-- Drops blanks, line breaks and comments. The fuel bounds the number of lines. -/
def skipLines : (fuel : Nat) → List Char → List Char
  | 0, cs => cs
  | fuel + 1, cs =>
    match skipBlanks cs.length cs with
    | '#' :: rest => skipLines fuel (rest.dropWhile isPlain)
    | rest => rest

/-- The items of an array up to its closing bracket. The fuel bounds their number. -/
def items? (read : List Char → Option (Value × List Char)) (acc : List Value) :
    (fuel : Nat) → List Char → Option (List Value × List Char)
  | 0, _ => none
  | fuel + 1, cs =>
    match skipLines cs.length cs with
    | ']' :: rest => some (acc.reverse, rest)
    | cs => do
      let (v, rest) ← read cs
      match skipLines rest.length rest with
      | ',' :: rest => items? read (v :: acc) fuel rest
      | ']' :: rest => some ((v :: acc).reverse, rest)
      | _ => none

/-- The members of a table within braces, put into the entries already there. The fuel bounds
their number. -/
def members? (read : List Char → Option (Value × List Char)) (es : Entries) :
    (fuel : Nat) → List Char → Option (Entries × List Char)
  | 0, _ => none
  | fuel + 1, cs => do
    let (key, rest) ← key? cs
    let (v, rest) ← read (skipSpaces (← mark? '=' rest))
    let es ← Entries.putDotted key v es
    match skipSpaces rest with
    | ',' :: rest => members? read es fuel rest
    | '\x7d' :: rest => some (es, rest)
    | _ => none

/-- A value that nests at most as deep as the given number. -/
def value? (depth : Nat) (cs : List Char) : Option (Value × List Char) :=
  match depth, cs with
  | 0, '[' :: _ => none
  | 0, '\x7b' :: _ => none
  | depth + 1, '[' :: rest =>
    (items? (value? depth) [] (rest.length + 1) rest).map fun (vs, rest) => (.array vs, rest)
  | depth + 1, '\x7b' :: rest =>
    match skipSpaces rest with
    | '\x7d' :: rest => some (.table [], rest)
    | rest =>
      (members? (value? depth) [] rest.length rest).map fun (es, rest) =>
        (.table (entriesToValues es), rest)
  | _, cs => scalar? cs

/-! ### Lines -/

/-- A document as far as it has been read. -/
structure Draft where
  entries : Entries := []
  /-- The header of the table that lines go to. -/
  header : List String := []

/-- Reads a header up to its closing marks. -/
def header? (closing : List Char) (cs : List Char) : Option (List String × List Char) := do
  let (key, rest) ← key? cs
  if closing.isPrefixOf rest then some (key, rest.drop closing.length) else none

/-- Reads one line and takes it into the draft. -/
def line? (draft : Draft) (cs : List Char) : Option (Draft × List Char) :=
  match skipSpaces cs with
  | [] => some (draft, [])
  | '\n' :: rest | '\r' :: '\n' :: rest => some (draft, rest)
  | '#' :: rest => (endOfLine? ('#' :: rest)).map fun rest => (draft, rest)
  | '[' :: '[' :: rest => do
    let (header, rest) ← header? [']', ']'] rest
    let entries ← draft.entries.alterLast header Entries.openElement
    some (⟨entries, header⟩, ← endOfLine? rest)
  | '[' :: rest => do
    let (header, rest) ← header? [']'] rest
    let entries ← draft.entries.alterLast header Entries.openTable
    some (⟨entries, header⟩, ← endOfLine? rest)
  | cs => do
    let (key, rest) ← key? cs
    let (v, rest) ← value? greatestDepth (skipSpaces (← mark? '=' rest))
    let entries ← draft.entries.alter draft.header (Entries.putDotted key v)
    some (⟨entries, draft.header⟩, ← endOfLine? rest)

/-- Reads all lines into the draft. The fuel bounds their number. -/
def lines? (draft : Draft) : (fuel : Nat) → List Char → Option Draft
  | _, [] => some draft
  | 0, _ => none
  | fuel + 1, cs => do
    let (draft, rest) ← line? draft cs
    lines? draft fuel rest

/-- The characters of a document without a byte order mark in front. -/
def withoutMark : List Char → List Char
  | '\ufeff' :: rest => rest
  | cs => cs

/-- The members of the table that a document holds. -/
def parse? (s : String) : Option (List (String × Value)) :=
  let cs := withoutMark s.toList
  (lines? {} cs.length cs).map fun draft => entriesToValues draft.entries

end SignIn.Toml
