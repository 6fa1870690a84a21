/-!
# Numbers in texts

`Text.integer?` reads an optional sign and one or more ASCII digits, and nothing else. Leading
zeros are allowed; a lone sign is not a number. `Text.ofInt` writes an integer, and `Text.fixed`
writes a number in a field of a given width. What is written denotes the number it was written for:
`ofDigits_ofNat`, `ofDigits_fixed`.

Identifiers, secrets and escapes are written in lower-case hexadecimal: `Hex.encode` writes two
digits for a byte, and `Hex.ofNat` writes a number without leading zeros.

Around a number that somebody has typed there may be white space. `Text.isBlank` is the Unicode
property `White_Space`, twenty-five characters in ten ranges; `Text.trimList` drops them from both
ends and leaves the inside alone.
-/

namespace SignIn.Text

/-- Whether a character is one of the ten ASCII digits. -/
def isDigit (c : Char) : Bool := '0' ≤ c && c ≤ '9'

/-- The value of an ASCII digit. -/
def digitValue (c : Char) : Nat := c.toNat - '0'.toNat

/-- The number that a row of digits denotes, read after a number already read. -/
def ofDigits (start : Nat) (ds : List Char) : Nat :=
  ds.foldl (fun n d => 10 * n + digitValue d) start

/-- The number denoted by one or more digits. -/
def natural? (cs : List Char) : Option Nat :=
  if cs.isEmpty || !cs.all isDigit then none else some (ofDigits 0 cs)

/-- The integer denoted by an optional sign and one or more digits. -/
def integer? : List Char → Option Int
  | '-' :: cs => (natural? cs).map fun n => -(n : Int)
  | '+' :: cs => (natural? cs).map fun n => (n : Int)
  | cs => (natural? cs).map fun n => (n : Int)

/-- The digits of a number, without leading zeros; zero is `0`. -/
def ofNat (n : Nat) : List Char := Nat.toDigits 10 n

/-- The text of an integer. -/
def ofInt (n : Int) : String :=
  String.ofList (if n < 0 then '-' :: ofNat n.natAbs else ofNat n.natAbs)

/-- The last digits of a number, as many as the width says, with zeros in front. -/
def fixed : (width : Nat) → Nat → List Char
  | 0, _ => []
  | width + 1, n => fixed width (n / 10) ++ [Nat.digitChar (n % 10)]

@[simp] theorem ofDigits_nil (start : Nat) : ofDigits start [] = start := by
  simp only [ofDigits, List.foldl_nil]

@[simp] theorem ofDigits_cons (start : Nat) (d : Char) (ds : List Char) :
    ofDigits start (d :: ds) = ofDigits (10 * start + digitValue d) ds := by
  simp only [ofDigits, List.foldl_cons]

theorem ofDigits_append (start : Nat) (xs ys : List Char) :
    ofDigits start (xs ++ ys) = ofDigits (ofDigits start xs) ys := by
  simp only [ofDigits, List.foldl_append]

@[simp] theorem length_fixed (width n : Nat) : (fixed width n).length = width := by
  induction width generalizing n with
  | zero => rfl
  | succ width ih => simp only [fixed, List.length_append, ih, List.length_singleton]

/-- Below ten, a digit denotes the number it was written for. -/
theorem digitValue_digitChar : ∀ d < 10, digitValue (Nat.digitChar d) = d := by
  decide +kernel

/-- Below ten, a number is written with an ASCII digit. -/
theorem isDigit_digitChar : ∀ d < 10, isDigit (Nat.digitChar d) = true := by
  decide +kernel

/-- A field of a width denotes the number modulo the matching power of ten. -/
theorem ofDigits_fixed (width n : Nat) : ofDigits 0 (fixed width n) = n % Nat.pow 10 width := by
  induction width generalizing n with
  | zero => simp only [fixed, ofDigits_nil, Nat.pow, Nat.mod_one]
  | succ width ih =>
    have hpow : Nat.pow 10 (width + 1) = 10 * Nat.pow 10 width := Nat.mul_comm _ _
    rw [fixed, ofDigits_append, ih, ofDigits_cons, ofDigits_nil,
      digitValue_digitChar _ (Nat.mod_lt _ (by decide)), hpow, Nat.mod_mul, Nat.add_comm]

theorem all_isDigit_fixed (width n : Nat) : (fixed width n).all isDigit = true := by
  induction width generalizing n with
  | zero => rfl
  | succ width ih =>
    simp only [fixed, List.all_append, ih, List.all_cons, List.all_nil, Bool.and_true,
      isDigit_digitChar _ (Nat.mod_lt _ (by decide))]

/-! ### Digits without leading zeros -/

theorem ofNat_eq (n : Nat) : ofNat n =
    if n < 10 then [Nat.digitChar n] else ofNat (n / 10) ++ [Nat.digitChar (n % 10)] :=
  Nat.toDigits_eq_if (by decide)

theorem ofNat_ne_nil (n : Nat) : ofNat n ≠ [] := Nat.toDigits_ne_nil

/-- The digits of a number denote it. -/
theorem ofDigits_ofNat (n : Nat) : ofDigits 0 (ofNat n) = n := by
  induction n using Nat.strongRecOn with
  | _ n ih =>
    rw [ofNat_eq]
    split
    · rename_i hlt
      rw [ofDigits_cons, ofDigits_nil, digitValue_digitChar n hlt]
      omega
    · rename_i hge
      rw [ofDigits_append, ih (n / 10) (by omega), ofDigits_cons, ofDigits_nil,
        digitValue_digitChar _ (Nat.mod_lt _ (by decide))]
      omega

theorem all_isDigit_ofNat (n : Nat) : (ofNat n).all isDigit = true := by
  induction n using Nat.strongRecOn with
  | _ n ih =>
    rw [ofNat_eq]
    split
    · rename_i hlt
      simp only [List.all_cons, List.all_nil, isDigit_digitChar n hlt, Bool.and_self]
    · rename_i hge
      simp only [List.all_append, ih (n / 10) (by omega), List.all_cons, List.all_nil,
        isDigit_digitChar _ (Nat.mod_lt n (by decide : 0 < 10)), Bool.and_self]

/-- A number other than zero has no leading zero. -/
theorem head?_ofNat {n : Nat} (h : 0 < n) : (ofNat n).head? ≠ some '0' := by
  induction n using Nat.strongRecOn with
  | _ n ih =>
    rw [ofNat_eq]
    split
    · rename_i hlt
      have hdigit : ∀ d < 10, 0 < d → Nat.digitChar d ≠ '0' := by decide +kernel
      exact fun heq => hdigit n hlt h (Option.some.inj heq)
    · rename_i hge
      have hhead := ih (n / 10) (by omega) (by omega)
      obtain ⟨c, cs, hcons⟩ := List.exists_cons_of_ne_nil (ofNat_ne_nil (n / 10))
      rw [hcons] at hhead ⊢
      exact hhead

end SignIn.Text

namespace SignIn.Hex

/-! ### Hexadecimal digits -/

/-- The digit for a value below sixteen. -/
def digit (n : Nat) : Char := Nat.digitChar (n % 16)

/-- The two digits of a byte. -/
def byte (b : UInt8) : List Char := [digit (b.toNat / 16), digit b.toNat]

/-- The digits of some bytes, two for each. -/
def encode (bytes : List UInt8) : String := String.ofList (bytes.flatMap byte)

/-- A number in hexadecimal without leading zeros; zero is `0`. -/
def ofNat (n : Nat) : String := String.ofList (Nat.toDigits 16 n)

/-- Whether a character is a lower-case hexadecimal digit. -/
def isDigit (c : Char) : Bool := ('0' ≤ c && c ≤ '9') || ('a' ≤ c && c ≤ 'f')

/-- The value of a hexadecimal digit of either case. -/
def value? (c : Char) : Option Nat :=
  if '0' ≤ c && c ≤ '9' then some (c.toNat - '0'.toNat)
  else if 'a' ≤ c && c ≤ 'f' then some (c.toNat - 'a'.toNat + 10)
  else if 'A' ≤ c && c ≤ 'F' then some (c.toNat - 'A'.toNat + 10)
  else none

/-- A digit has the value that it was written for. -/
theorem value?_digit (n : Nat) : value? (digit n) = some (n % 16) := by
  have hdigit : ∀ d < 16, value? (Nat.digitChar d) = some d := by decide +kernel
  exact hdigit (n % 16) (Nat.mod_lt n (by decide))

end SignIn.Hex

namespace SignIn.Text

/-! ### White space at the ends of a text -/

/-- The ranges of code points with the property `White_Space`, both ends included. -/
def blankRanges : List (Nat × Nat) :=
  [(0x9, 0xd), (0x20, 0x20), (0x85, 0x85), (0xa0, 0xa0), (0x1680, 0x1680), (0x2000, 0x200a),
    (0x2028, 0x2029), (0x202f, 0x202f), (0x205f, 0x205f), (0x3000, 0x3000)]

/-- Whether a code point lies in one of the given ranges. -/
def inRanges (ranges : List (Nat × Nat)) (n : Nat) : Bool :=
  ranges.any fun (first, last) => first ≤ n && n ≤ last

/-- Whether a character is white space. -/
def isBlank (c : Char) : Bool := inRanges blankRanges c.toNat

/-- Drops white space from the front. -/
def dropBlanks (cs : List Char) : List Char := cs.dropWhile isBlank

/-- Drops white space from both ends. -/
def trimList (cs : List Char) : List Char := (dropBlanks (dropBlanks cs).reverse).reverse

@[simp] theorem dropBlanks_nil : dropBlanks [] = [] := rfl

/-- White space is dropped up to the first character that is something else. -/
theorem dropBlanks_cons {c : Char} {cs : List Char} :
    dropBlanks (c :: cs) = if isBlank c then dropBlanks cs else c :: cs := by
  simp only [dropBlanks, List.dropWhile_cons]

end SignIn.Text
