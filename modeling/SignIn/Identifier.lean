import SignIn.Text.Integer

/-!
# Identifiers, secrets and their digests

An identifier is a random UUID of version 4, written as thirty-two hexadecimal digits without
hyphens; a secret is sixty-four random bytes, written as one hundred and twenty-eight. Where the
random bytes come from is up to the caller.

Identifiers and passwords are compared by their digests, so that a comparison takes the same work
whatever is compared. `Sha256.digest` maps any row of bytes to thirty-two bytes. The bytes are
padded to whole blocks of sixty-four, each block is cut into sixteen big-endian words, and each
block stirs the eight words of the state in sixty-four rounds. Only the last sixteen words of the
schedule are kept while the rounds go on: a round uses the first of them, drops it, and appends the
word for sixteen rounds later.
-/

namespace SignIn.Sha256

/-- The round constants: the first bits of the fractional parts of the cube roots of the first
sixty-four primes. -/
def roundConstants : List UInt32 := [
  0x428a2f98, 0x71374491, 0xb5c0fbcf, 0xe9b5dba5, 0x3956c25b, 0x59f111f1, 0x923f82a4, 0xab1c5ed5,
  0xd807aa98, 0x12835b01, 0x243185be, 0x550c7dc3, 0x72be5d74, 0x80deb1fe, 0x9bdc06a7, 0xc19bf174,
  0xe49b69c1, 0xefbe4786, 0x0fc19dc6, 0x240ca1cc, 0x2de92c6f, 0x4a7484aa, 0x5cb0a9dc, 0x76f988da,
  0x983e5152, 0xa831c66d, 0xb00327c8, 0xbf597fc7, 0xc6e00bf3, 0xd5a79147, 0x06ca6351, 0x14292967,
  0x27b70a85, 0x2e1b2138, 0x4d2c6dfc, 0x53380d13, 0x650a7354, 0x766a0abb, 0x81c2c92e, 0x92722c85,
  0xa2bfe8a1, 0xa81a664b, 0xc24b8b70, 0xc76c51a3, 0xd192e819, 0xd6990624, 0xf40e3585, 0x106aa070,
  0x19a4c116, 0x1e376c08, 0x2748774c, 0x34b0bcb5, 0x391c0cb3, 0x4ed8aa4a, 0x5b9cca4f, 0x682e6ff3,
  0x748f82ee, 0x78a5636f, 0x84c87814, 0x8cc70208, 0x90befffa, 0xa4506ceb, 0xbef9a3f7, 0xc67178f2]

/-- The eight words that the blocks stir. -/
structure State where
  a : UInt32
  b : UInt32
  c : UInt32
  d : UInt32
  e : UInt32
  f : UInt32
  g : UInt32
  h : UInt32
  deriving DecidableEq, Repr

/-- The state before the first block: the first bits of the fractional parts of the square roots
of the first eight primes. -/
def State.start : State :=
  ⟨0x6a09e667, 0xbb67ae85, 0x3c6ef372, 0xa54ff53a, 0x510e527f, 0x9b05688c, 0x1f83d9ab, 0x5be0cd19⟩

/-- The words of the state in order. -/
def State.words (s : State) : List UInt32 := [s.a, s.b, s.c, s.d, s.e, s.f, s.g, s.h]

/-- Word by word addition. -/
def State.add (s t : State) : State :=
  ⟨s.a + t.a, s.b + t.b, s.c + t.c, s.d + t.d, s.e + t.e, s.f + t.f, s.g + t.g, s.h + t.h⟩

/-- Rotation to the right. -/
def rotate (x : UInt32) (n : UInt32) : UInt32 := (x >>> n) ||| (x <<< (32 - n))

/-- One round with its constant `k` and its schedule word `w`. -/
def State.round (s : State) (k w : UInt32) : State :=
  let mixE := rotate s.e 6 ^^^ rotate s.e 11 ^^^ rotate s.e 25
  let choice := (s.e &&& s.f) ^^^ ((~~~ s.e) &&& s.g)
  let t := s.h + mixE + choice + k + w
  let mixA := rotate s.a 2 ^^^ rotate s.a 13 ^^^ rotate s.a 22
  let majority := (s.a &&& s.b) ^^^ (s.a &&& s.c) ^^^ (s.b &&& s.c)
  ⟨t + (mixA + majority), s.a, s.b, s.c, s.d + t, s.e, s.f, s.g⟩

/-- The schedule word that follows sixteen others. -/
def nextWord (window : List UInt32) : UInt32 :=
  let early := window.getD 1 0
  let late := window.getD 14 0
  let mixEarly := rotate early 7 ^^^ rotate early 18 ^^^ (early >>> 3)
  let mixLate := rotate late 17 ^^^ rotate late 19 ^^^ (late >>> 10)
  window.getD 0 0 + mixEarly + window.getD 9 0 + mixLate

/-- All rounds of a block, from the sixteen words of the block. -/
def State.rounds (s : State) (window : List UInt32) : List UInt32 → State
  | [] => s
  | k :: ks => (s.round k (window.getD 0 0)).rounds (window.tail ++ [nextWord window]) ks

/-- The state after a block of sixteen words. -/
def State.block (s : State) (words : List UInt32) : State :=
  s.add (s.rounds words roundConstants)

/-- The bytes of a number, the most significant first, in a field of the given width. -/
def bigEndian : (width : Nat) → Nat → List UInt8
  | 0, _ => []
  | width + 1, n => bigEndian width (n / 256) ++ [UInt8.ofNat (n % 256)]

/-- The word made of four bytes. -/
def word (b₁ b₂ b₃ b₄ : UInt8) : UInt32 :=
  (b₁.toUInt32 <<< 24) ||| (b₂.toUInt32 <<< 16) ||| (b₃.toUInt32 <<< 8) ||| b₄.toUInt32

/-- The words of a row of bytes, four bytes each. -/
def words : List UInt8 → List UInt32
  | b₁ :: b₂ :: b₃ :: b₄ :: rest => word b₁ b₂ b₃ b₄ :: words rest
  | _ => []

/-- The bytes with a one bit, zeros, and the count of bits in eight bytes: whole blocks. -/
def pad (bytes : List UInt8) : List UInt8 :=
  bytes ++ 0x80 :: List.replicate ((119 - bytes.length % 64) % 64) 0
    ++ bigEndian 8 (8 * bytes.length)

/-- The state after as many blocks of sixteen words as the count says. -/
def State.blocks (s : State) : (count : Nat) → List UInt32 → State
  | 0, _ => s
  | count + 1, ws => (s.block (ws.take 16)).blocks count (ws.drop 16)

/-- The digest of some bytes: thirty-two bytes. -/
def digest (bytes : List UInt8) : List UInt8 :=
  let ws := words (pad bytes)
  (State.start.blocks (ws.length / 16) ws).words.flatMap fun w => bigEndian 4 w.toNat

end SignIn.Sha256

namespace SignIn

/-- Whether two rows of bytes have the same digest. The digests have one length, so comparing
them takes the same work whatever the two rows are. -/
def sameDigest (a b : List UInt8) : Bool := Sha256.digest a == Sha256.digest b

/-- The bytes of a text in UTF-8. -/
def utf8 (s : String) : List UInt8 := s.toUTF8.toList

/-- Whether two texts have the same digest. -/
def sameDigestText (a b : String) : Bool := sameDigest (utf8 a) (utf8 b)

/-- Rows of bytes that are equal have the same digest. -/
@[simp] theorem sameDigest_self (a : List UInt8) : sameDigest a a = true := by
  simp only [sameDigest, BEq.rfl]

/-! ### Texts by their digests -/

/-- Two rows of bytes do not collide: they are the same if their digests are. -/
def Sha256.TellsApart (a b : List UInt8) : Prop := digest a = digest b → a = b

instance (a b : List UInt8) : Decidable (Sha256.TellsApart a b) :=
  inferInstanceAs (Decidable (_ → _))

private theorem toList_loop (bytes : ByteArray) (i : Nat) (acc : List UInt8) :
    ByteArray.toList.loop bytes i acc = acc.reverse ++ bytes.data.toList.drop i := by
  fun_induction ByteArray.toList.loop bytes i acc with
  | case1 i acc hlt ih =>
    have hi : i < bytes.data.toList.length := hlt
    have hget : bytes.get! i = bytes.data.toList[i] := getElem!_pos bytes.data i hi
    rw [ih, List.drop_eq_getElem_cons hi, List.reverse_cons, List.append_assoc, hget,
      List.singleton_append]
  | case2 i acc hge =>
    have hle : bytes.data.toList.length ≤ i := Nat.le_of_not_lt hge
    rw [List.drop_eq_nil_of_le hle, List.append_nil]

/-- Texts with the same bytes are the same. -/
theorem utf8_injective {s t : String} (h : utf8 s = utf8 t) : s = t := by
  have hdata : s.toUTF8.data.toList = t.toUTF8.data.toList := by
    simpa only [utf8, ByteArray.toList, toList_loop, List.reverse_nil, List.nil_append,
      List.drop_zero] using h
  exact String.toByteArray_inj.1 (ByteArray.ext (Array.toList_inj.1 hdata))

/-- Texts that do not collide have the same digest just if they are the same. -/
theorem sameDigestText_iff {s t : String} (h : Sha256.TellsApart (utf8 s) (utf8 t)) :
    sameDigestText s t = true ↔ s = t := by
  constructor
  · intro hsame
    exact utf8_injective (h (beq_iff_eq.1 hsame))
  · rintro rfl
    exact sameDigest_self _

/-! ### Identifiers and secrets -/

/-- The number of random bytes that an identifier takes. -/
def identifierBytes : Nat := 16

/-- The number of random bytes that a secret takes. -/
def secretBytes : Nat := 64

/-- Sets the bits of a UUID that say its version and its variant. -/
def stampUuid : List UInt8 → List UInt8
  | b₀ :: b₁ :: b₂ :: b₃ :: b₄ :: b₅ :: b₆ :: b₇ :: b₈ :: rest =>
    b₀ :: b₁ :: b₂ :: b₃ :: b₄ :: b₅ :: ((b₆ &&& 0x0f) ||| 0x40) :: b₇
      :: ((b₈ &&& 0x3f) ||| 0x80) :: rest
  | bytes => bytes

/-- The identifier made of sixteen random bytes. -/
def identifierOf (random : List UInt8) : String := Hex.encode (stampUuid random)

/-- The secret made of sixty-four random bytes. -/
def secretOf (random : List UInt8) : String := Hex.encode random

/-- Whether a text looks like an identifier. -/
def isIdentifier (s : String) : Bool := s.length == 32 && s.toList.all Hex.isDigit

/-- Whether a text looks like a secret. -/
def isSecret (s : String) : Bool := s.length == 128 && s.toList.all Hex.isDigit

end SignIn
