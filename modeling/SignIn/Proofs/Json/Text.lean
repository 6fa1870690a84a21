import Mathlib.Data.List.TakeDrop
import SignIn.Json.Printer
import SignIn.Json.Reader

/-!
# A text holds its value

`Json.parse?_render`: the text of a value is read as that value. The value has to be one that a
text can hold (`Json.Fits`): its objects are in order, its numbers are whole and have sixty-four
bits, and it does not nest too deep for the reader.

Each part of a value ends where a mark comes or the text is over (`Reader.IsEnd`), so that each
reader gives back the part that was written and what comes after it.
-/

namespace SignIn.Json

/-- Values that a text can hold, nesting no deeper than the given number. -/
inductive Fits : Nat → Json → Prop
  | null {depth : Nat} : Fits depth .null
  | bool {depth : Nat} (b : Bool) : Fits depth (.bool b)
  | integer {depth : Nat} {n : Int} (hlow : -9223372036854775808 ≤ n)
      (hhigh : n < 18446744073709551616) : Fits depth (.number (.integer n))
  | text {depth : Nat} (s : String) : Fits depth (.text s)
  | array {depth : Nat} {items : List Json} (h : ∀ x ∈ items, Fits depth x) :
      Fits (depth + 1) (.array items)
  | object {depth : Nat} {members : List (String × Json)} (hsorted : Table.IsSorted members)
      (h : ∀ m ∈ members, Fits depth m.2) : Fits (depth + 1) (.object members)

theorem Fits.ofOption {depth : Nat} : ∀ s : Option String, Fits depth (.ofOption s)
  | none => .null
  | some s => .text s

/-- An array of what some values are written as. -/
theorem Fits.map {α : Type} {depth : Nat} {write : α → Json} {as : List α}
    (h : ∀ a ∈ as, Fits depth (write a)) : Fits (depth + 1) (.array (as.map write)) :=
  .array fun _ hx => by
    obtain ⟨a, ha, rfl⟩ := List.mem_map.1 hx
    exact h a ha

/-- An object made of values that fit, whatever the order they are given in. -/
theorem Fits.record {depth : Nat} {members : List (String × Json)}
    (h : ∀ m ∈ members, Fits depth m.2) : Fits (depth + 1) (.record members) :=
  .object (Table.isSorted_ofList members) fun m hm => h m (Table.mem_of_mem_ofList hm)

namespace Reader

/-! ### Texts -/

/-- The characters below 32 are read from the four digits that they are written with. -/
private theorem escapedUnit?_control {c : Char} (h : c.toNat < 32) (rest : List Char) :
    escapedUnit? ('0' :: '0' :: Hex.digit (c.toNat / 16) :: Hex.digit c.toNat :: rest)
      = some (c, rest) := by
  have hzero : Hex.value? '0' = some 0 := rfl
  have hunit : ((0 * 16 + 0) * 256 + (c.toNat / 16 % 16 * 16 + c.toNat % 16)) = c.toNat := by omega
  simp only [escapedUnit?, unit?, hzero, Hex.value?_digit, bind, Option.bind, hunit,
    Char.ofNat_toNat]
  rw [if_pos (Or.inl (by omega))]

/-- A character is read as it was written in a text. -/
private theorem textFrom?_escapeChar (acc : List Char) (c : Char) (fuel : Nat) (rest : List Char) :
    textFrom? acc (fuel + 1) (escapeChar c ++ rest) = textFrom? (c :: acc) fuel rest := by
  unfold escapeChar
  iterate 5
    split
    · rename_i h
      subst h
      rfl
  split
  · rename_i h
    obtain rfl : c = '\x08' := Char.toNat_inj.1 h
    rfl
  split
  · rename_i h
    obtain rfl : c = '\x0c' := Char.toNat_inj.1 h
    rfl
  split
  · rename_i h
    have hescape := escapedUnit?_control h rest
    simp only [List.cons_append, List.nil_append, textFrom?, escape?, hescape, bind, Option.bind]
  · rename_i hquote hbackslash _ _ _ _ _ hcontrol
    rw [List.singleton_append, textFrom?]
    · exact if_neg hcontrol
    · exact hquote
    · exact hbackslash

/-- A text is read up to its closing quote. -/
private theorem textFrom?_escaped (acc cs rest : List Char) {fuel : Nat} (h : cs.length < fuel) :
    textFrom? acc fuel (cs.flatMap escapeChar ++ '"' :: rest)
      = some (String.ofList (acc.reverse ++ cs), rest) := by
  induction cs generalizing acc fuel with
  | nil =>
    obtain ⟨fuel, rfl⟩ := Nat.exists_eq_add_one.2 h
    simp only [List.flatMap_nil, List.nil_append, textFrom?, List.append_nil]
  | cons c cs ih =>
    obtain ⟨fuel, rfl⟩ := Nat.exists_eq_add_one.2 (Nat.zero_lt_of_lt h)
    rw [List.flatMap_cons, List.append_assoc, textFrom?_escapeChar,
      ih (c :: acc) (Nat.lt_of_succ_lt_succ h), List.reverse_cons, List.append_assoc,
      List.singleton_append]

/-- Where each item gives something, there is room for all of them. -/
private theorem length_le_length_flatMap {α β : Type} {f : α → List β} (h : ∀ a, f a ≠ [])
    (as : List α) : as.length ≤ (as.flatMap f).length := by
  induction as with
  | nil => exact Nat.le_refl _
  | cons a as ih =>
    rw [List.flatMap_cons, List.length_append, List.length_cons, Nat.add_comm]
    exact Nat.add_le_add (List.length_pos_iff.2 (h a)) ih

private theorem escapeChar_ne_nil (c : Char) : escapeChar c ≠ [] := by
  unfold escapeChar
  repeat' split
  all_goals exact List.cons_ne_nil _ _

/-- The text that was written is read after its opening quote. -/
private theorem text?_escaped (s : String) (rest : List Char) :
    text? (s.toList.flatMap escapeChar ++ '"' :: rest) = some (s, rest) := by
  have hlength := length_le_length_flatMap escapeChar_ne_nil s.toList
  rw [text?, textFrom?_escaped]
  · rw [List.reverse_nil, List.nil_append, String.ofList_toList]
  · rw [List.length_append, List.length_cons]
    omega

/-! ### Numbers -/

/-- A value can end here: the text is over, or a mark of an array or an object comes. -/
def IsEnd : List Char → Prop
  | [] => True
  | c :: _ => c = ',' ∨ c = ']' ∨ c = '\x7d'

private theorem digits_append {ds rest : List Char} (hds : ds.all Text.isDigit = true)
    (hrest : IsEnd rest) : digits (ds ++ rest) = (ds, rest) := by
  have hend : rest.takeWhile Text.isDigit = [] ∧ rest.dropWhile Text.isDigit = rest := by
    cases rest with
    | nil => exact ⟨rfl, rfl⟩
    | cons c rest => rcases hrest with rfl | rfl | rfl <;> exact ⟨rfl, rfl⟩
  rw [List.all_eq_true] at hds
  rw [digits, List.span_eq_takeWhile_dropWhile, List.takeWhile_append_of_pos hds,
    List.dropWhile_append_of_pos hds, hend.1, hend.2, List.append_nil]

private theorem fraction?_of_isEnd {rest : List Char} (h : IsEnd rest) :
    fraction? rest = some (none, rest) := by
  cases rest with
  | nil => rfl
  | cons c rest => rcases h with rfl | rfl | rfl <;> rfl

private theorem exponent?_of_isEnd {rest : List Char} (h : IsEnd rest) :
    exponent? rest = some (none, rest) := by
  cases rest with
  | nil => rfl
  | cons c rest => rcases h with rfl | rfl | rfl <;> rfl

/-- The digits of a whole number are read as that number. -/
private theorem unsigned?_ofNat (negative : Bool) {n : Nat} {x : JsonNumber}
    (hx : whole? negative (Text.ofNat n) = some x) {rest : List Char} (hrest : IsEnd rest) :
    unsigned? negative (Text.ofNat n ++ rest) = some (x, rest) := by
  have hne : (Text.ofNat n).isEmpty = false :=
    Bool.eq_false_iff.2 (mt List.isEmpty_iff.1 (Text.ofNat_ne_nil n))
  have hzero : ¬ (1 < (Text.ofNat n).length ∧ (Text.ofNat n).head? = some '0') := by
    rintro ⟨hlength, hhead⟩
    rcases Nat.eq_zero_or_pos n with rfl | hpos
    · exact absurd hlength (by decide)
    · exact Text.head?_ofNat hpos hhead
  simp only [unsigned?, digits_append (Text.all_isDigit_ofNat n) hrest, hne,
    fraction?_of_isEnd hrest, exponent?_of_isEnd hrest, hx, bind, Option.bind, Option.map_some,
    Bool.false_eq_true, false_or, if_neg hzero]

/-- What an integer begins with. -/
def IsNumeric (c : Char) : Prop := c = '-' ∨ Text.isDigit c = true

private theorem IsNumeric.ne {c d : Char} (h : IsNumeric c) (hminus : d ≠ '-')
    (hdigit : Text.isDigit d = false) : c ≠ d := by
  rintro rfl
  rcases h with rfl | hc
  · exact hminus rfl
  · rw [hdigit] at hc
    cases hc

private theorem exists_ofInt_eq_cons (n : Int) :
    ∃ c cs, (Text.ofInt n).toList = c :: cs ∧ IsNumeric c := by
  rw [Text.ofInt, String.toList_ofList]
  split
  · exact ⟨'-', _, rfl, Or.inl rfl⟩
  · obtain ⟨d, ds, hcons⟩ := List.exists_cons_of_ne_nil (Text.ofNat_ne_nil n.natAbs)
    have hds := Text.all_isDigit_ofNat n.natAbs
    rw [hcons, List.all_cons, Bool.and_eq_true] at hds
    exact ⟨d, ds, hcons, Or.inr hds.1⟩

private theorem number?_ofNat (n : Nat) (rest : List Char) :
    number? (Text.ofNat n ++ rest) = unsigned? false (Text.ofNat n ++ rest) := by
  obtain ⟨d, ds, hcons⟩ := List.exists_cons_of_ne_nil (Text.ofNat_ne_nil n)
  have hds := Text.all_isDigit_ofNat n
  rw [hcons, List.all_cons, Bool.and_eq_true] at hds
  rw [hcons, List.cons_append, number?]
  intro _ heq
  exact absurd ((List.cons.inj heq).1 ▸ hds.1) (by decide)

/-- A whole number of sixty-four bits is read as it was written. -/
private theorem number?_ofInt {n : Int} (hlow : -9223372036854775808 ≤ n)
    (hhigh : n < 18446744073709551616) {rest : List Char} (hrest : IsEnd rest) :
    number? ((Text.ofInt n).toList ++ rest) = some (.integer n, rest) := by
  have hsize : UInt64.size = 18446744073709551616 := rfl
  rw [Text.ofInt, String.toList_ofList]
  split
  · have hwhole : whole? true (Text.ofNat n.natAbs) = some (.integer n) := by
      have hn : -(n.natAbs : Int) = n := by omega
      have hfits : 0 < n.natAbs ∧ n.natAbs ≤ UInt64.size / 2 := by omega
      simp only [whole?, Text.ofDigits_ofNat, Bool.not_true, Bool.false_and, Bool.true_and,
        Bool.false_eq_true, if_false, Bool.and_eq_true, decide_eq_true_eq, if_pos hfits, hn]
    exact unsigned?_ofNat true hwhole hrest
  · have hwhole : whole? false (Text.ofNat n.natAbs) = some (.integer n) := by
      have hn : (n.natAbs : Int) = n := by omega
      have hfits : n.natAbs < UInt64.size := by omega
      simp only [whole?, Text.ofDigits_ofNat, Bool.not_false, Bool.true_and, decide_eq_true_eq,
        if_pos hfits, hn]
    rw [number?_ofNat]
    exact unsigned?_ofNat false hwhole hrest

/-! ### Values -/

/-- A value can begin with the character: it is neither white space nor the end of an array. -/
def opens (c : Char) : Bool := !(c == ' ' || c == '\n' || c == '\r' || c == '\t' || c == ']')

private theorem skip_cons {c : Char} (h : opens c = true) (cs : List Char) :
    skip (c :: cs) = c :: cs := by
  simp only [opens, Bool.not_eq_true', Bool.or_eq_false_iff] at h
  obtain ⟨⟨⟨⟨h₁, h₂⟩, h₃⟩, h₄⟩, -⟩ := h
  rw [skip, List.dropWhile_cons_of_neg]
  simp only [h₁, h₂, h₃, h₄, Bool.or_self, Bool.false_eq_true, not_false_eq_true]

private theorem IsNumeric.opens {c : Char} (h : IsNumeric c) : opens c = true := by
  simp only [Reader.opens, Bool.not_eq_true', Bool.or_eq_false_iff, beq_eq_false_iff_ne]
  exact ⟨⟨⟨⟨h.ne (by decide) rfl, h.ne (by decide) rfl⟩, h.ne (by decide) rfl⟩,
    h.ne (by decide) rfl⟩, h.ne (by decide) rfl⟩

private theorem value?_of_isNumeric {c : Char} (h : IsNumeric c) (depth : Nat) (cs : List Char) :
    value? depth (c :: cs) = (number? (c :: cs)).map fun (n, rest) => (.number n, rest) := by
  rw [value?, skip_cons h.opens]
  split
  case h_7 => rfl
  all_goals
    rename_i heq
    exact absurd (List.cons.inj heq).1 (h.ne (by decide) rfl)

/-- An array that does not end at once has items. -/
private theorem value?_of_items (depth : Nat) {c : Char} (h : opens c = true) (cs : List Char) :
    value? (depth + 1) ('[' :: c :: cs) =
      (items? (value? depth) [] (c :: cs).length (c :: cs)).map
        fun (xs, rest) => (.array xs, rest) := by
  have hbracket := skip_cons (show opens '[' = true from rfl)
  rw [value?, hbracket]
  simp only [skip_cons h]
  split
  · rename_i hdepth
    cases hdepth
  · rename_i heq
    obtain ⟨rfl, -⟩ := List.cons.inj heq
    cases h
  · rename_i hdepth _
    cases Nat.succ.inj hdepth
    rfl

/-- An object that does not end at once has members, which begin with a quote. -/
private theorem value?_of_members (depth : Nat) (cs : List Char) :
    value? (depth + 1) ('\x7b' :: '"' :: cs) =
      (members? (value? depth) [] ('"' :: cs).length ('"' :: cs)).map
        fun (ms, rest) => (.record ms, rest) := by
  have hbrace := skip_cons (show opens '\x7b' = true from rfl)
  have hquote := skip_cons (show opens '"' = true from rfl)
  rw [value?, hbrace]
  simp only [hquote]
  rfl

private theorem toList_intercalate (s : String) (ss : List String) :
    (",".intercalate (s :: ss)).toList = s.toList ++ ss.flatMap fun t => ',' :: t.toList := by
  induction ss generalizing s with
  | nil => rw [String.intercalate_singleton, List.flatMap_nil, List.append_nil]
  | cons t ss ih =>
    have hcomma : ",".toList = [','] := rfl
    rw [String.intercalate_cons_cons, String.toList_append, String.toList_append, ih, hcomma,
      List.flatMap_cons, List.append_assoc, List.singleton_append, List.cons_append]

private theorem toList_renderText (s : String) :
    (renderText s).toList = '"' :: (s.toList.flatMap escapeChar ++ ['"']) := by
  rw [renderText, String.toList_ofList, List.cons_append]

/-- Every value begins with a character that can begin one. -/
private theorem exists_render_eq_cons {depth : Nat} {json : Json} (h : Fits depth json) :
    ∃ c cs, json.render.toList = c :: cs ∧ opens c = true := by
  cases h with
  | null => exact ⟨'n', _, rfl, rfl⟩
  | bool b => cases b <;> exact ⟨_, _, rfl, rfl⟩
  | @integer _ n _ _ =>
    obtain ⟨c, cs, hcons, hc⟩ := exists_ofInt_eq_cons n
    exact ⟨c, cs, hcons, hc.opens⟩
  | text s => exact ⟨'"', _, toList_renderText s, rfl⟩
  | array _ => exact ⟨'[', _, by simp only [render, String.toList_append]; rfl, rfl⟩
  | object _ _ => exact ⟨'\x7b', _, by simp only [render, String.toList_append]; rfl, rfl⟩

section Rows

variable {read : List Char → Option (Json × List Char)}

/-- Items are read from the text of an array after its opening bracket. -/
private theorem items?_render {x : Json} {xs : List Json}
    (hread : ∀ y ∈ x :: xs, ∀ rest, IsEnd rest → read (y.render.toList ++ rest) = some (y, rest))
    (acc : List Json) {fuel : Nat} (hfuel : xs.length < fuel) (rest : List Char) :
    items? read acc fuel
        (x.render.toList ++ ((xs.flatMap fun y => ',' :: y.render.toList) ++ ']' :: rest))
      = some (acc.reverse ++ x :: xs, rest) := by
  induction xs generalizing x acc fuel with
  | nil =>
    obtain ⟨fuel, rfl⟩ := Nat.exists_eq_add_one.2 hfuel
    have hx := hread x List.mem_cons_self (']' :: rest) (Or.inr (Or.inl rfl))
    refine Option.bind_eq_some_iff.2 ⟨_, hx, ?_⟩
    exact congrArg (fun items => some (items, rest)) List.reverse_cons
  | cons y ys ih =>
    obtain ⟨fuel, rfl⟩ := Nat.exists_eq_add_one.2 (Nat.zero_lt_of_lt hfuel)
    have hrest := ih (fun z hz => hread z (List.mem_cons_of_mem _ hz)) (x :: acc)
      (Nat.lt_of_succ_lt_succ hfuel)
    rw [List.reverse_cons, List.append_assoc, List.singleton_append] at hrest
    rw [List.flatMap_cons, List.append_assoc, List.cons_append]
    exact Option.bind_eq_some_iff.2 ⟨_, hread x List.mem_cons_self _ (Or.inl rfl), hrest⟩

/-- A member of an object, as it is written. -/
def memberText (m : String × Json) : String := renderText m.1 ++ ":" ++ m.2.render

private theorem toList_memberText (m : String × Json) :
    (memberText m).toList
      = '"' :: (m.1.toList.flatMap escapeChar ++ '"' :: ':' :: m.2.render.toList) := by
  have hcolon : ":".toList = [':'] := rfl
  simp only [memberText, String.toList_append, toList_renderText, hcolon, List.cons_append,
    List.append_assoc, List.nil_append]

/-- One member is read. After a comma comes another one, and after a brace none. -/
private theorem members?_memberText {m : String × Json}
    (hread : ∀ rest, IsEnd rest → read (m.2.render.toList ++ rest) = some (m.2, rest))
    (acc : List (String × Json)) (fuel : Nat) (rest : List Char) :
    members? read acc (fuel + 1) ((memberText m).toList ++ ',' :: rest)
        = members? read (m :: acc) fuel rest ∧
      members? read acc (fuel + 1) ((memberText m).toList ++ '\x7d' :: rest)
        = some ((m :: acc).reverse, rest) := by
  have hquote := skip_cons (show opens '"' = true from rfl)
  have hcolon := skip_cons (show opens ':' = true from rfl)
  have hcomma := skip_cons (show opens ',' = true from rfl) rest
  have hbrace := skip_cons (show opens '\x7d' = true from rfl) rest
  have hnext := hread (',' :: rest) (Or.inl rfl)
  have hlast := hread ('\x7d' :: rest) (Or.inr (Or.inr rfl))
  constructor <;>
    simp only [toList_memberText, List.cons_append, List.append_assoc, members?, hquote, hcolon,
      text?_escaped, hnext, hlast, hcomma, hbrace, bind, Option.bind]

/-- Members are read from the text of an object after its opening brace. -/
private theorem members?_render {m : String × Json} {ms : List (String × Json)}
    (hread : ∀ e ∈ m :: ms, ∀ rest, IsEnd rest →
      read (e.2.render.toList ++ rest) = some (e.2, rest))
    (acc : List (String × Json)) {fuel : Nat} (hfuel : ms.length < fuel) (rest : List Char) :
    members? read acc fuel ((memberText m).toList
        ++ ((ms.flatMap fun e => ',' :: (memberText e).toList) ++ '\x7d' :: rest))
      = some (acc.reverse ++ m :: ms, rest) := by
  induction ms generalizing m acc fuel with
  | nil =>
    obtain ⟨fuel, rfl⟩ := Nat.exists_eq_add_one.2 hfuel
    rw [List.flatMap_nil, List.nil_append,
      (members?_memberText (hread m List.mem_cons_self) acc fuel rest).2]
    exact congrArg (fun members => some (members, rest)) List.reverse_cons
  | cons e es ih =>
    obtain ⟨fuel, rfl⟩ := Nat.exists_eq_add_one.2 (Nat.zero_lt_of_lt hfuel)
    have hrest := ih (fun e he => hread e (List.mem_cons_of_mem _ he)) (m :: acc)
      (Nat.lt_of_succ_lt_succ hfuel)
    rw [List.reverse_cons, List.append_assoc, List.singleton_append] at hrest
    rw [List.flatMap_cons, List.append_assoc, List.cons_append,
      (members?_memberText (hread m List.mem_cons_self) acc fuel _).1]
    exact hrest

end Rows

/-- The text of an array that is not empty. -/
private theorem toList_render_array (x : Json) (xs : List Json) :
    (Json.array (x :: xs)).render.toList
      = '[' :: (x.render.toList ++ ((xs.flatMap fun y => ',' :: y.render.toList) ++ [']'])) := by
  have hopen : "[".toList = ['['] := rfl
  have hclose : "]".toList = [']'] := rfl
  rw [render, renderItems_eq_map, List.map_cons, String.toList_append, String.toList_append,
    toList_intercalate, List.flatMap_map, hopen, hclose, List.append_assoc, List.append_assoc,
    List.singleton_append]

/-- The text of an object that is not empty. -/
private theorem toList_render_object (m : String × Json) (ms : List (String × Json)) :
    (Json.object (m :: ms)).render.toList = '\x7b' :: ((memberText m).toList
      ++ ((ms.flatMap fun e => ',' :: (memberText e).toList) ++ ['\x7d'])) := by
  have hopen : "\x7b".toList = ['\x7b'] := rfl
  have hclose : "\x7d".toList = ['\x7d'] := rfl
  rw [render, renderMembers_eq_map, List.map_cons, String.toList_append, String.toList_append,
    toList_intercalate, List.flatMap_map, hopen, hclose, List.append_assoc, List.append_assoc,
    List.singleton_append]
  rfl

private theorem value?_render {depth : Nat} {json : Json} (h : Fits depth json) {rest : List Char}
    (hrest : IsEnd rest) : value? depth (json.render.toList ++ rest) = some (json, rest) := by
  induction h generalizing rest with
  | null =>
    rw [value?]
    rfl
  | bool b => cases b <;> (rw [value?]; rfl)
  | @integer depth n hlow hhigh =>
    obtain ⟨c, cs, hcons, hc⟩ := exists_ofInt_eq_cons n
    have hread := number?_ofInt hlow hhigh hrest
    rw [hcons, List.cons_append] at hread
    rw [render, renderNumber, hcons, List.cons_append, value?_of_isNumeric hc, hread,
      Option.map_some]
  | text s =>
    have hquote := skip_cons (show opens '"' = true from rfl)
    rw [render, toList_renderText, List.cons_append, List.append_assoc, List.singleton_append,
      value?, hquote]
    simp only [text?_escaped, Option.map_some]
  | @array depth items hitems ih =>
    cases items with
    | nil =>
      rw [value?]
      rfl
    | cons x xs =>
      obtain ⟨c, cs, hcons, hc⟩ := exists_render_eq_cons (hitems x List.mem_cons_self)
      -- the fuel is the length of what is left, and every item takes a character at least
      have hroom := length_le_length_flatMap (fun y => List.cons_ne_nil ',' (y.render.toList)) xs
      rw [toList_render_array]
      simp only [List.cons_append, List.append_assoc, List.nil_append]
      rw [hcons, List.cons_append, value?_of_items depth hc, ← List.cons_append, ← hcons,
        items?_render (fun y hy rest hrest => ih y hy hrest)]
      · rfl
      · simp only [List.length_append, List.length_cons]
        omega
  | @object depth members hsorted hmembers ih =>
    cases members with
    | nil =>
      rw [value?]
      rfl
    | cons m ms =>
      have hroom := length_le_length_flatMap
        (fun e => List.cons_ne_nil ',' ((memberText e).toList)) ms
      have hquote := toList_memberText m
      rw [toList_render_object]
      simp only [List.cons_append, List.append_assoc, List.nil_append]
      rw [hquote, List.cons_append, value?_of_members, ← List.cons_append, ← hquote,
        members?_render (fun e he rest hrest => ih e he hrest)]
      · exact congrArg (fun ms => some (Json.object ms, rest)) hsorted.ofList_eq
      · simp only [List.length_append, List.length_cons]
        omega

end Reader

/-- **The text of a value is read as that value.** -/
theorem parse?_render {json : Json} (h : Fits 127 json) : parse? json.render = some json := by
  have hread : Reader.value? 127 (json.render.toList ++ []) = some (json, []) :=
    Reader.value?_render h trivial
  rw [List.append_nil] at hread
  rw [parse?, hread]
  rfl

end SignIn.Json
