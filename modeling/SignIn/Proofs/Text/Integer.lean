import Mathlib.Data.List.Induction
import SignIn.Text.Integer

/-!
# What an integer looks like in a text

`Text.Numeral` and `Text.Written` are a grammar for integers in decimal, and `Text.Denotes` allows
white space around them. `Text.integer?` reads what the grammar describes and nothing else
(`Text.integer?_eq_some_iff`); after `Text.trimList` it reads what denotes an integer
(`Text.integer?_trimList_eq_some_iff`). Therefore a text denotes one integer at most
(`Text.Denotes.unique`).
-/

namespace SignIn.Text

/-! ### The grammar -/

/-- A row of digits, and the number that it denotes in base ten. It may begin with zeros. -/
inductive Numeral : List Char → Nat → Prop
  | digit {d : Nat} (hd : d < 10) : Numeral [Nat.digitChar d] d
  | concat {cs : List Char} {n d : Nat} (h : Numeral cs n) (hd : d < 10) :
      Numeral (cs ++ [Nat.digitChar d]) (10 * n + d)

/-- A numeral, perhaps with a sign in front, and the integer that it denotes. -/
inductive Written : List Char → Int → Prop
  | bare {cs : List Char} {n : Nat} (h : Numeral cs n) : Written cs n
  | plus {cs : List Char} {n : Nat} (h : Numeral cs n) : Written ('+' :: cs) n
  | minus {cs : List Char} {n : Nat} (h : Numeral cs n) : Written ('-' :: cs) (-n)

/-- The characters with the property `White_Space`. -/
def whiteSpace : List Char :=
  ['\t', '\n', '\x0b', '\x0c', '\r', ' ', '\u0085', '\u00a0', '\u1680', '\u2000', '\u2001',
    '\u2002', '\u2003', '\u2004', '\u2005', '\u2006', '\u2007', '\u2008', '\u2009', '\u200a',
    '\u2028', '\u2029', '\u202f', '\u205f', '\u3000']

/-- A text that holds a written integer, and white space at most around it. -/
def Denotes (s : String) (z : Int) : Prop :=
  ∃ front cs back, s.toList = front ++ (cs ++ back) ∧ Written cs z ∧
    (∀ c ∈ front, c ∈ whiteSpace) ∧ ∀ c ∈ back, c ∈ whiteSpace

/-! ### Digits -/

private theorem isDigit_iff_toNat {c : Char} : isDigit c = true ↔ 48 ≤ c.toNat ∧ c.toNat ≤ 57 := by
  simp only [isDigit, Bool.and_eq_true, decide_eq_true_eq, Char.le_def, UInt32.le_iff_toNat_le]
  exact Iff.rfl

/-- The digits are the characters that the numbers below ten are written with. -/
theorem isDigit_iff {c : Char} : isDigit c = true ↔ ∃ d < 10, Nat.digitChar d = c := by
  constructor
  · intro h
    obtain ⟨hlow, hhigh⟩ := isDigit_iff_toNat.1 h
    refine ⟨c.toNat - 48, by omega, Char.toNat_inj.1 ?_⟩
    rw [Nat.toNat_digitChar_of_lt_ten (by omega)]
    omega
  · rintro ⟨d, hd, rfl⟩
    exact isDigit_digitChar d hd

theorem isBlank_of_isDigit {c : Char} (h : isDigit c = true) : isBlank c = false := by
  have hbounds := isDigit_iff_toNat.1 h
  simp [isBlank, inRanges, blankRanges]
  omega

/-- What is read as a number is one or more digits, and nothing else. -/
theorem natural?_eq_some_iff {cs : List Char} {n : Nat} :
    natural? cs = some n ↔ cs ≠ [] ∧ cs.all isDigit = true ∧ ofDigits 0 cs = n := by
  cases cs with
  | nil => simp [natural?]
  | cons c cs => simp [natural?, and_assoc]

private theorem Numeral.all_isDigit {cs : List Char} {n : Nat} (h : Numeral cs n) :
    cs.all isDigit = true := by
  induction h with
  | digit hd => simp only [List.all_cons, List.all_nil, isDigit_digitChar _ hd, Bool.and_true]
  | concat _ hd ih =>
    simp only [List.all_append, ih, List.all_cons, List.all_nil, isDigit_digitChar _ hd,
      Bool.and_true]

/-- A numeral denotes the number that its digits make, one after the other. -/
private theorem Numeral.ofDigits_eq {cs : List Char} {n : Nat} (h : Numeral cs n) :
    ofDigits 0 cs = n := by
  induction h with
  | digit hd =>
    rw [ofDigits_cons, ofDigits_nil, digitValue_digitChar _ hd, Nat.mul_zero, Nat.zero_add]
  | concat _ hd ih =>
    rw [ofDigits_append, ih, ofDigits_cons, ofDigits_nil, digitValue_digitChar _ hd]

private theorem Numeral.ne_nil {cs : List Char} {n : Nat} (h : Numeral cs n) : cs ≠ [] := by
  cases h with
  | digit => exact List.cons_ne_nil _ _
  | concat => exact List.append_ne_nil_of_right_ne_nil _ (List.cons_ne_nil _ _)

private theorem numeral_ofDigits {cs : List Char} (hne : cs ≠ []) (hall : cs.all isDigit = true) :
    Numeral cs (ofDigits 0 cs) := by
  -- a numeral grows at its end, and so does the number that is read from the front
  induction cs using List.reverseRecOn with
  | nil => exact absurd rfl hne
  | append_singleton ds c ih =>
    rw [List.all_append, Bool.and_eq_true, List.all_cons, List.all_nil, Bool.and_true] at hall
    obtain ⟨d, hd, rfl⟩ := isDigit_iff.1 hall.2
    rw [ofDigits_append, ofDigits_cons, ofDigits_nil, digitValue_digitChar d hd]
    rcases eq_or_ne ds [] with rfl | hds
    · rw [ofDigits_nil, Nat.mul_zero, Nat.zero_add, List.nil_append]
      exact .digit hd
    · exact .concat (ih hds hall.1) hd

private theorem natural?_eq_some_iff_numeral {cs : List Char} {n : Nat} :
    natural? cs = some n ↔ Numeral cs n := by
  rw [natural?_eq_some_iff]
  constructor
  · rintro ⟨hne, hall, rfl⟩
    exact numeral_ofDigits hne hall
  · intro h
    exact ⟨h.ne_nil, h.all_isDigit, h.ofDigits_eq⟩

/-! ### Signs -/

private theorem Numeral.head_isDigit {c : Char} {cs : List Char} {n : Nat}
    (h : Numeral (c :: cs) n) : isDigit c = true := by
  have hall := h.all_isDigit
  rw [List.all_cons, Bool.and_eq_true] at hall
  exact hall.1

theorem integer?_eq_some_iff {cs : List Char} {z : Int} :
    integer? cs = some z ↔ Written cs z := by
  constructor
  · intro h
    rw [integer?.eq_def] at h
    split at h
    all_goals
      obtain ⟨_, hread, rfl⟩ := Option.map_eq_some_iff.1 h
      obtain ⟨n, hn, hcast⟩ := Option.bind_eq_some_iff.1 hread
      cases hcast
      have hnumeral := natural?_eq_some_iff_numeral.1 hn
    · exact .minus hnumeral
    · exact .plus hnumeral
    · exact .bare hnumeral
  · intro h
    cases h with
    | minus h => simp [integer?, natural?_eq_some_iff_numeral.2 h]
    | plus h => simp [integer?, natural?_eq_some_iff_numeral.2 h]
    | bare h =>
      -- the reader looks for a sign first, but a digit is none
      rw [integer?.eq_def]
      split
      · exact absurd h.head_isDigit (by decide)
      · exact absurd h.head_isDigit (by decide)
      · simp [natural?_eq_some_iff_numeral.2 h]

/-! ### White space around an integer -/

/-- The ranges hold the characters of the list. -/
theorem isBlank_iff {c : Char} : isBlank c = true ↔ c ∈ whiteSpace := by
  constructor
  · intro h
    simp only [isBlank, inRanges, blankRanges, List.any_cons, List.any_nil, Bool.or_eq_true,
      Bool.and_eq_true, decide_eq_true_eq, Bool.false_eq_true, or_false] at h
    simp only [whiteSpace, List.mem_cons, List.not_mem_nil, or_false, ← Char.toNat_inj,
      Char.reduceToNat]
    omega
  · have hall : whiteSpace.all isBlank = true := by decide
    exact List.all_eq_true.1 hall c

/-- White space in front of something else is dropped as a whole. -/
private theorem dropBlanks_append {front cs : List Char} (hfront : ∀ c ∈ front, isBlank c = true) :
    dropBlanks (front ++ cs) = dropBlanks cs :=
  List.dropWhile_append_of_pos hfront

/-- Nothing is dropped where no white space comes first. -/
private theorem dropBlanks_of_clear {cs : List Char} (hne : cs ≠ [])
    (hclear : ∀ c ∈ cs, isBlank c = false) (rest : List Char) :
    dropBlanks (cs ++ rest) = cs ++ rest := by
  obtain ⟨c, cs, rfl⟩ := List.exists_cons_of_ne_nil hne
  rw [List.cons_append, dropBlanks_cons, hclear c List.mem_cons_self, if_neg Bool.false_ne_true]

/-- What has no white space in it is left when the white space around it is dropped. -/
private theorem trimList_append {front cs back : List Char} (hne : cs ≠ [])
    (hclear : ∀ c ∈ cs, isBlank c = false) (hfront : ∀ c ∈ front, isBlank c = true)
    (hback : ∀ c ∈ back, isBlank c = true) : trimList (front ++ (cs ++ back)) = cs := by
  have hne' : cs.reverse ≠ [] := fun h => hne (List.reverse_eq_nil_iff.1 h)
  have hclear' : ∀ c ∈ cs.reverse, isBlank c = false := fun c hc => hclear c (List.mem_reverse.1 hc)
  have hback' : ∀ c ∈ back.reverse, isBlank c = true := fun c hc => hback c (List.mem_reverse.1 hc)
  have hend := dropBlanks_of_clear hne' hclear' []
  rw [List.append_nil] at hend
  rw [trimList, dropBlanks_append hfront, dropBlanks_of_clear hne hclear, List.reverse_append,
    dropBlanks_append hback', hend, List.reverse_reverse]

/-- What is dropped from the front is white space. -/
private theorem exists_append_dropBlanks (cs : List Char) :
    ∃ front, cs = front ++ dropBlanks cs ∧ ∀ c ∈ front, isBlank c = true :=
  ⟨cs.takeWhile isBlank, List.takeWhile_append_dropWhile.symm,
    fun _ hc => List.all_eq_true.1 List.all_takeWhile _ hc⟩

/-- What is dropped from both ends is white space. -/
private theorem exists_append_trimList (cs : List Char) :
    ∃ front back, cs = front ++ (trimList cs ++ back) ∧ (∀ c ∈ front, isBlank c = true) ∧
      ∀ c ∈ back, isBlank c = true := by
  obtain ⟨front, hcs, hfront⟩ := exists_append_dropBlanks cs
  obtain ⟨back, hrest, hback⟩ := exists_append_dropBlanks (dropBlanks cs).reverse
  refine ⟨front, back.reverse, ?_, hfront, fun c hc => hback c (List.mem_reverse.1 hc)⟩
  calc cs = front ++ dropBlanks cs := hcs
    _ = front ++ (trimList cs ++ back.reverse) := by
      rw [trimList, ← List.reverse_append, ← hrest, List.reverse_reverse]

/-- A written integer has no white space in it. -/
private theorem Written.not_isBlank {cs : List Char} {z : Int} (h : Written cs z) :
    ∀ c ∈ cs, isBlank c = false := by
  have hnumeral : ∀ {cs : List Char} {n : Nat}, Numeral cs n → ∀ c ∈ cs, isBlank c = false :=
    fun h c hc => isBlank_of_isDigit (List.all_eq_true.1 h.all_isDigit c hc)
  cases h with
  | bare h => exact hnumeral h
  | plus h => exact List.forall_mem_cons.2 ⟨by decide, hnumeral h⟩
  | minus h => exact List.forall_mem_cons.2 ⟨by decide, hnumeral h⟩

private theorem Written.ne_nil {cs : List Char} {z : Int} (h : Written cs z) : cs ≠ [] := by
  cases h with
  | bare h => exact h.ne_nil
  | plus h => exact List.cons_ne_nil _ _
  | minus h => exact List.cons_ne_nil _ _

/-- Without the white space at its ends, exactly a text that denotes an integer is read. -/
theorem integer?_trimList_eq_some_iff {s : String} {z : Int} :
    integer? (trimList s.toList) = some z ↔ Denotes s z := by
  constructor
  · intro h
    obtain ⟨front, back, hs, hfront, hback⟩ := exists_append_trimList s.toList
    exact ⟨front, trimList s.toList, back, hs, integer?_eq_some_iff.1 h,
      fun c hc => isBlank_iff.1 (hfront c hc), fun c hc => isBlank_iff.1 (hback c hc)⟩
  · rintro ⟨front, cs, back, hs, hwritten, hfront, hback⟩
    have htrim : trimList (front ++ (cs ++ back)) = cs :=
      trimList_append hwritten.ne_nil hwritten.not_isBlank
        (fun c hc => isBlank_iff.2 (hfront c hc)) fun c hc => isBlank_iff.2 (hback c hc)
    rw [hs, htrim]
    exact integer?_eq_some_iff.2 hwritten

/-- A text denotes one integer at most. -/
theorem Denotes.unique {s : String} {y z : Int} (hy : Denotes s y) (hz : Denotes s z) : y = z :=
  Option.some.inj
    ((integer?_trimList_eq_some_iff.2 hy).symm.trans (integer?_trimList_eq_some_iff.2 hz))

/-- What denotes an integer has a digit. -/
theorem Denotes.exists_isDigit {s : String} {z : Int} (h : Denotes s z) :
    ∃ c ∈ s.toList, isDigit c = true := by
  have hnumeral : ∀ {cs : List Char} {n : Nat}, Numeral cs n → ∃ c ∈ cs, isDigit c = true := by
    intro cs n h
    obtain ⟨c, cs, rfl⟩ := List.exists_cons_of_ne_nil h.ne_nil
    exact ⟨c, List.mem_cons_self, h.head_isDigit⟩
  obtain ⟨front, cs, back, hs, hwritten, -, -⟩ := h
  have hwritten : ∃ c ∈ cs, isDigit c = true := by
    cases hwritten with
    | bare h => exact hnumeral h
    | plus h | minus h =>
      obtain ⟨c, hc, hdigit⟩ := hnumeral h
      exact ⟨c, List.mem_cons_of_mem _ hc, hdigit⟩
  obtain ⟨c, hc, hdigit⟩ := hwritten
  rw [hs]
  exact ⟨c, List.mem_append_right _ (List.mem_append_left _ hc), hdigit⟩

end SignIn.Text
