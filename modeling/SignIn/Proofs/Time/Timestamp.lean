import SignIn.Proofs.Text.Integer
import SignIn.Proofs.Time.Calendar
import SignIn.Time.Timestamp

/-!
# Timestamps lose nothing

`Timestamp.parse?_render`: the text of an instant is read as that instant, to the nanosecond and in
all years that instants have, with one reservation. A leap second can be written only at the end of
a minute, so that an instant in a leap second has to be in one there (`Instant.IsWritable`).

The fields are read one after the other. Each of them ends either where its digits have to end or
where a character comes that is no digit (`Timestamp.takeDigits_append`), so that each reader gives
back the field that was written and what comes after it.
-/

namespace SignIn

/-- An instant that a timestamp can stand for: a leap second is the last one of its minute. -/
def Instant.IsWritable (t : Instant) : Prop := t.isLeap = true → t.second % 60 = 59

instance (t : Instant) : Decidable t.IsWritable :=
  inferInstanceAs (Decidable (t.isLeap = true → t.second % 60 = 59))

namespace Timestamp

open Text

/-! ### Digits -/

/-- No digit comes next. -/
def IsClear : List Char → Prop
  | [] => True
  | c :: _ => isDigit c = false

/-- Digits are read up to the limit, or up to a character that is no digit. -/
theorem takeDigits_append {ds rest : List Char} {limit : Nat} (n : Nat)
    (hds : ds.all isDigit = true) (hlimit : ds.length ≤ limit)
    (hend : ds.length = limit ∨ IsClear rest) :
    takeDigits limit n (ds ++ rest) = (ofDigits n ds, rest) := by
  induction ds generalizing n limit with
  | nil =>
    rw [List.nil_append, ofDigits_nil]
    cases limit with
    | zero => rw [takeDigits]
    | succ limit =>
      have hclear : IsClear rest := hend.resolve_left (Nat.succ_ne_zero limit).symm
      cases rest with
      | nil => rfl
      | cons c rest => rw [takeDigits, if_neg (by rw [show isDigit c = false from hclear]; simp)]
  | cons d ds ih =>
    obtain ⟨hd, hds⟩ := Bool.and_eq_true_iff.1 (List.all_cons.symm.trans hds)
    cases limit with
    | zero => cases hlimit
    | succ limit =>
      rw [List.cons_append, takeDigits, if_pos hd, ofDigits_cons]
      exact ih _ hds (Nat.le_of_succ_le_succ hlimit) (hend.imp_left Nat.succ.inj)

/-- A field of some width begins with a digit. -/
private theorem exists_fixed_eq_cons {width : Nat} (h : 0 < width) (n : Nat) :
    ∃ c cs, fixed width n = c :: cs ∧ isDigit c = true := by
  have hlength := length_fixed width n
  have hdigits := all_isDigit_fixed width n
  cases hfixed : fixed width n with
  | nil =>
    rw [hfixed] at hlength
    exact absurd hlength.symm (Nat.ne_of_gt h)
  | cons c cs =>
    rw [hfixed, List.all_cons] at hdigits
    exact ⟨c, cs, rfl, (Bool.and_eq_true_iff.1 hdigits).1⟩

/-- A number in a field of some width is read as far as the field goes. -/
private theorem number?_fixed {width n : Nat} (h : 0 < width) (hn : n < Nat.pow 10 width)
    (rest : List Char) : number? width (fixed width n ++ rest) = some (n, rest) := by
  obtain ⟨c, cs, hfixed, hc⟩ := exists_fixed_eq_cons h n
  have htake : takeDigits width 0 (fixed width n ++ rest) = (ofDigits 0 (fixed width n), rest) :=
    takeDigits_append 0 (all_isDigit_fixed width n) (Nat.le_of_eq (length_fixed width n))
      (Or.inl (length_fixed width n))
  rw [ofDigits_fixed, Nat.mod_eq_of_lt hn] at htake
  rw [hfixed, List.cons_append] at htake ⊢
  rw [number?, dropBlanks_cons, isBlank_of_isDigit hc, if_neg Bool.false_ne_true]
  dsimp only
  rw [if_pos hc, htake]

/-! ### Fields -/

private theorem ofDigits_yearDigits {n : Nat} (h : n < 1000000) :
    ofDigits 0 (yearDigits n) = n := by
  rw [yearDigits, ofDigits_fixed]
  refine Nat.mod_eq_of_lt ?_
  split
  · assumption
  · split <;> assumption

/-- A sign is followed by any number of digits. -/
private theorem takeDigits_yearDigits {n : Nat} (h : n < 1000000) {rest : List Char}
    (hrest : IsClear rest) : ∃ c cs, yearDigits n ++ rest = c :: cs ∧ isDigit c = true ∧
      takeDigits cs.length.succ 0 (c :: cs) = (n, rest) := by
  obtain ⟨c, cs, hdigits, hc⟩ : ∃ c cs, yearDigits n = c :: cs ∧ isDigit c = true :=
    exists_fixed_eq_cons (by split <;> [decide; split <;> decide]) _
  have hall : (yearDigits n).all isDigit = true := all_isDigit_fixed _ _
  have hread := ofDigits_yearDigits h
  rw [hdigits] at hall hread
  refine ⟨c, cs ++ rest, by rw [hdigits, List.cons_append], hc, ?_⟩
  have hlength : (c :: cs).length ≤ (cs ++ rest).length.succ := by
    rw [List.length_cons, List.length_append]
    omega
  rw [← List.cons_append, takeDigits_append 0 hall hlength (Or.inr hrest), hread]

/-- A year is read up to the mark after it. -/
private theorem year?_yearText {y : Int} (h : y.natAbs < 1000000) {rest : List Char}
    (hrest : IsClear rest) : year? (yearText y ++ rest) = some (y, rest) := by
  have hminus : isBlank '-' = false := by decide
  have hplus : isBlank '+' = false := by decide
  rw [yearText]
  split
  · rename_i hneg
    obtain ⟨c, cs, hdigits, hc, htake⟩ := takeDigits_yearDigits h hrest
    have hy : -(y.natAbs : Int) = y := by omega
    simp only [List.cons_append, hdigits, year?, dropBlanks_cons, hminus, Bool.false_eq_true,
      if_false, hc, if_true, htake, hy]
  · rename_i hnonneg
    have hy : (y.natAbs : Int) = y := by omega
    split
    · obtain ⟨c, cs, hdigits, hc, htake⟩ := takeDigits_yearDigits h hrest
      simp only [List.cons_append, hdigits, year?, dropBlanks_cons, hplus, Bool.false_eq_true,
        if_false, hc, if_true, htake, hy]
    · rename_i hsmall
      -- a year of four digits has no sign
      have hfour : yearDigits y.natAbs = fixed 4 y.natAbs := by
        rw [yearDigits, if_pos (by omega)]
      have hnumber : number? 4 (fixed 4 y.natAbs ++ rest) = some (y.natAbs, rest) :=
        number?_fixed (by decide) (by show y.natAbs < 10000; omega) rest
      obtain ⟨c, cs, hfixed, hc⟩ := exists_fixed_eq_cons (show 0 < 4 by decide) y.natAbs
      rw [hfour]
      rw [hfixed, List.cons_append] at hnumber ⊢
      rw [year?, dropBlanks_cons, isBlank_of_isDigit hc, if_neg Bool.false_ne_true]
      split
      · rename_i heq
        obtain ⟨rfl, -⟩ := List.cons.inj heq
        cases hc
      · rename_i heq
        obtain ⟨rfl, -⟩ := List.cons.inj heq
        cases hc
      · rw [hnumber, Option.map_some]
        dsimp only
        rw [hy]

/-- A fraction is read to the end of its digits, which stand for the leading ones of nine. -/
private theorem fraction?_fixed {width n : Nat} (h : 0 < width) (h' : width ≤ 9)
    (hn : n < Nat.pow 10 width) {rest : List Char} (hrest : IsClear rest) :
    fraction? ('.' :: (fixed width n ++ rest)) = some (n * Nat.pow 10 (9 - width), rest) := by
  have hlength := length_fixed width n
  have htake : takeDigits 9 0 (fixed width n ++ rest) = (ofDigits 0 (fixed width n), rest) :=
    takeDigits_append 0 (all_isDigit_fixed width n) (by omega) (Or.inr hrest)
  have hdrop : rest.dropWhile isDigit = rest := by
    cases rest with
    | nil => rfl
    | cons c rest => exact List.dropWhile_cons_of_neg (Bool.eq_false_iff.1 hrest)
  rw [ofDigits_fixed, Nat.mod_eq_of_lt hn] at htake
  obtain ⟨c, cs, hfixed, hc⟩ := exists_fixed_eq_cons h n
  rw [hfixed] at htake hlength
  rw [hfixed, List.cons_append] at *
  have hread : (c :: (cs ++ rest)).length - rest.length = width := by
    rw [← hlength, List.length_cons, List.length_append, List.length_cons]
    omega
  simp only [fraction?, hc, if_true, htake, hread, hdrop]

/-- The fraction of a second is read in nanoseconds. -/
private theorem fraction?_fractionText {nano : Nat} (h : nano < 1000000000) :
    fraction? (fractionText nano ++ ['Z']) = some (nano, ['Z']) := by
  have hrest : IsClear ['Z'] := rfl
  rw [fractionText]
  split
  · rename_i hzero
    rw [hzero]
    rfl
  · split
    · rename_i hmilli
      have hn : nano / 1000000 < Nat.pow 10 3 := by show _ < 1000; omega
      have hnano : nano / 1000000 * Nat.pow 10 (9 - 3) = nano := by
        show nano / 1000000 * 1000000 = nano
        omega
      rw [List.cons_append, fraction?_fixed (by decide) (by decide) hn hrest, hnano]
    · split
      · rename_i hmicro
        have hn : nano / 1000 < Nat.pow 10 6 := by show _ < 1000000; omega
        have hnano : nano / 1000 * Nat.pow 10 (9 - 6) = nano := by
          show nano / 1000 * 1000 = nano
          omega
        rw [List.cons_append, fraction?_fixed (by decide) (by decide) hn hrest, hnano]
      · have hn : nano < Nat.pow 10 9 := h
        rw [List.cons_append, fraction?_fixed (by decide) (by decide) hn hrest]
        exact congrArg (fun n => some (n, ['Z'])) (Nat.mul_one nano)

private theorem mark?_self {c : Char} (h : isBlank c = false) (rest : List Char) :
    mark? c (c :: rest) = some rest := by
  rw [mark?, dropBlanks_cons, h, if_neg Bool.false_ne_true]
  exact if_pos rfl

/-! ### Instants -/

/-- The second of its minute that an instant is written with. -/
def secondOf (t : Instant) : Nat :=
  if t.isLeap then (t.second % 86400).toNat % 60 + 1 else (t.second % 86400).toNat % 60

/-- The date, the time of day and the fraction of an instant make up the instant. -/
private theorem assemble?_fields {t : Instant} (h : t.IsWritable) :
    assemble? (Date.ofDays (t.second / 86400)) ((t.second % 86400).toNat / 3600)
      ((t.second % 86400).toNat / 60 % 60) (secondOf t) (t.nano % 1000000000) 0 = some t := by
  have hfirst := t.earliest_le
  have hlast := t.le_latest
  have hnano := t.nano_lt
  have hyear := Date.year_ofDays_bounds (n := t.second / 86400) (by omega) (by omega)
  have hsecond : secondOf t ≤ 60 := by
    unfold secondOf
    split <;> omega
  rw [assemble?, if_pos ⟨Date.isValid_ofDays _, hyear.1, hyear.2, by omega, by omega, hsecond⟩,
    Date.days_ofDays]
  have hparts : t.second / 86400 * 86400 + (((t.second % 86400).toNat / 3600 * 3600
      + (t.second % 86400).toNat / 60 % 60 * 60 + min (secondOf t) 59 : Nat) : Int) - 0 = t.second ∧
      (if secondOf t = 60 then t.nano % 1000000000 + 1000000000 else t.nano % 1000000000)
        = t.nano := by
    unfold secondOf
    cases hleap : t.isLeap with
    | true =>
      have hnine := h hleap
      have hle : 1000000000 ≤ t.nano := of_decide_eq_true hleap
      rw [if_pos rfl]
      split <;> omega
    | false =>
      have hlt : t.nano < 1000000000 := Nat.lt_of_not_le (of_decide_eq_false hleap)
      rw [if_neg Bool.false_ne_true]
      split <;> omega
  dsimp only
  rw [hparts.1, hparts.2, Instant.ofParts?, dif_pos ⟨hfirst, hlast, hnano⟩]

private theorem parseChars?_chars {t : Instant} (h : t.IsWritable) :
    parseChars? (chars t) = some t := by
  have hfirst := t.earliest_le
  have hlast := t.le_latest
  have hbounds := Date.year_ofDays_bounds (n := t.second / 86400) (by omega) (by omega)
  obtain ⟨htwelve, hthirtyOne⟩ := (Date.isValid_ofDays (t.second / 86400)).month_le
  have hfield : ∀ n < 100, ∀ rest, number? 2 (fixed 2 n ++ rest) = some (n, rest) :=
    fun n hn rest => number?_fixed (by decide) hn rest
  have hyear : ∀ rest, year? (yearText (Date.ofDays (t.second / 86400)).year ++ '-' :: rest)
      = some ((Date.ofDays (t.second / 86400)).year, '-' :: rest) :=
    fun rest => year?_yearText (by omega) rfl
  have hmonth := hfield (Date.ofDays (t.second / 86400)).month (by omega)
  have hdayOfMonth := hfield (Date.ofDays (t.second / 86400)).day (by omega)
  have hhour := hfield ((t.second % 86400).toNat / 3600) (by omega)
  have hminute := hfield ((t.second % 86400).toNat / 60 % 60) (by omega)
  have hsecond := hfield (secondOf t) (by unfold secondOf; split <;> omega)
  have hnano : fraction? (fractionText (t.nano % 1000000000) ++ ['Z'])
      = some (t.nano % 1000000000, ['Z']) := fraction?_fractionText (by omega)
  have hdash := mark?_self (c := '-') (by decide)
  have hcolon := mark?_self (c := ':') (by decide)
  rw [chars, ← secondOf]
  simp only [List.append_assoc, List.cons_append]
  -- one reader after the other, each with what the one before has left
  refine Option.bind_eq_some_iff.2 ⟨_, hyear _, ?_⟩
  refine Option.bind_eq_some_iff.2 ⟨_, hdash _, ?_⟩
  refine Option.bind_eq_some_iff.2 ⟨_, hmonth _, ?_⟩
  refine Option.bind_eq_some_iff.2 ⟨_, hdash _, ?_⟩
  refine Option.bind_eq_some_iff.2 ⟨_, hdayOfMonth _, ?_⟩
  refine Option.bind_eq_some_iff.2 ⟨_, rfl, ?_⟩
  refine Option.bind_eq_some_iff.2 ⟨_, hhour _, ?_⟩
  refine Option.bind_eq_some_iff.2 ⟨_, hcolon _, ?_⟩
  refine Option.bind_eq_some_iff.2 ⟨_, hminute _, ?_⟩
  refine Option.bind_eq_some_iff.2 ⟨_, hcolon _, ?_⟩
  refine Option.bind_eq_some_iff.2 ⟨_, hsecond _, ?_⟩
  refine Option.bind_eq_some_iff.2 ⟨_, hnano, ?_⟩
  refine Option.bind_eq_some_iff.2 ⟨_, rfl, ?_⟩
  exact assemble?_fields h

/-- **A timestamp loses nothing.** The text of an instant is read as that instant. -/
theorem parse?_render {t : Instant} (h : t.IsWritable) : parse? (render t) = some t := by
  rw [parse?, render, String.toList_ofList, parseChars?_chars h]

end Timestamp

end SignIn
