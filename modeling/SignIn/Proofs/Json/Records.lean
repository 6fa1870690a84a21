import Mathlib.Data.List.Forall2
import SignIn.Json.Decode

/-!
# Reading back what was written

A record is written as an object with one member for each of its fields. `Fields.Reads` says what
its fields make of the object of some entries: `Fields.Reads.start` is the beginning of a record
and `Fields.Reads.entry` the next field. `Decode.list_map` carries a reading from the items to their
array.

In the other direction, what was read tells what was there: `Reading.both_eq_ok_iff`,
`Fields.ofMembers_one_eq_ok_iff`, `Fields.ofItems_one_eq_ok_iff` and `Decode.items_eq_ok_iff`. What
is not read makes no difference: `Fields.ofMembers_one_congr`, `Decode.items_congr`.
-/

namespace SignIn

variable {α β : Type}

namespace Reading

/-- Fields that were put together have all been read. -/
theorem both_eq_ok_iff {f : Reading (α → β)} {x : Reading α} {b : β} :
    f.both x = .ok b ↔ ∃ g a, f = .ok g ∧ x = .ok a ∧ g a = b := by
  constructor
  · intro h
    cases f with
    | ok g =>
      cases x with
      | ok a => exact ⟨g, a, rfl, rfl, Reading.ok.inj h⟩
      | fault key fault => cases h
      | missing field => cases h
    | fault key fault =>
      cases x with
      | ok a => cases h
      | fault key' fault' =>
        rw [both] at h
        split at h <;> cases h
      | missing field => cases h
    | missing field => cases x <;> cases h
  · rintro ⟨g, a, rfl, rfl, rfl⟩
    rfl

theorem result_eq_ok_iff {x : Reading α} {a : α} : x.result = .ok a ↔ x = .ok a := by
  cases x <;> simp [result]

end Reading

/-! ### Single values -/

namespace Decode

@[simp] theorem any_eq (json : Json) : any json = .ok json := rfl

@[simp] theorem text_text (s : String) : text (.text s) = .ok s := rfl

theorem text_eq_ok_iff {json : Json} {s : String} : text json = .ok s ↔ json = .text s := by
  cases json <;> simp [text]

@[simp] theorem bool_bool (b : Bool) : bool (.bool b) = .ok b := rfl

/-- A whole number of sixty-four bits is read as itself. -/
@[simp] theorem integer_ofInt (n : Int64) : integer (.ofInt n.toInt) = .ok n := by
  have hlow : -9223372036854775808 ≤ n.toInt := n.minValue_le_toInt
  have hhigh : n.toInt ≤ 9223372036854775807 := n.toInt_le
  rw [Json.ofInt, integer, if_pos ⟨hlow, hhigh⟩, Int64.ofInt_toInt]

/-- Anything else than `null` is read by the decoder itself. -/
theorem nullable_of_ne {read : Decoder α} {json : Json} (h : json ≠ .null) :
    nullable read json = (read json).map some := by
  cases json with
  | null => exact absurd rfl h
  | bool _ | number _ | text _ | array _ | object _ => rfl

@[simp] theorem nullable_ofOption (s : Option String) :
    nullable text (.ofOption s) = .ok s := by
  cases s <;> rfl

/-- Nothing is read where nothing was read, and a text where that text was. -/
theorem nullable_text_eq_ok_iff {json : Json} {s : Option String} :
    nullable text json = .ok s ↔ json = .ofOption s := by
  cases json <;> cases s <;> simp [nullable, text, Json.ofOption, Except.map]

/-- Items that are read one by one are read in a row. -/
private theorem items_map {read : Decoder α} {write : α → Json} {as : List α}
    (h : ∀ a ∈ as, read (write a) = .ok a) : items read (as.map write) = .ok as := by
  induction as with
  | nil => rfl
  | cons a as ih =>
    have hrest := ih fun a ha => h a (List.mem_cons_of_mem _ ha)
    rw [List.map_cons, items, h a List.mem_cons_self]
    simp only [hrest, Except.map]

/-- An array is read back when its items are. -/
theorem list_map {read : Decoder α} {write : α → Json} {as : List α}
    (h : ∀ a ∈ as, read (write a) = .ok a) :
    list read (.array (as.map write)) = .ok as := items_map h

/-- A row is read item by item. -/
theorem items_eq_ok_iff {read : Decoder α} {xs : List Json} {as : List α} :
    items read xs = .ok as ↔ List.Forall₂ (fun x a => read x = .ok a) xs as := by
  induction xs generalizing as with
  | nil => cases as <;> simp [items]
  | cons x xs ih =>
    rw [items, List.forall₂_cons_left_iff]
    cases hx : read x with
    | error fault => simp
    | ok a =>
      simp only [← ih]
      cases hxs : items read xs with
      | error fault => simp [Except.map]
      | ok bs => simp [Except.map, eq_comm]

/-- Items that are read alike make rows that are read alike. -/
theorem items_congr {read : Decoder α} {xs ys : List Json}
    (h : List.Forall₂ (fun x y => read x = read y) xs ys) : items read xs = items read ys := by
  induction h with
  | nil => rfl
  | cons hxy _ ih => rw [items, items, hxy, ih]

private theorem mem_items {read : Decoder α} {xs : List Json} {as : List α}
    (h : items read xs = .ok as) {a : α} (ha : a ∈ as) : ∃ x ∈ xs, read x = .ok a := by
  obtain ⟨i, hi, rfl⟩ := List.mem_iff_getElem.1 ha
  have hread := items_eq_ok_iff.1 h
  have hi' : i < xs.length := hread.length_eq ▸ hi
  exact ⟨xs[i], List.getElem_mem hi', hread.get hi' hi⟩

/-- Whatever is in a row that was read comes from an item of the array. -/
theorem mem_list {read : Decoder α} {json : Json} {as : List α} (h : list read json = .ok as)
    {a : α} (ha : a ∈ as) : ∃ xs, json = .array xs ∧ ∃ x ∈ xs, read x = .ok a := by
  cases json with
  | array xs => exact ⟨xs, rfl, mem_items h ha⟩
  | null | bool _ | number _ | text _ | object _ => cases h

end Decode

/-! ### Records -/

namespace Fields

variable {entries : List (String × Json)}

theorem ofMembers_andThen (fs : Fields (α → β)) (gs : Fields α) (members : List (String × Json)) :
    (fs.andThen gs).ofMembers members = (fs.ofMembers members).both (gs.ofMembers members) := rfl

/-- A field is read where an object has it or where it has a value for its absence. -/
theorem ofMembers_one_eq_ok_iff {key : String} {read : Decoder α} {absent past : Option α}
    {members : List (String × Json)} {a : α} :
    (one key read absent past).ofMembers members = .ok a ↔
      (∃ x, Table.get? members key = some x ∧ read x = .ok a) ∨
        (Table.get? members key = none ∧ absent = some a) := by
  simp only [one]
  cases hx : Table.get? members key with
  | some x => cases hread : read x <;> simp [hread]
  | none => cases absent <;> simp

/-- A field depends on what is under its key only. -/
theorem ofMembers_one_congr {key : String} {read : Decoder α} {absent past : Option α}
    {members members' : List (String × Json)}
    (h : Table.get? members key = Table.get? members' key) :
    (one key read absent past).ofMembers members
      = (one key read absent past).ofMembers members' := by
  simp only [one, h]

/-- Fields that were put together have been read one after the other. -/
theorem ofItems_andThen_eq_ok_iff {fs : Fields (α → β)} {gs : Fields α} {short : Nat → DecodeFault}
    {position : Nat} {items rest : List Json} {b : β} :
    (fs.andThen gs).ofItems short position items = .ok (b, rest) ↔
      ∃ f left a, fs.ofItems short position items = .ok (f, left) ∧
        gs.ofItems short (position + fs.size) left = .ok (a, rest) ∧ f a = b := by
  simp only [andThen]
  cases hf : fs.ofItems short position items with
  | error fault => simp
  | ok read =>
    obtain ⟨f, left⟩ := read
    cases hg : gs.ofItems short (position + fs.size) left with
    | error fault => simp [hg]
    | ok read =>
      obtain ⟨a, rest'⟩ := read
      simp only [hg, Except.ok.injEq, Prod.mk.injEq]
      constructor
      · rintro ⟨rfl, rfl⟩
        exact ⟨f, left, a, ⟨rfl, rfl⟩, hg, rfl⟩
      · rintro ⟨_, _, _, ⟨rfl, rfl⟩, hg', rfl⟩
        cases hg.symm.trans hg'
        exact ⟨rfl, rfl⟩

/-- A field is read from the next item of an array, or has a value for the end of the array. -/
theorem ofItems_one_eq_ok_iff {key : String} {read : Decoder α} {absent past : Option α}
    {short : Nat → DecodeFault} {position : Nat} {items rest : List Json} {a : α} :
    (one key read absent past).ofItems short position items = .ok (a, rest) ↔
      (∃ x, items = x :: rest ∧ read x = .ok a) ∨ (items = [] ∧ rest = [] ∧ past = some a) := by
  simp only [one]
  cases items with
  | nil => cases past <;> simp [eq_comm, and_comm]
  | cons x xs =>
    simp only [List.cons.injEq, reduceCtorEq, false_and, or_false]
    cases hread : read x with
    | error fault =>
      simp only [Except.map, reduceCtorEq, false_iff]
      rintro ⟨_, ⟨rfl, _⟩, hread'⟩
      cases hread.symm.trans hread'
    | ok b =>
      simp only [Except.map, Except.ok.injEq, Prod.mk.injEq]
      constructor
      · rintro ⟨rfl, rfl⟩
        exact ⟨x, ⟨rfl, rfl⟩, hread⟩
      · rintro ⟨_, ⟨rfl, rfl⟩, hread'⟩
        cases hread.symm.trans hread'
        exact ⟨rfl, rfl⟩

/-- An array holds the fields of a record and nothing after them. -/
theorem decode_array_eq_ok_iff {fs : Fields α} {name : String} {items : List Json} {a : α} :
    fs.decode name (.array items) = .ok a ↔
      fs.ofItems (fun n => .tooShort n name fs.size) 0 items = .ok (a, []) := by
  rw [decode]
  split <;> rename_i h <;> rw [h] <;> simp

/-- A text that has to be there is read where it is. -/
theorem ofMembers_required_text_eq_ok_iff {key : String} {members : List (String × Json)}
    {s : String} : (required key Decode.text).ofMembers members = .ok s ↔
      Table.get? members key = some (.text s) := by
  simp [required, ofMembers_one_eq_ok_iff, Decode.text_eq_ok_iff]

/-- A text that may be absent or `null` is read where it is, and nothing elsewhere. -/
theorem ofMembers_optional_text_eq_ok_iff {key : String} {members : List (String × Json)}
    {s : Option String} : (optional key Decode.text).ofMembers members = .ok s ↔
      (Table.get? members key).getD .null = .ofOption s := by
  rw [optional, ofMembers_one_eq_ok_iff]
  cases Table.get? members key with
  | none => cases s <;> simp [Json.ofOption]
  | some x => simp [Decode.nullable_text_eq_ok_iff]

/-- A text that has to be there is read from the next item of an array. -/
theorem ofItems_required_text_eq_ok_iff {key : String} {short : Nat → DecodeFault} {position : Nat}
    {items rest : List Json} {s : String} :
    (required key Decode.text).ofItems short position items = .ok (s, rest) ↔
      items = .text s :: rest := by
  simp [required, ofItems_one_eq_ok_iff, Decode.text_eq_ok_iff]

/-- Some fields are read from the object of some entries, and make the given value. -/
structure Reads (fs : Fields α) (entries : List (String × Json)) (a : α) : Prop where
  /-- No two entries are under one key. -/
  nodup : (Table.keys entries).Nodup
  ofMembers : fs.ofMembers (Table.ofList entries) = .ok a

namespace Reads

/-- A record whose fields are read is read. -/
theorem decode {fs : Fields α} {a : α} (h : fs.Reads entries a) {name : String} :
    fs.decode name (.record entries) = .ok a := by
  rw [Json.record, Fields.decode, h.ofMembers, Reading.result_ok]

/-- A record begins with the function that makes it. -/
theorem start (hkeys : (Table.keys entries).Nodup) {a : α} : (Fields.start a).Reads entries a :=
  ⟨hkeys, rfl⟩

variable {fs : Fields (α → β)} {f : α → β} {key : String} {read : Decoder α}
  {absent past : Option α}

/-- The next field is read from its entry. -/
theorem entry {x : Json} {a : α} (hmem : (key, x) ∈ entries) (hread : read x = .ok a)
    (h : fs.Reads entries f) : (fs.andThen (one key read absent past)).Reads entries (f a) := by
  refine ⟨h.nodup, Reading.both_eq_ok_iff.2 ⟨f, a, h.ofMembers, ?_, rfl⟩⟩
  refine ofMembers_one_eq_ok_iff.2 (Or.inl ⟨x, ?_, hread⟩)
  rw [Table.get?_ofList h.nodup, Table.get?_of_mem h.nodup hmem]

end Reads

end Fields

end SignIn
