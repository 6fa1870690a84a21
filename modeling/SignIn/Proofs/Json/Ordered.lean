import SignIn.Json.Reader

/-!
# Objects have their keys in order

The members of an object come in the order of their keys, and no key comes twice, in every value
that is read from a text: `Json.ordered_of_parse?`. `Json.Ordered` says so of all objects inside of
a value; it is what a table of JSON values may rely on.
-/

namespace SignIn.Json

/-- All objects of a value have their members in the order of the keys. -/
inductive Ordered : Json → Prop
  | null : Ordered .null
  | bool (b : Bool) : Ordered (.bool b)
  | number (n : JsonNumber) : Ordered (.number n)
  | text (s : String) : Ordered (.text s)
  | array {items : List Json} (h : ∀ x ∈ items, Ordered x) : Ordered (.array items)
  | object {members : List (String × Json)} (hsorted : Table.IsSorted members)
      (h : ∀ m ∈ members, Ordered m.2) : Ordered (.object members)

theorem Ordered.items {items : List Json} (h : (Json.array items).Ordered) :
    ∀ x ∈ items, x.Ordered := by
  cases h with
  | array h => exact h

theorem Ordered.isSorted {members : List (String × Json)} (h : (Json.object members).Ordered) :
    Table.IsSorted members := by
  cases h with
  | object hsorted _ => exact hsorted

/-- A member of an ordered object is ordered. -/
theorem Ordered.of_get? {members : List (String × Json)} (h : (Json.object members).Ordered)
    {key : String} {x : Json} (hx : Table.get? members key = some x) : x.Ordered := by
  cases h with
  | object _ hmembers => exact hmembers _ (Table.mem_of_get? hx)

/-- An object of ordered values is ordered, whatever the order they are given in. -/
theorem Ordered.record {members : List (String × Json)} (h : ∀ m ∈ members, m.2.Ordered) :
    (Json.record members).Ordered :=
  .object (Table.isSorted_ofList members) fun m hm => h m (Table.mem_of_mem_ofList hm)

namespace Reader

/-- A reader all of whose values are ordered. -/
def IsOrderly (read : List Char → Option (Json × List Char)) : Prop :=
  ∀ {cs json rest}, read cs = some (json, rest) → json.Ordered

section

variable {read : List Char → Option (Json × List Char)}

private theorem items?_ordered (hread : IsOrderly read) {acc : List Json}
    (hacc : ∀ x ∈ acc, x.Ordered) {fuel : Nat} {cs rest : List Char} {xs : List Json}
    (h : items? read acc fuel cs = some (xs, rest)) : ∀ x ∈ xs, x.Ordered := by
  induction fuel generalizing acc cs with
  | zero => cases h
  | succ fuel ih =>
    obtain ⟨⟨x, left⟩, hx, h⟩ := Option.bind_eq_some_iff.1 h
    have hcons : ∀ y ∈ x :: acc, y.Ordered := List.forall_mem_cons.2 ⟨hread hx, hacc⟩
    dsimp only at h
    split at h
    · exact ih hcons h
    · cases h
      exact fun y hy => hcons y (List.mem_reverse.1 hy)
    · cases h

private theorem members?_ordered (hread : IsOrderly read) {acc : List (String × Json)}
    (hacc : ∀ m ∈ acc, m.2.Ordered) {fuel : Nat} {cs rest : List Char}
    {ms : List (String × Json)} (h : members? read acc fuel cs = some (ms, rest)) :
    ∀ m ∈ ms, m.2.Ordered := by
  induction fuel generalizing acc cs with
  | zero => cases h
  | succ fuel ih =>
    rw [members?] at h
    split at h
    · obtain ⟨⟨key, left⟩, _, h⟩ := Option.bind_eq_some_iff.1 h
      dsimp only at h
      split at h
      · obtain ⟨⟨x, left⟩, hx, h⟩ := Option.bind_eq_some_iff.1 h
        have hcons : ∀ m ∈ (key, x) :: acc, m.2.Ordered :=
          List.forall_mem_cons.2 ⟨hread hx, hacc⟩
        dsimp only at h
        split at h
        · exact ih hcons h
        · cases h
          exact fun m hm => hcons m (List.mem_reverse.1 hm)
        · cases h
      · cases h
    · cases h

end

/-- Values are ordered if those one level deeper are. -/
private theorem isOrderly_of_deeper {depth : Nat}
    (hdeeper : ∀ d, depth = d + 1 → IsOrderly (value? d)) : IsOrderly (value? depth) := by
  intro cs json rest h
  rw [value?] at h
  split at h
  -- a word, a text, an array, an object, a number
  case h_1 | h_2 | h_3 =>
    cases h
    constructor
  case h_4 =>
    obtain ⟨_, _, heq⟩ := Option.map_eq_some_iff.1 h
    cases heq
    exact .text _
  case h_5 =>
    split at h
    · cases h
    · cases h
      exact .array (List.forall_mem_nil _)
    · obtain ⟨⟨xs, left⟩, hxs, heq⟩ := Option.map_eq_some_iff.1 h
      cases heq
      exact .array (items?_ordered (hdeeper _ rfl) (List.forall_mem_nil _) hxs)
  case h_6 =>
    split at h
    · cases h
    · cases h
      exact .object Table.isSorted_nil (List.forall_mem_nil _)
    · obtain ⟨⟨ms, left⟩, hms, heq⟩ := Option.map_eq_some_iff.1 h
      cases heq
      exact .record (members?_ordered (hdeeper _ rfl) (List.forall_mem_nil _) hms)
  case h_7 =>
    obtain ⟨_, _, heq⟩ := Option.map_eq_some_iff.1 h
    cases heq
    exact .number _

private theorem isOrderly_value? (depth : Nat) : IsOrderly (value? depth) := by
  induction depth with
  | zero => exact isOrderly_of_deeper fun d hd => (Nat.succ_ne_zero d hd.symm).elim
  | succ depth ih =>
    refine isOrderly_of_deeper fun d hd => ?_
    cases hd
    exact ih

end Reader

/-- The value of a text is ordered. -/
theorem ordered_of_parse? {s : String} {json : Json} (h : parse? s = some json) :
    json.Ordered := by
  rw [parse?] at h
  split at h
  · rename_i hvalue
    split at h
    · cases h
      exact Reader.isOrderly_value? _ hvalue
    · cases h
  · cases h

end SignIn.Json
