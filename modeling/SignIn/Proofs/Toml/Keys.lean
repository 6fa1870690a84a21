import Mathlib.Data.List.Nodup
import SignIn.Toml.Document

/-!
# No key is given twice

`Toml.tidy_of_parse?`: in the table of a document, and in every table inside of it, no key comes
twice. `Value.Tidy` says so of a finished value, and also that its integers have sixty-four bits.
`Node.Tidy` says the same of a table under construction, and each way to reach into the entries
keeps it: a key is given a value only where it has none (`Entries.keepsTidy_putDotted`), and the
header of a table or of an array of tables begins something new or goes on with what it has begun
(`Entries.keepsTidy_alterLast`).

So a document may be looked at key by key: what is under a key is all that the document says there.
-/

namespace SignIn.Toml

/-- No table inside of a value has a key twice, and its integers have sixty-four bits. -/
inductive Value.Tidy : Value → Prop
  | text (s : String) : Tidy (.text s)
  | integer {n : Int} (hlow : -9223372036854775808 ≤ n) (hhigh : n ≤ 9223372036854775807) :
      Tidy (.integer n)
  | float (x : Double) : Tidy (.float x)
  | bool (b : Bool) : Tidy (.bool b)
  | moment (m : Moment) : Tidy (.moment m)
  | array {items : List Value} (h : ∀ x ∈ items, Tidy x) : Tidy (.array items)
  | table {members : List (String × Value)} (hkeys : (Table.keys members).Nodup)
      (h : ∀ m ∈ members, Tidy m.2) : Tidy (.table members)

/-- The same of an entry under construction. -/
inductive Node.Tidy : Node → Prop
  | value {v : Value} (h : v.Tidy) : Tidy (.value v)
  | table {entries : Entries} (origin : Origin) (hkeys : (Table.keys entries).Nodup)
      (h : ∀ e ∈ entries, Tidy e.2) : Tidy (.table origin entries)
  | tables {elements : List Entries} (hkeys : ∀ es ∈ elements, (Table.keys es).Nodup)
      (h : ∀ es ∈ elements, ∀ e ∈ es, Tidy e.2) : Tidy (.tables elements)

/-- No key comes twice among some entries, and the entries are tidy. -/
structure Entries.Tidy (es : Entries) : Prop where
  nodup : (Table.keys es).Nodup
  tidy : ∀ e ∈ es, e.2.Tidy

/-! ### Finished values -/

private theorem entriesToValues_eq_map (es : Entries) :
    entriesToValues es = es.map fun e => (e.1, e.2.toValue) := by
  induction es with
  | nil => rfl
  | cons e es ih => rw [entriesToValues, ih, List.map_cons]

private theorem elementsToValues_eq_map (elements : List Entries) :
    elementsToValues elements = elements.map fun es => .table (entriesToValues es) := by
  induction elements with
  | nil => rfl
  | cons es elements ih => rw [elementsToValues, ih, List.map_cons]

/-- A finished table has the keys that it had under construction. -/
private theorem keys_entriesToValues (es : Entries) :
    Table.keys (entriesToValues es) = Table.keys es := by
  rw [entriesToValues_eq_map, Table.keys, Table.keys, List.map_map]
  rfl

/-- A table whose entries are finished tidily, under different keys. -/
private theorem tidy_table_of_entries {es : Entries} (hkeys : (Table.keys es).Nodup)
    (h : ∀ e ∈ es, e.2.toValue.Tidy) : (Value.table (entriesToValues es)).Tidy := by
  refine .table ((keys_entriesToValues es).symm ▸ hkeys) fun m hm => ?_
  rw [entriesToValues_eq_map] at hm
  obtain ⟨e, he, rfl⟩ := List.mem_map.1 hm
  exact h e he

/-- What is tidy under construction is tidy when it is finished. -/
theorem Node.Tidy.toValue {n : Node} (h : n.Tidy) : n.toValue.Tidy := by
  induction h with
  | value h =>
    rw [Node.toValue]
    exact h
  | table origin hkeys _ ih =>
    rw [Node.toValue]
    exact tidy_table_of_entries hkeys ih
  | tables hkeys _ ih =>
    rw [Node.toValue, elementsToValues_eq_map]
    refine .array fun x hx => ?_
    obtain ⟨es, hes, rfl⟩ := List.mem_map.1 hx
    exact tidy_table_of_entries (hkeys es hes) (ih es hes)

/-! ### Entries and the tables inside of them -/

theorem Node.Tidy.entries {origin : Origin} {es : Entries} (h : (Node.table origin es).Tidy) :
    es.Tidy := by
  cases h with
  | table _ hkeys htidy => exact ⟨hkeys, htidy⟩

theorem Node.Tidy.elements {elements : List Entries} (h : (Node.tables elements).Tidy) :
    ∀ es ∈ elements, es.Tidy := by
  cases h with
  | tables hkeys htidy => exact fun es hes => ⟨hkeys es hes, htidy es hes⟩

namespace Entries

variable {es es' : Entries} {key : String} {n : Node} {v : Value}

theorem Tidy.table (h : es.Tidy) (origin : Origin) : (Node.table origin es).Tidy :=
  .table origin h.nodup h.tidy

private theorem tidy_tables {elements : List Entries} (h : ∀ es ∈ elements, es.Tidy) :
    (Node.tables elements).Tidy :=
  .tables (fun es hes => (h es hes).nodup) fun es hes => (h es hes).tidy

private theorem tidy_nil : Tidy [] := ⟨List.nodup_nil, List.forall_mem_nil _⟩

private theorem Tidy.toValues (h : es.Tidy) : (Value.table (entriesToValues es)).Tidy :=
  tidy_table_of_entries h.nodup fun e he => (h.tidy e he).toValue

private theorem Tidy.of_find? (hes : es.Tidy) (h : find? es key = some n) : n.Tidy :=
  hes.tidy _ (Table.mem_of_get? h)

/-- Another node under a key that is there leaves the keys as they are. -/
private theorem keys_replace (es : Entries) (key : String) (n : Node) :
    Table.keys (replace es key n) = Table.keys es := by
  rw [Table.keys, replace, List.map_map]
  refine List.map_congr_left fun e _ => ?_
  rw [Function.comp_apply]
  split
  · rename_i hkey
    exact hkey.symm
  · rfl

theorem Tidy.concat (hes : es.Tidy) (hnew : find? es key = none) (hn : n.Tidy) :
    Tidy (es ++ [(key, n)]) := by
  have hkey : key ∉ Table.keys es := Table.notMem_keys hnew
  have hkeys : Table.keys (es ++ [(key, n)]) = Table.keys es ++ [key] := List.map_append
  refine ⟨hkeys ▸ List.nodup_append.2 ⟨hes.nodup, List.nodup_singleton _, ?_⟩, fun e he => ?_⟩
  · rintro k hk _ hsingle rfl
    exact hkey (List.mem_singleton.1 hsingle ▸ hk)
  · rcases List.mem_append.1 he with he | he
    · exact hes.tidy e he
    · cases List.mem_singleton.1 he
      exact hn

/-- An entry under a key that is new or is to be replaced. -/
theorem Tidy.put (hes : es.Tidy) (hn : n.Tidy) : (put es key n).Tidy := by
  rw [Entries.put]
  split
  · refine ⟨(keys_replace es key n).symm ▸ hes.nodup, fun e he => ?_⟩
    obtain ⟨e', he', rfl⟩ := List.mem_map.1 he
    split
    · exact hn
    · exact hes.tidy e' he'
  · rename_i hnone
    exact hes.concat (Option.not_isSome_iff_eq_none.1 hnone) hn

/-! ### Ways into the entries -/

/-- A change that keeps entries tidy. -/
def KeepsTidy (change : Entries → Option Entries) : Prop :=
  ∀ es es', es.Tidy → change es = some es' → es'.Tidy

/-- A change to a table that is not there yet. -/
private theorem KeepsTidy.put_new {change : Entries → Option Entries} (hchange : KeepsTidy change)
    (hes : es.Tidy) (origin : Origin)
    (h : ((change []).map fun sub => put es key (.table origin sub)) = some es') : es'.Tidy := by
  obtain ⟨sub, hsub, rfl⟩ := Option.map_eq_some_iff.1 h
  exact hes.put ((hchange _ _ tidy_nil hsub).table origin)

private theorem KeepsTidy.put_table {change : Entries → Option Entries}
    (hchange : KeepsTidy change) (hes : es.Tidy) {origin : Origin} {sub : Entries}
    (hfound : find? es key = some (.table origin sub))
    (h : ((change sub).map fun sub => put es key (.table origin sub)) = some es') : es'.Tidy := by
  obtain ⟨sub', hsub, rfl⟩ := Option.map_eq_some_iff.1 h
  have hold : sub.Tidy := (hes.of_find? hfound).entries
  exact hes.put ((hchange _ _ hold hsub).table origin)

/-- A change to the last table of an array. -/
private theorem KeepsTidy.put_last {change : Entries → Option Entries}
    (hchange : KeepsTidy change) (hes : es.Tidy) {elements : List Entries} {last : Entries}
    (hfound : find? es key = some (.tables elements)) (hlast : elements.getLast? = some last)
    (h : ((change last).map fun last => put es key (.tables (elements.dropLast ++ [last])))
      = some es') : es'.Tidy := by
  obtain ⟨last', hlast', rfl⟩ := Option.map_eq_some_iff.1 h
  have hold : ∀ es ∈ elements, es.Tidy := (hes.of_find? hfound).elements
  have hnew : last'.Tidy := hchange _ _ (hold last (List.mem_of_getLast? hlast)) hlast'
  refine hes.put (tidy_tables fun es hmem => ?_)
  rcases List.mem_append.1 hmem with hmem | hmem
  · exact hold es (List.dropLast_subset _ hmem)
  · exact List.mem_singleton.1 hmem ▸ hnew

/-- A header changes the table that it leads to, and what is on the way stays tidy. -/
theorem KeepsTidy.alter {change : Entries → Option Entries} (hchange : KeepsTidy change)
    (path : List String) : KeepsTidy (alter path change) := by
  induction path with
  | nil => exact hchange
  | cons key path ih =>
    intro es es' hes h
    rw [Entries.alter] at h
    split at h
    · exact ih.put_new hes .implied h
    · cases h
    · rename_i hfound
      exact ih.put_table hes hfound h
    · rename_i hfound
      split at h
      · cases h
      · rename_i hlast
        exact ih.put_last hes hfound hlast h

/-- A key is given a value only where it has none. -/
private theorem keepsTidy_putNew (hv : v.Tidy) : KeepsTidy (putNew key v) := by
  intro es es' hes h
  rw [putNew] at h
  split at h
  · cases h
  · rename_i hnone
    cases h
    exact hes.concat (Option.not_isSome_iff_eq_none.1 hnone) (.value hv)

/-- A dotted key leads to a table of its own, where its last part is given a value. -/
private theorem keepsTidy_putBelow (hv : v.Tidy) (path : List String) (origin : Origin) :
    KeepsTidy (putBelow path key v origin) := by
  induction path generalizing origin with
  | nil =>
    intro es es' hes h
    rw [putBelow] at h
    split at h
    · exact keepsTidy_putNew hv es es' hes h
    · cases h
  | cons first path ih =>
    intro es es' hes h
    rw [putBelow] at h
    split at h
    · exact (ih _).put_new hes .dotted h
    · cases h
    · cases h
    · rename_i hfound
      exact (ih _).put_table hes hfound h
    · rename_i hfound
      split at h
      · cases h
      · rename_i hlast
        exact (ih _).put_last hes hfound hlast h

/-- A dotted key is given a value. -/
theorem keepsTidy_putDotted (hv : v.Tidy) (key : List String) : KeepsTidy (putDotted key v) := by
  intro es es' hes h
  cases key with
  | nil => cases h
  | cons first rest =>
    cases rest with
    | nil => exact keepsTidy_putNew hv es es' hes h
    | cons second rest => exact keepsTidy_putBelow hv _ _ es es' hes h

/-- The header of a table begins it, or claims a table that it has implied. -/
private theorem keepsTidy_openTable (key : String) : KeepsTidy (openTable key) := by
  intro es es' hes h
  rw [openTable] at h
  split at h
  · rename_i hnone
    cases h
    exact hes.concat hnone (tidy_nil.table .header)
  · rename_i sub hfound
    cases h
    have hold : Tidy sub := (hes.of_find? hfound).entries
    exact hes.put (hold.table .header)
  · cases h

/-- The header of an array begins it, or begins its next table. -/
private theorem keepsTidy_openElement (key : String) : KeepsTidy (openElement key) := by
  intro es es' hes h
  have hempty : ∀ es ∈ [([] : Entries)], Tidy es := List.forall_mem_singleton.2 tidy_nil
  rw [openElement] at h
  split at h
  · rename_i hnone
    cases h
    exact hes.concat hnone (tidy_tables hempty)
  · rename_i elements hfound
    cases h
    have hold : ∀ es ∈ elements, Tidy es := (hes.of_find? hfound).elements
    exact hes.put (tidy_tables (List.forall_mem_append.2 ⟨hold, hempty⟩))
  · cases h

/-- A header is followed to its last key. -/
theorem keepsTidy_alterLast {change : String → Entries → Option Entries}
    (hchange : ∀ key, KeepsTidy (change key)) (header : List String) :
    KeepsTidy (alterLast header change) := by
  intro es es' hes h
  rw [alterLast] at h
  split at h
  · cases h
  · rename_i key _
    exact (hchange key).alter _ es es' hes h

end Entries

/-! ### Values -/

/-- A reader all of whose values are tidy. -/
def IsTidy (read : List Char → Option (Value × List Char)) : Prop :=
  ∀ {cs v rest}, read cs = some (v, rest) → v.Tidy

private theorem tidy_of_bounded? {n : Int} {v : Value} (h : bounded? n = some v) : v.Tidy := by
  rw [bounded?] at h
  split at h
  · rename_i hbounds
    cases h
    exact .integer hbounds.1 hbounds.2
  · cases h

private theorem tidy_of_float? {negative : Bool} {whole fraction : List Char} {exponent : Int}
    {v : Value} (h : float? negative whole fraction exponent = some v) : v.Tidy := by
  rw [float?] at h
  split at h <;> cases h
  exact .float _

private theorem isTidy_based? (base : Nat) : IsTidy (based? base) := by
  intro cs v rest h
  obtain ⟨⟨ds, left⟩, -, h⟩ := Option.bind_eq_some_iff.1 h
  obtain ⟨n, hn, h⟩ := Option.bind_eq_some_iff.1 h
  cases h
  exact tidy_of_bounded? hn

private theorem isTidy_specialFloat? (negative : Bool) : IsTidy (specialFloat? negative) := by
  intro cs v rest h
  rw [specialFloat?.eq_def] at h
  split at h <;> cases h <;> exact .float _

private theorem isTidy_number? : IsTidy number? := by
  intro cs v rest h
  rw [number?.eq_def] at h
  split at h
  · exact isTidy_based? 16 h
  · exact isTidy_based? 8 h
  · exact isTidy_based? 2 h
  · dsimp only at h
    split at h
    · rename_i hspecial
      cases h
      exact isTidy_specialFloat? _ hspecial
    · obtain ⟨⟨whole, left⟩, -, h⟩ := Option.bind_eq_some_iff.1 h
      dsimp only at h
      split at h
      case h_4 =>
        obtain ⟨n, hn, h⟩ := Option.bind_eq_some_iff.1 h
        cases h
        exact tidy_of_bounded? hn
      all_goals
        obtain ⟨⟨⟨fraction, exponent⟩, left⟩, -, h⟩ := Option.bind_eq_some_iff.1 h
        obtain ⟨x, hx, h⟩ := Option.bind_eq_some_iff.1 h
        cases h
        exact tidy_of_float? hx

private theorem isTidy_scalar? : IsTidy scalar? := by
  intro cs v rest h
  rw [scalar?.eq_def] at h
  split at h
  case h_1 | h_2 =>
    cases h
    exact .bool _
  case h_3 | h_4 =>
    obtain ⟨⟨s, left⟩, -, h⟩ := Option.map_eq_some_iff.1 h
    cases h
    exact .text s
  case h_5 =>
    split at h
    · obtain ⟨⟨m, left⟩, -, h⟩ := Option.map_eq_some_iff.1 h
      cases h
      exact .moment m
    · exact isTidy_number? h

section

variable {read : List Char → Option (Value × List Char)}

/-- The items of an array are tidy if those already read are. -/
private theorem items?_tidy (hread : IsTidy read) {acc : List Value} (hacc : ∀ x ∈ acc, x.Tidy)
    {fuel : Nat} {cs rest : List Char} {vs : List Value}
    (h : items? read acc fuel cs = some (vs, rest)) : ∀ x ∈ vs, x.Tidy := by
  induction fuel generalizing acc cs with
  | zero => cases h
  | succ fuel ih =>
    have hreverse : ∀ {vs : List Value}, (∀ x ∈ vs, x.Tidy) → ∀ x ∈ vs.reverse, x.Tidy :=
      fun hvs x hx => hvs x (List.mem_reverse.1 hx)
    rw [items?] at h
    split at h
    · cases h
      exact hreverse hacc
    · obtain ⟨⟨v, left⟩, hv, h⟩ := Option.bind_eq_some_iff.1 h
      have hcons : ∀ x ∈ v :: acc, x.Tidy := List.forall_mem_cons.2 ⟨hread hv, hacc⟩
      dsimp only at h
      split at h
      · exact ih hcons h
      · cases h
        exact hreverse hcons
      · cases h

/-- The members of a table within braces are put into entries that are tidy. -/
private theorem members?_tidy (hread : IsTidy read) {es es' : Entries} (hes : es.Tidy) {fuel : Nat}
    {cs rest : List Char} (h : members? read es fuel cs = some (es', rest)) : es'.Tidy := by
  induction fuel generalizing es cs with
  | zero => cases h
  | succ fuel ih =>
    obtain ⟨⟨key, left⟩, -, h⟩ := Option.bind_eq_some_iff.1 h
    obtain ⟨marked, -, h⟩ := Option.bind_eq_some_iff.1 h
    obtain ⟨⟨v, left'⟩, hv, h⟩ := Option.bind_eq_some_iff.1 h
    obtain ⟨put, hput, h⟩ := Option.bind_eq_some_iff.1 h
    have hnew : Entries.Tidy put := Entries.keepsTidy_putDotted (hread hv) key es put hes hput
    split at h
    · exact ih hnew h
    · cases h
      exact hnew
    · cases h

end

/-- Values are tidy if those one level deeper are. -/
private theorem isTidy_of_deeper {depth : Nat} (hdeeper : ∀ d, depth = d + 1 → IsTidy (value? d)) :
    IsTidy (value? depth) := by
  intro cs v rest h
  rw [value?.eq_def] at h
  split at h
  -- an array or a table that is too deep, an array, a table, anything else
  case h_1 | h_2 => cases h
  case h_3 =>
    obtain ⟨⟨vs, left⟩, hvs, h⟩ := Option.map_eq_some_iff.1 h
    cases h
    exact .array (items?_tidy (hdeeper _ rfl) (List.forall_mem_nil _) hvs)
  case h_4 =>
    split at h
    · cases h
      exact .table List.nodup_nil (List.forall_mem_nil _)
    · obtain ⟨⟨es, left⟩, hes, h⟩ := Option.map_eq_some_iff.1 h
      cases h
      exact (members?_tidy (hdeeper _ rfl) Entries.tidy_nil hes).toValues
  case h_5 => exact isTidy_scalar? h

private theorem isTidy_value? (depth : Nat) : IsTidy (value? depth) := by
  induction depth with
  | zero => exact isTidy_of_deeper fun d hd => (Nat.succ_ne_zero d hd.symm).elim
  | succ depth ih =>
    refine isTidy_of_deeper fun d hd => ?_
    cases hd
    exact ih

/-! ### Documents -/

/-- **A line keeps the entries of a document tidy.** -/
theorem line?_tidy {draft draft' : Draft} {cs rest : List Char} (hdraft : draft.entries.Tidy)
    (h : line? draft cs = some (draft', rest)) : draft'.entries.Tidy := by
  rw [line?.eq_def] at h
  split at h
  -- the end, an empty line, a comment, the header of an array or of a table, a key with a value
  case h_1 | h_2 | h_3 =>
    cases h
    exact hdraft
  case h_4 =>
    obtain ⟨left, -, h⟩ := Option.map_eq_some_iff.1 h
    cases h
    exact hdraft
  case h_5 =>
    obtain ⟨⟨header, left⟩, -, h⟩ := Option.bind_eq_some_iff.1 h
    obtain ⟨es, hes, h⟩ := Option.bind_eq_some_iff.1 h
    obtain ⟨left', -, h⟩ := Option.bind_eq_some_iff.1 h
    cases h
    exact Entries.keepsTidy_alterLast Entries.keepsTidy_openElement header _ _ hdraft hes
  case h_6 =>
    obtain ⟨⟨header, left⟩, -, h⟩ := Option.bind_eq_some_iff.1 h
    obtain ⟨es, hes, h⟩ := Option.bind_eq_some_iff.1 h
    obtain ⟨left', -, h⟩ := Option.bind_eq_some_iff.1 h
    cases h
    exact Entries.keepsTidy_alterLast Entries.keepsTidy_openTable header _ _ hdraft hes
  case h_7 =>
    obtain ⟨⟨key, left⟩, -, h⟩ := Option.bind_eq_some_iff.1 h
    obtain ⟨marked, -, h⟩ := Option.bind_eq_some_iff.1 h
    obtain ⟨⟨v, left'⟩, hv, h⟩ := Option.bind_eq_some_iff.1 h
    obtain ⟨es, hes, h⟩ := Option.bind_eq_some_iff.1 h
    obtain ⟨left'', -, h⟩ := Option.bind_eq_some_iff.1 h
    cases h
    have hput : Entries.KeepsTidy (Entries.putDotted key v) :=
      Entries.keepsTidy_putDotted (isTidy_value? _ hv) key
    exact hput.alter draft.header _ _ hdraft hes

private theorem lines?_tidy {draft draft' : Draft} {fuel : Nat} {cs : List Char}
    (hdraft : draft.entries.Tidy) (h : lines? draft fuel cs = some draft') :
    draft'.entries.Tidy := by
  induction fuel generalizing draft cs with
  | zero =>
    cases cs with
    | nil =>
      cases h
      exact hdraft
    | cons => cases h
  | succ fuel ih =>
    cases cs with
    | nil =>
      cases h
      exact hdraft
    | cons c cs =>
      obtain ⟨⟨next, left⟩, hline, h⟩ := Option.bind_eq_some_iff.1 h
      exact ih (line?_tidy hdraft hline) h

/-- **No key comes twice in a document**, nor in any table inside of it. -/
theorem tidy_of_parse? {s : String} {members : List (String × Value)}
    (h : parse? s = some members) : (Value.table members).Tidy := by
  obtain ⟨draft, hlines, rfl⟩ := Option.map_eq_some_iff.1 h
  exact (lines?_tidy Entries.tidy_nil hlines).toValues

end SignIn.Toml
