/-!
# Tables with text keys

A `Table` lists entries under distinct keys, in the order of the keys. It is a plain list, and
`Table.IsSorted` says that the keys increase strictly; `Table.insert` keeps this and replaces the
entry under its key. The order of texts is the order of their code points, which is also the
order of their bytes in UTF-8.

The law of the operations is `get?_insert`: after an insertion one key has the new value and
every other key has what it had. Sorted tables with the same under every key are the same
(`IsSorted.ext`).
-/

namespace SignIn

/-- Entries under text keys. -/
abbrev Table (α : Type) := List (String × α)

namespace Table

variable {α : Type}

/-- The keys increase strictly, so that no key occurs twice. -/
def IsSorted (t : Table α) : Prop := t.Pairwise fun a b => a.1 < b.1

instance (t : Table α) : Decidable (IsSorted t) :=
  inferInstanceAs (Decidable (t.Pairwise fun a b => a.1 < b.1))

/-- The value under a key. -/
def get? (t : Table α) (key : String) : Option α :=
  match t with
  | [] => none
  | (k, v) :: rest => if k = key then some v else get? rest key

/-- The table with a value put under a key. -/
def insert (t : Table α) (key : String) (value : α) : Table α :=
  match t with
  | [] => [(key, value)]
  | (k, v) :: rest =>
    if key = k then (key, value) :: rest
    else if key < k then (key, value) :: (k, v) :: rest
    else (k, v) :: insert rest key value

/-- The table of some entries; of two under one key the later one stays. -/
def ofList (entries : List (String × α)) : Table α :=
  entries.foldl (fun t entry => insert t entry.1 entry.2) []

/-- Whether a key has an entry. -/
def contains (t : Table α) (key : String) : Bool := (get? t key).isSome

/-- The keys in order. -/
def keys (t : Table α) : List String := t.map Prod.fst

@[simp] theorem get?_nil (key : String) : get? ([] : Table α) key = none := rfl

theorem get?_cons (k : String) (v : α) (t : Table α) (key : String) :
    get? ((k, v) :: t) key = if k = key then some v else get? t key := rfl

@[simp] theorem isSorted_nil : IsSorted ([] : Table α) := List.Pairwise.nil

theorem isSorted_cons_iff {k : String} {v : α} {t : Table α} :
    IsSorted ((k, v) :: t) ↔ (∀ entry ∈ t, k < entry.1) ∧ IsSorted t := List.pairwise_cons

/-- An insertion changes what is under one key. -/
theorem get?_insert (t : Table α) (key : String) (value : α) (key' : String) :
    get? (insert t key value) key' = if key = key' then some value else get? t key' := by
  induction t with
  | nil => simp only [insert, get?_cons, get?_nil]
  | cons entry rest ih =>
    obtain ⟨k, v⟩ := entry
    simp only [insert]
    split
    · rename_i h
      subst h
      simp only [get?_cons]
      split <;> rfl
    · split
      · simp only [get?_cons]
      · rename_i hne _
        simp only [get?_cons, ih]
        split
        · rename_i h
          subst h
          rw [if_neg hne]
        · rfl

/-- What an insertion leaves in a table: the new entry and the old ones. -/
theorem mem_of_mem_insert {t : Table α} {key : String} {value : α} {entry : String × α}
    (h : entry ∈ insert t key value) : entry = (key, value) ∨ entry ∈ t := by
  induction t with
  | nil => exact Or.inl (List.mem_singleton.1 h)
  | cons head rest ih =>
    obtain ⟨k, v⟩ := head
    simp only [insert] at h
    split at h
    · rcases List.mem_cons.1 h with h | h
      · exact Or.inl h
      · exact Or.inr (List.mem_cons_of_mem _ h)
    · split at h
      · rcases List.mem_cons.1 h with h | h
        · exact Or.inl h
        · exact Or.inr h
      · rcases List.mem_cons.1 h with h | h
        · exact Or.inr (h ▸ List.mem_cons_self)
        · exact (ih h).imp id (List.mem_cons_of_mem _)

/-- An insertion keeps the order of the keys. -/
theorem IsSorted.insert {t : Table α} (h : IsSorted t) (key : String) (value : α) :
    IsSorted (insert t key value) := by
  induction t with
  | nil => exact isSorted_cons_iff.2 ⟨fun _ hm => (List.not_mem_nil hm).elim, isSorted_nil⟩
  | cons head rest ih =>
    obtain ⟨k, v⟩ := head
    obtain ⟨hk, hrest⟩ := isSorted_cons_iff.1 h
    simp only [Table.insert]
    split
    · rename_i heq
      exact isSorted_cons_iff.2 ⟨heq ▸ hk, hrest⟩
    · split
      · rename_i hlt
        refine isSorted_cons_iff.2 ⟨fun entry hm => ?_, h⟩
        rcases List.mem_cons.1 hm with rfl | hm
        · exact hlt
        · exact String.lt_trans hlt (hk _ hm)
      · rename_i hne hnlt
        refine isSorted_cons_iff.2 ⟨fun entry hm => ?_, ih hrest⟩
        rcases mem_of_mem_insert hm with rfl | hm
        · rcases Decidable.em (k < key) with hlt | hge
          · exact hlt
          · exact absurd (String.le_antisymm (String.not_lt.1 hge) (String.not_lt.1 hnlt)) hne
        · exact hk _ hm

theorem isSorted_foldl_insert {t : Table α} (h : IsSorted t) (entries : List (String × α)) :
    IsSorted (entries.foldl (fun t entry => Table.insert t entry.1 entry.2) t) := by
  induction entries generalizing t with
  | nil => exact h
  | cons entry entries ih => exact ih (h.insert entry.1 entry.2)

/-- A table made of entries in any order has its keys in order. -/
theorem isSorted_ofList (entries : List (String × α)) : IsSorted (ofList entries) :=
  isSorted_foldl_insert isSorted_nil entries

/-! ### Entries and keys -/

theorem get?_append (t u : Table α) (key : String) :
    get? (t ++ u) key = (get? t key).or (get? u key) := by
  induction t with
  | nil => rfl
  | cons entry t ih =>
    obtain ⟨k, v⟩ := entry
    rw [List.cons_append, get?_cons, get?_cons]
    split
    · rfl
    · exact ih

/-- What is under a key when every value has been changed in the same way. -/
theorem get?_map {β : Type} (f : α → β) (t : Table α) (key : String) :
    get? (t.map fun entry => (entry.1, f entry.2)) key = (get? t key).map f := by
  induction t with
  | nil => rfl
  | cons entry t ih =>
    obtain ⟨k, v⟩ := entry
    rw [List.map_cons, get?_cons, get?_cons, ih]
    split <;> rfl

/-- What is under a key is an entry. -/
theorem mem_of_get? {t : Table α} {key : String} {value : α} (h : get? t key = some value) :
    (key, value) ∈ t := by
  induction t with
  | nil => cases h
  | cons entry t ih =>
    obtain ⟨k, v⟩ := entry
    rw [get?_cons] at h
    split at h
    · rename_i hkey
      cases h
      exact hkey ▸ List.mem_cons_self
    · exact List.mem_cons_of_mem _ (ih h)

/-- There is nothing under a key that no entry has. -/
theorem get?_eq_none {t : Table α} {key : String} (h : key ∉ keys t) : get? t key = none := by
  refine Option.eq_none_iff_forall_ne_some.2 fun value hvalue => h ?_
  exact List.mem_map.2 ⟨_, mem_of_get? hvalue, rfl⟩

/-- A key that nothing is under is the key of no entry. -/
theorem notMem_keys {t : Table α} {key : String} (h : get? t key = none) : key ∉ keys t := by
  induction t with
  | nil => exact List.not_mem_nil
  | cons entry t ih =>
    obtain ⟨k, v⟩ := entry
    rw [get?_cons] at h
    split at h
    · cases h
    · rename_i hne
      rw [keys, List.map_cons, List.mem_cons, not_or]
      exact ⟨fun heq => hne heq.symm, ih h⟩

/-- Every entry is under its key, if no key occurs twice. -/
theorem get?_of_mem {t : Table α} (h : (keys t).Nodup) {key : String} {value : α}
    (hmem : (key, value) ∈ t) : get? t key = some value := by
  induction t with
  | nil => cases hmem
  | cons entry t ih =>
    obtain ⟨k, v⟩ := entry
    obtain ⟨hnew, hrest⟩ := List.nodup_cons.1 h
    rw [get?_cons]
    rcases List.mem_cons.1 hmem with heq | hmem
    · cases heq
      rw [if_pos rfl]
    · rw [if_neg, ih hrest hmem]
      rintro rfl
      exact hnew (List.mem_map.2 ⟨_, hmem, rfl⟩)

theorem IsSorted.nodup_keys {t : Table α} (h : IsSorted t) : (keys t).Nodup := by
  rw [keys, List.Nodup, List.pairwise_map]
  exact h.imp fun hlt heq => String.ne_of_lt hlt heq

/-- The entries of a sorted table are what is under its keys. -/
theorem IsSorted.get?_eq_some_iff {t : Table α} (h : IsSorted t) {key : String} {value : α} :
    get? t key = some value ↔ (key, value) ∈ t :=
  ⟨mem_of_get?, get?_of_mem h.nodup_keys⟩

/-- Sorted tables that have the same under every key are the same. -/
theorem IsSorted.ext {t u : Table α} (ht : IsSorted t) (hu : IsSorted u)
    (h : ∀ key, get? t key = get? u key) : t = u := by
  have hnodup : ∀ {t : Table α}, IsSorted t → List.Nodup t := fun ht =>
    List.Pairwise.imp (fun hlt heq => String.ne_of_lt hlt (congrArg Prod.fst heq)) ht
  have hperm : t.Perm u := by
    refine (List.perm_ext_iff_of_nodup (hnodup ht) (hnodup hu)).2 fun entry => ?_
    rw [← ht.get?_eq_some_iff, h, hu.get?_eq_some_iff]
  refine hperm.eq_of_pairwise (fun a b _ _ hab hba => ?_) ht hu
  exact absurd hba (String.lt_asymm hab)

theorem get?_foldl_insert {entries : List (String × α)} (h : (keys entries).Nodup) (t : Table α)
    (key : String) : get? (entries.foldl (fun t entry => insert t entry.1 entry.2) t) key
      = (get? entries key).or (get? t key) := by
  induction entries generalizing t with
  | nil => rfl
  | cons entry entries ih =>
    obtain ⟨k, v⟩ := entry
    obtain ⟨hnew, hrest⟩ := List.nodup_cons.1 h
    rw [List.foldl_cons, ih hrest, get?_insert, get?_cons]
    split
    · rename_i hkey
      subst hkey
      rw [get?_eq_none hnew]
      rfl
    · rfl

/-- A table made of entries with different keys has each of them under its key. -/
theorem get?_ofList {entries : List (String × α)} (h : (keys entries).Nodup) (key : String) :
    get? (ofList entries) key = get? entries key := by
  rw [ofList, get?_foldl_insert h, get?_nil, Option.or_none]

/-- A sorted table is made of its own entries. -/
theorem IsSorted.ofList_eq {t : Table α} (h : IsSorted t) : ofList t = t :=
  (isSorted_ofList t).ext h (get?_ofList h.nodup_keys)

/-- A table is made of the given entries only. -/
theorem mem_of_mem_ofList {entries : List (String × α)} {entry : String × α}
    (h : entry ∈ ofList entries) : entry ∈ entries := by
  have hfold : ∀ t : Table α, entry ∈ entries.foldl (fun t e => insert t e.1 e.2) t →
      entry ∈ entries ∨ entry ∈ t := by
    clear h
    induction entries with
    | nil => exact fun t h => Or.inr h
    | cons head entries ih =>
      intro t h
      rcases ih _ h with h | h
      · exact Or.inl (List.mem_cons_of_mem _ h)
      · exact (mem_of_mem_insert h).imp_left fun (heq : entry = head) => heq ▸ List.mem_cons_self
  exact (hfold [] h).resolve_right List.not_mem_nil

/-- What a filter leaves under a key. -/
theorem IsSorted.get?_filter {t : Table α} (h : IsSorted t) (p : String × α → Bool)
    (key : String) : get? (t.filter p) key = (get? t key).filter fun value => p (key, value) := by
  have hfilter : IsSorted (t.filter p) := List.Pairwise.filter p h
  refine Option.ext fun value => ?_
  rw [hfilter.get?_eq_some_iff, List.mem_filter, Option.filter_eq_some_iff, h.get?_eq_some_iff]

end Table

end SignIn
