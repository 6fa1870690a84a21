import Mathlib.Data.List.Forall2
import Mathlib.Data.List.Induction
import Mathlib.Data.List.Nodup
import Mathlib.Data.Nat.Notation
import SignIn.Manager
import SignIn.Proofs.Account.Holders

/-!
# The providers that a configuration calls for

A manager has a provider for an entry of its configuration if what was last registered under the
type of the entry can build one from it, and if no entry before has come to a provider with the same
key (`Manager.Called`). An entry that comes to nothing, because its type is unknown or because it
cannot be used, does not stand in the way of a later one.

`Manager.CalledFor` says what this makes of a manager: which providers it has and in which order,
and that all its calls find the provider with a key among them, or fail for want of one.
`Manager.calledFor_ofConfig` proves it for every configuration that is valid.

A list of providers can be searched for a key, or an index can be kept that says where each key
stands. `Manager.Listing` is a list with such an index, built in one pass; it comes to the same.
-/

namespace SignIn

variable {σ : Type}

/-! ### Registrations -/

namespace Registry

/-- The registry after some registrations. -/
def ofRegistrations (registrations : List (String × Factory σ)) : Registry σ :=
  registrations.foldl (fun r x => r.register x.1 x.2) empty

/-- What has been registered last under a type. -/
def Stands (registrations : List (String × Factory σ)) (kind : String) (factory : Factory σ) :
    Prop :=
  ∃ before after, registrations = before ++ (kind, factory) :: after ∧ ∀ x ∈ after, x.1 ≠ kind

theorem stands_concat_iff {registrations : List (String × Factory σ)} {x : String × Factory σ}
    {kind : String} {factory : Factory σ} : Stands (registrations ++ [x]) kind factory ↔
      if x.1 = kind then x.2 = factory else Stands registrations kind factory := by
  constructor
  · rintro ⟨before, after, heq, hafter⟩
    rcases List.eq_nil_or_concat after with rfl | ⟨after, y, rfl⟩
    · obtain ⟨-, hx⟩ := List.append_inj' heq rfl
      cases hx
      rw [if_pos rfl]
    · rw [List.concat_eq_append, ← List.cons_append, ← List.append_assoc] at heq
      obtain ⟨rfl, hx⟩ := List.append_inj' heq rfl
      cases hx
      rw [if_neg (hafter x (by simp))]
      exact ⟨before, after, rfl, fun y hy => hafter y (by simp [hy])⟩
  · intro h
    split at h
    · rename_i hkind
      subst hkind h
      exact ⟨registrations, [], rfl, by simp⟩
    · rename_i hkind
      obtain ⟨before, after, rfl, hafter⟩ := h
      refine ⟨before, after ++ [x], by simp, fun y hy => ?_⟩
      rcases List.mem_append.1 hy with hy | hy
      · exact hafter y hy
      · exact List.mem_singleton.1 hy ▸ hkind

/-- **The last registration of a type counts.** -/
theorem factory?_ofRegistrations {registrations : List (String × Factory σ)} {kind : String}
    {factory : Factory σ} : (ofRegistrations registrations).factory? kind = some factory ↔
      Stands registrations kind factory := by
  induction registrations using List.reverseRecOn with
  | nil =>
    constructor
    · exact nofun
    · rintro ⟨before, after, heq, -⟩
      cases before <;> cases heq
  | append_singleton registrations x ih =>
    have hlast : ofRegistrations (registrations ++ [x])
        = (ofRegistrations registrations).register x.1 x.2 := by
      simp [ofRegistrations]
    rw [hlast, factory?_register, stands_concat_iff]
    split
    · rw [Option.some.injEq]
    · exact ih

end Registry

namespace Manager

/-! ### Which entries are called for -/

/-- The entry at a place of a configuration comes to a provider: what has been registered last under
its type builds one from it. -/
def Built (registrations : List (String × Factory σ)) (entries : List ProviderConfig) (i : ℕ)
    (entry : ProviderConfig) (p : Provider σ) : Prop :=
  entries[i]? = some entry ∧
    ∃ factory, Registry.Stands registrations entry.kind factory ∧ factory entry = .ok p

/-- The entry at a place of a configuration comes to a provider, and no entry before it that has its
type and id comes to one. -/
def Called (registrations : List (String × Factory σ)) (entries : List ProviderConfig) (i : ℕ)
    (p : Provider σ) : Prop :=
  ∃ entry, Built registrations entries i entry p ∧
    ∀ j < i, ∀ earlier q, Built registrations entries j earlier q → earlier.key ≠ entry.key

/-- All that is registered builds providers for the type and id that they are configured with. -/
def Lawful (registrations : List (String × Factory σ)) : Prop :=
  ∀ x ∈ registrations, ∀ entry p, x.2 entry = .ok p → p.key = entry.key

section Called

variable {registrations : List (String × Factory σ)} {entries : List ProviderConfig} {i : ℕ}
  {entry : ProviderConfig} {p : Provider σ}

theorem built_iff : Built registrations entries i entry p ↔ entries[i]? = some entry ∧
    (Registry.ofRegistrations registrations).build? entry = some p := by
  simp only [Built, Registry.build?, Option.bind_eq_some_iff, Registry.factory?_ofRegistrations]
  refine and_congr_right fun _ => exists_congr fun factory => and_congr_right fun _ => ?_
  cases factory entry <;> simp [Except.toOption]

/-- A provider has the type and the id of its entry. -/
theorem Built.key (hlawful : Lawful registrations) (h : Built registrations entries i entry p) :
    p.key = entry.key := by
  obtain ⟨-, factory, ⟨before, after, rfl, -⟩, hp⟩ := h
  exact hlawful (entry.kind, factory) (by simp) entry p hp

private theorem Built.lt (h : Built registrations entries i entry p) : i < entries.length :=
  (List.getElem?_eq_some_iff.1 h.1).1

/-- Entries that come later make no difference to what an entry comes to. -/
theorem built_append_iff {later : List ProviderConfig} (hi : i < entries.length) :
    Built registrations (entries ++ later) i entry p ↔ Built registrations entries i entry p := by
  rw [Built, Built, List.getElem?_append_left hi]

theorem exists_built_iff {P : Provider σ → Prop} :
    (∃ p ∈ entries.filterMap (Registry.ofRegistrations registrations).build?, P p) ↔
      ∃ i entry p, Built registrations entries i entry p ∧ P p := by
  constructor
  · rintro ⟨p, hmem, h⟩
    obtain ⟨entry, hentry, hp⟩ := List.mem_filterMap.1 hmem
    obtain ⟨i, hi⟩ := List.mem_iff_getElem?.1 hentry
    exact ⟨i, entry, p, built_iff.2 ⟨hi, hp⟩, h⟩
  · rintro ⟨i, entry, p, hbuilt, h⟩
    obtain ⟨hi, hp⟩ := built_iff.1 hbuilt
    exact ⟨p, List.mem_filterMap.2 ⟨entry, List.mem_of_getElem? hi, hp⟩, h⟩

private theorem Called.lt (h : Called registrations entries i p) : i < entries.length := by
  obtain ⟨entry, hbuilt, -⟩ := h
  exact hbuilt.lt

/-- Entries that come later make no difference to whether an entry is called for. -/
theorem called_append_iff {later : List ProviderConfig} (hi : i < entries.length) :
    Called registrations (entries ++ later) i p ↔ Called registrations entries i p := by
  simp only [Called, built_append_iff hi]
  refine exists_congr fun entry => and_congr_right fun _ => forall_congr' fun j => ?_
  refine forall_congr' fun hj => ?_
  simp only [built_append_iff (Nat.lt_trans hj hi)]

/-- The last entry is called for if it comes to a provider with a new key. -/
theorem called_concat_iff (hlawful : Lawful registrations) :
    Called registrations (entries ++ [entry]) entries.length p ↔
      (Registry.ofRegistrations registrations).build? entry = some p ∧
        ¬ ∃ q ∈ entries.filterMap (Registry.ofRegistrations registrations).build?,
          q.key = p.key := by
  have hlast : ∀ e, Built registrations (entries ++ [entry]) entries.length e p ↔
      e = entry ∧ (Registry.ofRegistrations registrations).build? e = some p := by
    intro e
    rw [built_iff, List.getElem?_concat_length, Option.some.injEq, eq_comm]
  rw [exists_built_iff]
  constructor
  · rintro ⟨e, hbuilt, hfirst⟩
    obtain ⟨rfl, hp⟩ := (hlast e).1 hbuilt
    refine ⟨hp, ?_⟩
    rintro ⟨j, earlier, q, hq, hkey⟩
    refine hfirst j hq.lt earlier q ((built_append_iff hq.lt).2 hq) ?_
    rw [← hq.key hlawful, hkey, hbuilt.key hlawful]
  · rintro ⟨hp, hnew⟩
    have hbuilt := (hlast entry).2 ⟨rfl, hp⟩
    refine ⟨entry, hbuilt, fun j hj earlier q hq hkey => hnew ?_⟩
    refine ⟨j, earlier, q, (built_append_iff hj).1 hq, ?_⟩
    rw [hq.key hlawful, hkey, hbuilt.key hlawful]

end Called

/-! ### Which providers are kept -/

/-- Among some providers and those of them that are kept there are the same keys. -/
theorem exists_key_distinct_iff {ps : List (Provider σ)} {key : ProviderKey} :
    (∃ p ∈ distinct ps, p.key = key) ↔ ∃ p ∈ ps, p.key = key := by
  have hfind : ∀ l : List (Provider σ),
      (∃ p ∈ l, p.key = key) ↔ (l.find? fun p => p.key == key).isSome = true := by
    intro l
    rw [List.find?_isSome]
    simp only [beq_iff_eq]
  rw [hfind, hfind, find?_distinct]

/-- One more provider: it is kept if its key is a new one. -/
private theorem distinct_concat (ps : List (Provider σ)) (p : Provider σ) :
    distinct (ps ++ [p]) =
      if ∃ q ∈ ps, q.key = p.key then distinct ps else distinct ps ++ [p] := by
  induction ps with
  | nil => simp [distinct]
  | cons q ps ih =>
    rw [List.cons_append, distinct, distinct, ih]
    by_cases hps : ∃ q ∈ ps, q.key = p.key
    · have hqps : ∃ q' ∈ q :: ps, q'.key = p.key := by
        obtain ⟨q', hmem, hkey⟩ := hps
        exact ⟨q', List.mem_cons_of_mem q hmem, hkey⟩
      rw [if_pos hps, if_pos hqps]
    · rw [if_neg hps, List.filter_append]
      by_cases hq : q.key = p.key
      · rw [if_pos ⟨q, List.mem_cons_self, hq⟩]
        simp [hq]
      · have hqps : ¬ ∃ q' ∈ q :: ps, q'.key = p.key := by
          rintro ⟨q', hmem, hkey⟩
          rcases List.mem_cons.1 hmem with rfl | hmem
          · exact hq hkey
          · exact hps ⟨q', hmem, hkey⟩
        rw [if_neg hqps]
        simp [Ne.symm hq]

/-- Some providers are those of the entries that are called for, which stand at some places; they
are in the order of the entries. -/
structure Picked (registrations : List (String × Factory σ)) (entries : List ProviderConfig)
    (places : List ℕ) (ps : List (Provider σ)) : Prop where
  sorted : places.Pairwise (· < ·)
  called : List.Forall₂ (Called registrations entries) places ps
  all : ∀ i p, Called registrations entries i p → i ∈ places

section Picked

variable {registrations : List (String × Factory σ)} {entries : List ProviderConfig}
  {entry : ProviderConfig} {places : List ℕ} {ps : List (Provider σ)} {p : Provider σ}

private theorem Picked.lt (h : Picked registrations entries places ps) {i : ℕ} (hi : i ∈ places) :
    i < entries.length := by
  obtain ⟨j, hj⟩ := List.mem_iff_getElem?.1 hi
  obtain ⟨hj', rfl⟩ := List.getElem?_eq_some_iff.1 hj
  exact (h.called.get hj' (h.called.length_eq ▸ hj')).lt

/-- The providers of the first entries are still called for if there is one more entry. -/
private theorem Picked.called_append (h : Picked registrations entries places ps) :
    List.Forall₂ (Called registrations (entries ++ [entry])) places ps :=
  h.called.imp fun _ _ hcalled => (called_append_iff hcalled.lt).2 hcalled

/-- An entry that is called for is one of the first, or the last. -/
private theorem Picked.mem_or_eq (h : Picked registrations entries places ps) {i : ℕ}
    (hcalled : Called registrations (entries ++ [entry]) i p) :
    i ∈ places ∨ i = entries.length := by
  rcases Nat.lt_or_ge i entries.length with hi | hi
  · exact Or.inl (h.all i p ((called_append_iff hi).1 hcalled))
  · have hlast := hcalled.lt
    rw [List.length_append, List.length_singleton] at hlast
    exact Or.inr (by omega)

/-- One more entry that is not called for. -/
theorem Picked.skip (h : Picked registrations entries places ps)
    (hnot : ∀ p, ¬ Called registrations (entries ++ [entry]) entries.length p) :
    Picked registrations (entries ++ [entry]) places ps where
  sorted := h.sorted
  called := h.called_append
  all i p hcalled := by
    rcases h.mem_or_eq hcalled with hi | rfl
    · exact hi
    · exact absurd hcalled (hnot p)

/-- One more entry that is called for. -/
theorem Picked.concat (h : Picked registrations entries places ps)
    (hp : Called registrations (entries ++ [entry]) entries.length p) :
    Picked registrations (entries ++ [entry]) (places ++ [entries.length]) (ps ++ [p]) where
  sorted := by
    refine List.pairwise_append.2 ⟨h.sorted, List.pairwise_singleton _ _, fun i hi j hj => ?_⟩
    rw [List.mem_singleton.1 hj]
    exact h.lt hi
  called := List.rel_append h.called_append (.cons hp .nil)
  all i q hcalled := by
    rcases h.mem_or_eq hcalled with hi | rfl
    · exact List.mem_append_left _ hi
    · exact List.mem_append_right _ (List.mem_singleton.2 rfl)

/-- **The providers that are kept are those of the entries that are called for**, one by one and in
the order of the configuration. -/
theorem picked_distinct (hlawful : Lawful registrations) (entries : List ProviderConfig) :
    ∃ places, Picked registrations entries places
      (distinct (entries.filterMap (Registry.ofRegistrations registrations).build?)) := by
  set registry := Registry.ofRegistrations registrations with hregistry
  induction entries using List.reverseRecOn with
  | nil => exact ⟨[], .nil, .nil, fun i p h => absurd h.lt (by simp)⟩
  | append_singleton entries entry ih =>
    obtain ⟨places, h⟩ := ih
    rw [List.filterMap_append]
    cases hbuild : registry.build? entry with
    | none =>
      -- the entry comes to no provider, and nothing is added
      refine ⟨places, ?_⟩
      rw [List.filterMap_cons_none hbuild, List.filterMap_nil, List.append_nil]
      refine h.skip fun p hp => ?_
      have hsome := ((called_concat_iff hlawful).1 hp).1
      cases hbuild.symm.trans hsome
    | some p =>
      rw [List.filterMap_cons_some hbuild, List.filterMap_nil, distinct_concat]
      by_cases hold : ∃ q ∈ entries.filterMap registry.build?, q.key = p.key
      · -- an earlier provider has the key, and the entry is passed over
        rw [if_pos hold]
        refine ⟨places, h.skip fun p' hp' => ?_⟩
        obtain ⟨hsome, hnew⟩ := (called_concat_iff hlawful).1 hp'
        cases hbuild.symm.trans hsome
        exact hnew hold
      · rw [if_neg hold]
        exact ⟨_, h.concat ((called_concat_iff hlawful).2 ⟨hbuild, hold⟩)⟩

end Picked

/-! ### Keeping an index -/

/-- Providers with an index, which says where in the list the one with a key stands. -/
structure Listing (σ : Type) where
  providers : List (Provider σ) := []
  places : List (ProviderKey × ℕ) := []

namespace Listing

/-- Where the provider with a key stands. -/
def place? (l : Listing σ) (key : ProviderKey) : Option ℕ := l.places.lookup key

/-- The provider with a key. -/
def provider? (l : Listing σ) (key : ProviderKey) : Option (Provider σ) :=
  (l.place? key).bind fun i => l.providers[i]?

/-- One more provider; it is left out if the index has its key. -/
def add (l : Listing σ) (p : Provider σ) : Listing σ :=
  match l.place? p.key with
  | some _ => l
  | none => ⟨l.providers ++ [p], (p.key, l.providers.length) :: l.places⟩

/-- A list of providers with an index, made in one pass. -/
def ofProviders (ps : List (Provider σ)) : Listing σ := ps.foldl add {}

/-- The index is in step with the list: it has the places of the providers, and no others. -/
def InStep (l : Listing σ) : Prop :=
  ∀ key i, l.place? key = some i ↔ l.providers[i]?.map Provider.key = some key

theorem InStep.empty : ({} : Listing σ).InStep := fun key i => by simp [place?]

/-- A list in step with its index finds its providers. -/
theorem InStep.provider?_eq {l : Listing σ} (h : l.InStep) (key : ProviderKey) :
    l.provider? key = l.providers.find? fun p => p.key == key := by
  rw [provider?]
  cases hplace : l.place? key with
  | none =>
    have habsent : ∀ p ∈ l.providers, p.key ≠ key := by
      intro p hp hkey
      obtain ⟨i, hi⟩ := List.mem_iff_getElem?.1 hp
      have hsome := (h key i).2 (by rw [hi, Option.map_some, hkey])
      cases hplace.symm.trans hsome
    exact (List.find?_eq_none.2 fun p hp => by simpa using habsent p hp).symm
  | some i =>
    have hi := (h key i).1 hplace
    obtain ⟨p, hp, hkey⟩ := Option.map_eq_some_iff.1 hi
    obtain ⟨hlt, hget⟩ := List.getElem?_eq_some_iff.1 hp
    rw [Option.bind_some, hp]
    refine (List.find?_eq_some_iff_getElem.2 ⟨by simpa using hkey, i, hlt, hget, ?_⟩).symm
    -- a provider before with this key would have the place that the index has
    intro j hj
    have hne : l.providers[j].key ≠ key := by
      intro hkey'
      have hj' : l.providers[j]? = some l.providers[j] := List.getElem?_eq_getElem _
      have hplace' := (h key j).2 (by rw [hj', Option.map_some, hkey'])
      have hij : i = j := Option.some.inj (hplace.symm.trans hplace')
      omega
    simpa using hne

/-- **A list and its index stay in step.** -/
theorem InStep.add {l : Listing σ} (h : l.InStep) (p : Provider σ) : (l.add p).InStep := by
  rw [Listing.add]
  split
  · exact h
  · rename_i hnew
    intro key i
    have hlookup : place? ⟨l.providers ++ [p], (p.key, l.providers.length) :: l.places⟩ key
        = if key = p.key then some l.providers.length else l.place? key := by
      rw [place?, List.lookup_cons]
      by_cases hkey : key = p.key
      · rw [if_pos hkey, beq_iff_eq.2 hkey]
      · rw [if_neg hkey, beq_eq_false_iff_ne.2 hkey]
        rfl
    rw [hlookup]
    -- the place is one of those before, the new one, or beyond the list
    rcases Nat.lt_trichotomy i l.providers.length with hi | rfl | hi
    · rw [List.getElem?_append_left hi]
      split
      · rename_i hkey
        subst hkey
        rw [← h, hnew]
        simp [Nat.ne_of_gt hi]
      · exact h key i
    · rw [List.getElem?_concat_length, Option.map_some, Option.some.injEq]
      split
      · rename_i hkey
        simp [hkey]
      · rename_i hkey
        rw [h, List.getElem?_eq_none (Nat.le_refl _)]
        simp [Ne.symm hkey]
    · rw [List.getElem?_eq_none (by simp; omega)]
      split
      · simp [Nat.ne_of_lt hi]
      · rw [h, List.getElem?_eq_none (by omega)]

private theorem InStep.providers_add {l : Listing σ} (h : l.InStep) (p : Provider σ) :
    (l.add p).providers =
      if ∃ q ∈ l.providers, q.key = p.key then l.providers else l.providers ++ [p] := by
  have hplace : l.place? p.key = none ↔ ¬ ∃ q ∈ l.providers, q.key = p.key := by
    rw [Option.eq_none_iff_forall_ne_some]
    constructor
    · rintro hnone ⟨q, hq, hkey⟩
      obtain ⟨i, hi⟩ := List.mem_iff_getElem?.1 hq
      exact hnone i ((h p.key i).2 (by rw [hi, Option.map_some, hkey]))
    · intro hnew i hi
      obtain ⟨q, hq, hkey⟩ := Option.map_eq_some_iff.1 ((h p.key i).1 hi)
      exact hnew ⟨q, List.mem_of_getElem? hq, hkey⟩
  rw [Listing.add]
  split
  · rename_i i hi
    rw [if_pos]
    by_contra hnew
    cases hi.symm.trans (hplace.2 hnew)
  · rename_i hnone
    rw [if_neg (hplace.1 hnone)]

/-- A list made in one pass is in step with its index, and has the providers that are kept. -/
private theorem ofProviders_spec (ps : List (Provider σ)) :
    (ofProviders ps).InStep ∧ (ofProviders ps).providers = distinct ps := by
  induction ps using List.reverseRecOn with
  | nil => exact ⟨InStep.empty, rfl⟩
  | append_singleton ps p ih =>
    obtain ⟨hstep, hps⟩ := ih
    have hlast : ofProviders (ps ++ [p]) = (ofProviders ps).add p := by simp [ofProviders]
    rw [hlast, hstep.providers_add, distinct_concat, hps]
    simp only [exists_key_distinct_iff]
    exact ⟨hstep.add p, trivial⟩

end Listing

/-! ### The manager for a configuration -/

/-- All calls find a provider under a key. -/
structure Finds (m : Manager σ) (key : ProviderKey) (p : Provider σ) : Prop where
  provider : m.provider? key = .ok p
  openFlow : m.openFlow key =
    .prepare p.key p.prepare (.finish (p.openFlow.map fun flow => { flow }))
  finishFlow : ∀ freshId result, result.handler = key → m.finishFlow freshId result =
    (p.credentials freshId result.data).andThen p.key fun c => .finish (.ok c)
  resolve : ∀ userId c, c.key = key → m.resolve userId c = Store.resolve p userId c

/-- All calls fail for want of a provider with a key. -/
structure Misses (m : Manager σ) (key : ProviderKey) : Prop where
  provider : m.provider? key = .error (.providerNotFound key)
  openFlow : m.openFlow key = .finish (.error (.providerNotFound key))
  finishFlow : ∀ freshId result, result.handler = key →
    m.finishFlow freshId result = .finish (.error (.providerNotFound key))
  resolve : ∀ userId c, c.key = key →
    m.resolve userId c = .finish (.error (.providerNotFound key))

private theorem finds_of_provider? {m : Manager σ} {key : ProviderKey} {p : Provider σ}
    (h : m.provider? key = .ok p) : m.Finds key p where
  provider := h
  openFlow := by rw [Manager.openFlow, withProvider, h]
  finishFlow freshId result hkey := by rw [Manager.finishFlow, withProvider, hkey, h]
  resolve userId c hkey := by rw [Manager.resolve, withProvider, hkey, h]

private theorem misses_of_provider? {m : Manager σ} {key : ProviderKey}
    (h : m.provider? key = .error (.providerNotFound key)) : m.Misses key where
  provider := h
  openFlow := by rw [Manager.openFlow, withProvider, h]
  finishFlow freshId result hkey := by rw [Manager.finishFlow, withProvider, hkey, h]
  resolve userId c hkey := by rw [Manager.resolve, withProvider, hkey, h]

/-- A manager is what a configuration calls for after some registrations. -/
structure CalledFor (registrations : List (String × Factory σ)) (config : Config)
    (m : Manager σ) : Prop where
  /-- The validity of tokens is the configured one. -/
  validity : config.validity? = some m.validity
  /-- The providers are those of the entries that are called for, one by one and in their order. -/
  providers : ∃ places : List ℕ, places.Pairwise (· < ·) ∧
    List.Forall₂ (Called registrations config.providers) places m.providers ∧
    ∀ i p, Called registrations config.providers i p → i ∈ places
  /-- The keys that are shown are different. -/
  keys : (m.infos.map fun info => (⟨info.kind, info.id⟩ : ProviderKey)).Nodup
  /-- Under the key of a provider all calls find it. -/
  finds : ∀ p ∈ m.providers, m.Finds p.key p
  /-- Under a key that no provider has all calls fail. -/
  misses : ∀ key, (∀ p ∈ m.providers, p.key ≠ key) → m.Misses key
  /-- A list with an index, made in one pass, has the same providers and finds the same. -/
  indexed : ∃ l : Listing σ, l.InStep ∧ l.providers = m.providers ∧
    l = .ofProviders (config.providers.filterMap (Registry.ofRegistrations registrations).build?) ∧
    ∀ key, l.provider? key = (m.provider? key).toOption

variable {registrations : List (String × Factory σ)} {config : Config}

/-- What is made of a valid configuration is what it calls for. -/
private theorem calledFor_distinct (hlawful : Lawful registrations) {validity : Span}
    (hvalidity : config.validity? = some validity) :
    CalledFor registrations config
      ⟨distinct (config.providers.filterMap (Registry.ofRegistrations registrations).build?),
        validity⟩ := by
  set built := config.providers.filterMap (Registry.ofRegistrations registrations).build?
    with hbuilt
  have hkeys : ((distinct built).map Provider.key).Nodup := by
    rw [List.nodup_iff_pairwise_ne, List.pairwise_map]
    exact pairwise_distinct built
  obtain ⟨hstep, hlisted⟩ := Listing.ofProviders_spec built
  obtain ⟨places, hpicked⟩ := picked_distinct hlawful config.providers
  refine {
    validity := hvalidity
    providers := ⟨places, hpicked.sorted, hpicked.called, hpicked.all⟩
    keys := ?_
    finds := fun p hp => finds_of_provider? ?_
    misses := fun key hnone => misses_of_provider? ?_
    indexed := ⟨.ofProviders built, hstep, hlisted, rfl, fun key => ?_⟩ }
  · rw [infos, List.map_map]
    exact hkeys
  · have hfind : (distinct built).find? (fun q => q.key == p.key) = some p :=
      find?_eq_some_of_unique hp (by simp) fun q hq hkey =>
        List.inj_on_of_nodup_map hkeys hq hp (by simpa using hkey)
    rw [provider?, hfind]
  · have hfind : (distinct built).find? (fun p => p.key == key) = none :=
      List.find?_eq_none.2 fun p hp => by simpa using hnone p hp
    rw [provider?, hfind]
  · rw [hstep.provider?_eq, hlisted, provider?]
    cases (distinct built).find? fun p => p.key == key <;> rfl

/-- **A manager has the providers that its configuration calls for.** There is none exactly if the
configuration is not valid. The manager is made from the registrations and the configuration alone;
no data are loaded or stored for it. -/
theorem calledFor_ofConfig (hlawful : Lawful registrations) (hvalidity : config.validity? ≠ none) :
    match config.validate with
    | .error fault => ofConfig (.ofRegistrations registrations) config = .error (.invalid fault)
    | .ok () => ∃ m, ofConfig (.ofRegistrations registrations) config = .ok m ∧
        CalledFor registrations config m := by
  obtain ⟨validity, hvalidity⟩ := Option.ne_none_iff_exists'.1 hvalidity
  cases hvalid : config.validate with
  | error fault => simp only [ofConfig, hvalid]
  | ok =>
    refine ⟨_, ?_, calledFor_distinct hlawful hvalidity⟩
    simp only [ofConfig, hvalid, hvalidity]

/-- Builds a provider that does nothing, from an entry without settings. -/
def idle : Factory Unit := fun entry =>
  if entry.extra.isEmpty then
    .ok { config := entry, openFlow := .error .invalidUser,
          credentials := fun _ _ => .answer (.error .invalidUser) }
  else .error .invalidUser

/-- Registrations of two types, one of which replaces an earlier one. -/
def doorways : List (String × Factory Unit) :=
  [("form", fun _ => .error .invalidUser), ("card", idle), ("form", idle)]

/-- Entries of an unknown type, with settings that are of no use, and with a key that has been
taken; an id may be empty, or absent. -/
def entrance : Config where
  providers := [{ kind := "token" },
    { kind := "form", id := some "a", extra := [("users", .null)] },
    { kind := "form", name := some "Form", id := some "a" }, { kind := "card", id := some "" },
    { kind := "form", name := some "Other", id := some "a" }, { kind := "card" }]

theorem calledFor_ofConfig_entrance : Lawful doorways ∧ entrance.validity? ≠ none ∧
    ∃ m, ofConfig (.ofRegistrations doorways) entrance = .ok m ∧ CalledFor doorways entrance m ∧
      m.infos = [⟨"Form", some "a", "form"⟩, ⟨Provider.standardName, some "", "card"⟩,
        ⟨Provider.standardName, none, "card"⟩] := by
  have hidle : ∀ entry p, idle entry = .ok p → p.key = entry.key := by
    intro entry p hp
    rw [idle] at hp
    split at hp
    · cases hp
      rfl
    · cases hp
  have hlawful : Lawful doorways := by
    intro x hx entry p hp
    rcases List.mem_cons.1 hx with rfl | hx
    · cases hp
    · rcases List.mem_cons.1 hx with rfl | hx
      · exact hidle entry p hp
      · cases List.mem_singleton.1 hx
        exact hidle entry p hp
  have hvalidity : entrance.validity? ≠ none := by decide
  obtain ⟨m, hm, hcalled⟩ := calledFor_ofConfig hlawful hvalidity
  refine ⟨hlawful, hvalidity, m, hm, hcalled, ?_⟩
  have hinfos : (ofConfig (.ofRegistrations doorways) entrance).toOption.map infos
      = some [⟨"Form", some "a", "form"⟩, ⟨Provider.standardName, some "", "card"⟩,
        ⟨Provider.standardName, none, "card"⟩] := by
    decide
  rw [hm] at hinfos
  exact Option.some.inj hinfos

end Manager

end SignIn
