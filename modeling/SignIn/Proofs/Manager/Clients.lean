import SignIn.Manager

/-!
# Finding a client by the same work

A client is looked up by its id without stopping at the first match: the id is compared with that of
every client, and only an outcome and a position are carried along. `Client.Search.Tells` is what
they say about the clients already seen. It is kept by each comparison (`Client.Search.Tells.next`)
and so by the whole scan (`Client.Search.Tells.scan`).

What comes of it is `Client.Lookup`: the last client with the id, if the digests of the ids do not
collide, and one comparison for each client in any case.
-/

namespace SignIn

namespace Client

variable {hit : String → Bool} {clients seen : List Client} {s : Search} {clientId : String}

/-! ### What a search says -/

/-- What a search says about the clients already seen, of which those match whose ids `hit` says. -/
inductive Search.Tells (hit : String → Bool) : List Client → Search → Prop
  /-- No client has matched. -/
  | none {seen : List Client} {position : Nat} (h : ∀ c ∈ seen, hit c.id = false) :
      Tells hit seen ⟨false, position⟩
  /-- The client at the position has matched, and none after it. -/
  | last {before after : List Client} {c : Client} (hc : hit c.id = true)
      (h : ∀ c' ∈ after, hit c'.id = false) : Tells hit (before ++ c :: after) ⟨true, before.length⟩

theorem Search.Tells.next (h : s.Tells hit seen) (c : Client) :
    (s.next seen.length (hit c.id)).Tells hit (seen ++ [c]) := by
  cases hc : hit c.id with
  | true =>
    have hs : s.next seen.length true = ⟨true, seen.length⟩ := by
      rw [Search.next, Bool.or_true, if_pos rfl]
    rw [hs]
    exact .last hc fun c' hc' => absurd hc' List.not_mem_nil
  | false =>
    have hs : s.next seen.length false = s := by
      rw [Search.next, Bool.or_false, if_neg Bool.false_ne_true]
    rw [hs]
    cases h with
    | none h =>
      refine .none fun c' hc' => ?_
      rcases List.mem_append.1 hc' with hc' | hc'
      · exact h c' hc'
      · rw [List.mem_singleton.1 hc', hc]
    | last hlast h =>
      rw [List.append_assoc, List.cons_append]
      refine .last hlast fun c' hc' => ?_
      rcases List.mem_append.1 hc' with hc' | hc'
      · exact h c' hc'
      · rw [List.mem_singleton.1 hc', hc]

/-- A scan of the clients that are left says what there is to say about all of them. -/
theorem Search.Tells.scan (h : s.Tells hit seen) (clients : List Client) :
    (Id.run (Client.scan (fun other => pure (hit other)) s seen.length clients)).Tells hit
      (seen ++ clients) := by
  induction clients generalizing seen s with
  | nil => simpa only [Client.scan, Id.run_pure, List.append_nil] using h
  | cons c clients ih =>
    have hrest := ih (h.next c)
    rw [List.length_append, List.length_singleton, List.append_assoc,
      List.singleton_append] at hrest
    simpa only [Client.scan, pure_bind] using hrest

/-- What the search for an id says about all clients. -/
private theorem tells_search (clients : List Client) (clientId : String) :
    (search clients clientId).Tells (sameDigestText clientId) clients :=
  Search.Tells.scan (.none fun _ hc => absurd hc List.not_mem_nil) clients

/-- The position of a match is that of a client. -/
private theorem Search.Tells.position_lt (h : s.Tells hit clients) (hfound : s.found = true) :
    s.position < clients.length := by
  cases h with
  | none => cases hfound
  | last =>
    rw [List.length_append, List.length_cons]
    exact Nat.lt_add_of_pos_right (Nat.succ_pos _)

/-! ### The last client with an id -/

/-- A client is the last one with an id. -/
def IsLast (clients : List Client) (clientId : String) (c : Client) : Prop :=
  ∃ before after, clients = before ++ c :: after ∧ c.id = clientId ∧
    ∀ c' ∈ after, c'.id ≠ clientId

/-- The digest of an id collides with that of no client's id. There are more texts than digests, so
that some collide, though none are known that do. -/
def Collisionless (clients : List Client) (clientId : String) : Prop :=
  ∀ c ∈ clients, Sha256.TellsApart (utf8 clientId) (utf8 c.id)

instance (clients : List Client) (clientId : String) :
    Decidable (Collisionless clients clientId) :=
  inferInstanceAs (Decidable (∀ c ∈ clients, Sha256.TellsApart _ _))

/-- No two clients are the last one with an id. -/
theorem IsLast.unique {c c' : Client} (h : IsLast clients clientId c)
    (h' : IsLast clients clientId c') : c = c' := by
  obtain ⟨before, after, rfl, hid, hafter⟩ := h
  obtain ⟨before', after', heq, hid', hafter'⟩ := h'
  rcases List.append_eq_append_iff.1 heq with ⟨between, -, hbetween⟩ | ⟨between, -, hbetween⟩
  · cases between with
    | nil => exact (List.cons.inj hbetween).1
    | cons d between =>
      obtain ⟨-, rfl⟩ := List.cons.inj hbetween
      exact absurd hid' (hafter c' (by simp))
  · cases between with
    | nil => exact (List.cons.inj hbetween).1.symm
    | cons d between =>
      obtain ⟨-, rfl⟩ := List.cons.inj hbetween
      exact absurd hid (hafter' c (by simp))

/-- Where the digests do not collide, the last client with an id is selected, if there is one. -/
private theorem select_cases (h : Collisionless clients clientId) :
    (∃ c, select clients clientId = some c ∧ IsLast clients clientId c) ∨
      (select clients clientId = none ∧ ∀ c ∈ clients, c.id ≠ clientId) := by
  have hne : ∀ c ∈ clients, sameDigestText clientId c.id = false → c.id ≠ clientId := by
    intro c hc hdiffers heq
    rw [(sameDigestText_iff (h c hc)).2 heq.symm] at hdiffers
    cases hdiffers
  have htells := tells_search clients clientId
  rw [select]
  generalize search clients clientId = s at htells
  cases htells with
  | none hnone =>
    refine Or.inr ⟨?_, fun c hc => hne c hc (hnone c hc)⟩
    rw [Search.selected?, if_neg Bool.false_ne_true]
  | @last before after c hc hafter =>
    refine Or.inl ⟨c, ?_, before, after, rfl, ?_, fun c' hc' => ?_⟩
    · simp [Search.selected?]
    · exact ((sameDigestText_iff (h c (by simp))).1 hc).symm
    · exact hne c' (by simp [hc']) (hafter c' hc')

/-- The last client with an id is selected. -/
theorem select_eq_some_iff (h : Collisionless clients clientId) {c : Client} :
    select clients clientId = some c ↔ IsLast clients clientId c := by
  rcases select_cases h with ⟨c', hselect, hlast⟩ | ⟨hselect, hnone⟩
  · rw [hselect, Option.some.injEq]
    exact ⟨fun heq => heq ▸ hlast, fun hc => hlast.unique hc⟩
  · refine ⟨fun hsome => ?_, ?_⟩
    · rw [hselect] at hsome
      cases hsome
    · rintro ⟨before, after, rfl, hid, -⟩
      exact absurd hid (hnone c (by simp))

/-- No client is selected just if no client has the id. -/
theorem select_eq_none_iff (h : Collisionless clients clientId) :
    select clients clientId = none ↔ ∀ c ∈ clients, c.id ≠ clientId := by
  rcases select_cases h with ⟨c, hselect, before, after, rfl, hid, -⟩ | ⟨hselect, hnone⟩
  · rw [hselect]
    exact ⟨fun hnone => absurd hnone (Option.some_ne_none c),
      fun hne => absurd hid (hne c (by simp))⟩
  · exact ⟨fun _ => hnone, fun _ => hselect⟩

/-- Where no two clients have one id, the first client with an id is the last one. -/
private theorem isLast_of_find? (hids : (clients.map Client.id).Nodup) {c : Client}
    (h : clients.find? (fun c => c.id == clientId) = some c) : IsLast clients clientId c := by
  obtain ⟨hid, before, after, rfl, -⟩ := List.find?_eq_some_iff_append.1 h
  obtain rfl : c.id = clientId := beq_iff_eq.1 hid
  refine ⟨before, after, rfl, rfl, fun c' hc' heq => ?_⟩
  rw [List.map_append, List.map_cons, List.nodup_append] at hids
  have hnotMem : c.id ∉ after.map Client.id := (List.nodup_cons.1 hids.2.1).1
  exact hnotMem (List.mem_map.2 ⟨c', hc', heq⟩)

/-- Where no two clients have one id, the plain search finds the same client. -/
private theorem select_eq_find? (h : Collisionless clients clientId)
    (hids : (clients.map Client.id).Nodup) :
    select clients clientId = clients.find? fun c => c.id == clientId := by
  cases hfind : clients.find? fun c => c.id == clientId with
  | none =>
    refine (select_eq_none_iff h).2 fun c hc heq => ?_
    exact List.find?_eq_none.1 hfind c hc (beq_iff_eq.2 heq)
  | some c => exact (select_eq_some_iff h).2 (isLast_of_find? hids hfind)

/-! ### The comparisons -/

/-- Compares two ids by their digests, and puts on record which they are. -/
def compareOnRecord (id other : String) : StateM (List (String × String)) Bool := do
  modify fun record => record ++ [(id, other)]
  return sameDigestText id other

/-- The ids are compared one by one, and all of them, whatever the outcomes are. -/
private theorem run_scan_compareOnRecord (clientId : String) (s : Search) (here : Nat)
    (clients : List Client) (record : List (String × String)) :
    (scan (compareOnRecord clientId) s here clients).run record =
      (Id.run (scan (fun other => pure (sameDigestText clientId other)) s here clients),
        record ++ clients.map fun c => (clientId, c.id)) := by
  induction clients generalizing s here record with
  | nil =>
    rw [List.map_nil, List.append_nil]
    rfl
  | cons c clients ih => simp [scan, compareOnRecord, ih]

/-- What it means to look a client up by its id with the same work for every id. -/
structure Lookup (clients : List Client) (clientId : String) : Prop where
  /-- The last client with the id is selected, as it is. -/
  last : Collisionless clients clientId →
    ∀ c, select clients clientId = some c ↔ IsLast clients clientId c
  /-- No client is selected just if no client has the id. -/
  absent : Collisionless clients clientId →
    (select clients clientId = none ↔ ∀ c ∈ clients, c.id ≠ clientId)
  /-- Where no two clients have one id, the plain search finds the same. -/
  plain : Collisionless clients clientId → (clients.map Client.id).Nodup →
    select clients clientId = clients.find? fun c => c.id == clientId
  /-- Where a client has matched, there is a client at the position. -/
  inRange : (search clients clientId).found = true →
    (search clients clientId).position < clients.length
  /-- The id is compared once with that of each client, in order, and with nothing else. -/
  compared : (scan (compareOnRecord clientId) {} 0 clients).run [] =
    (search clients clientId, clients.map fun c => (clientId, c.id))

end Client

namespace Manager

variable {σ : Type}

/-- **Looking up a client.** A call that looks for a client by its id loads the data if need be,
changes nothing, and answers with the last client that has the id, by one comparison for each
client. -/
theorem finds_last_client :
    (∀ (backend : Backend σ) (s : Shared σ) (clientId : String),
      (client? clientId).run backend s =
          ((s.ensureLoaded backend).1.map fun _ =>
              Client.select (s.ensureLoaded backend).2.directory.clients clientId,
            (s.ensureLoaded backend).2) ∧
        (s.loaded = true → (s.ensureLoaded backend).2.directory = s.directory)) ∧
      ∀ (clients : List Client) (clientId : String), Client.Lookup clients clientId := by
  refine ⟨fun backend s clientId => ⟨?_, fun hl => ?_⟩, fun clients clientId => ?_⟩
  · rw [client?, Store.look, Procedure.run]
    rcases s.ensureLoaded backend with ⟨e | ⟨⟩, s'⟩ <;> rfl
  · rw [Shared.ensureLoaded, if_pos hl]
  · exact
      { last := fun h _ => Client.select_eq_some_iff h
        absent := Client.select_eq_none_iff
        plain := Client.select_eq_find?
        inRange := (Client.tells_search clients clientId).position_lt
        compared := Client.run_scan_compareOnRecord clientId {} 0 clients [] }

/-- Three clients, two of which have one id. -/
def namesakes : List Client := [⟨"old", "a", "s1"⟩, ⟨"other", "b", "s2"⟩, ⟨"new", "a", "s3"⟩]

theorem finds_last_client_namesakes :
    Client.Collisionless namesakes "a" ∧ Client.IsLast namesakes "a" ⟨"new", "a", "s3"⟩ ∧
      Client.select namesakes "a" = some ⟨"new", "a", "s3"⟩ ∧
      ((client? "a").run (.transient Unit)
        { loaded := true, directory := { clients := namesakes }, world := () }).1
          = .ok (some ⟨"new", "a", "s3"⟩) := by
  have hids : Client.Collisionless namesakes "a" := by decide +kernel
  have hlast : Client.IsLast namesakes "a" ⟨"new", "a", "s3"⟩ :=
    ⟨namesakes.take 2, [], rfl, rfl, nofun⟩
  obtain ⟨hrun, hlookup⟩ := finds_last_client (σ := Unit)
  have hselect := ((hlookup namesakes "a").last hids _).2 hlast
  refine ⟨hids, hlast, hselect, ?_⟩
  rw [(hrun _ _ _).1]
  exact congrArg Except.ok hselect

end Manager

end SignIn
