import SignIn.Proofs.Store.Writes

/-!
# The owner of a store

The first user of an empty store is made its owner. `Store.Bootstrapped` says what this comes to in
a run, whatever its calls are, however they take turns, and whatever fails: there is one owner at
most, who stands first; nobody becomes or ceases to be owner or active later on; an owner who could
not be saved leaves the place free; and a store that has lost its owner gets none before its last
user has been removed.

`Store.bootstrapped_turns` proves this from any moment of any run to any later one. What a call sees
of the data are those at moments at which no change is being saved; in between, the data in memory
may have a change in them that is taken back.
-/

namespace SignIn.Store

variable {σ : Type} {backend : Backend σ}

/-- What holds of the owner and of all users in a run from one moment on. -/
structure Bootstrapped (backend : Backend σ) (y : Service σ Reply) (order : List ℕ) : Prop where
  /-- One user at most is owner, who stands first. -/
  ownerFirst : (y.turns backend order).shared.directory.OwnerFirst
  /-- Whoever is added is owner, and active, just where there was no user. -/
  ordained : ∀ i d u, (i, .change d (.addUser u)) ∈ y.journal backend order →
    (u.isOwner = true ↔ d.users = []) ∧ (u.isActive = true ↔ d.users = [])
  /-- All that a user shows of itself stays as it is at first. -/
  steadfast : y.shared.loaded = true → y.free .data = true →
    y.shared.directory.Descends
      (fun v => ∃ i d u, (i, Deed.change d (.addUser u)) ∈ y.journal backend order ∧ v = u.view)
      (y.turns backend order).shared.directory
  /-- After an owner who could not be saved, the next user who is added is owner. -/
  vacant : ∀ before i snapshot u e between j d v after,
    y.journal backend order = before ++ (i, .save snapshot (.addUser u) (.error e)) ::
      (between ++ (j, .change d (.addUser v)) :: after) →
    u.isOwner = true → (∀ k d' w, (k, .save d' (.addUser w) (.ok ())) ∉ between) →
    v.isOwner = true ∧ v.isActive = true
  /-- Users without owner get none before the last of them has been removed. -/
  regained : y.shared.loaded = true → y.free .data = true → y.shared.directory.Ownerless →
    ∀ u ∈ (y.turns backend order).shared.directory.users, u.isOwner = true →
      ∃ i snapshot k v, (i, .save snapshot (.removeUser k v) (.ok ())) ∈ y.journal backend order ∧
        snapshot.users = []

variable {calls : List (Call σ)} {d? : Option Directory} {log : Journal}

/-- Whoever is added to the data that are safe is owner, and active, just where there is no user. -/
private theorem ordained_of_lawful (h : Journal.Lawful (Alter calls) d? log) {i : ℕ} {d : Directory}
    {u : User} (hmem : (i, .change d (.addUser u)) ∈ log) :
    (u.isOwner = true ↔ d.users = []) ∧ (u.isActive = true ↔ d.users = []) := by
  obtain ⟨howner, hactive⟩ := (h.of_change hmem).ordains
  rw [howner, hactive, List.isEmpty_iff]
  exact ⟨Iff.rfl, Iff.rfl⟩

/-- **An owner who could not be saved leaves the place free.** -/
theorem vacant_of_lawful {before between after : Journal} {i j : ℕ} {snapshot d : Directory}
    {u v : User} {e : Failure} (h : Journal.Lawful (Alter calls) d?
      (before ++ (i, .save snapshot (.addUser u) (.error e)) ::
        (between ++ (j, .change d (.addUser v)) :: after)))
    (howner : u.isOwner = true)
    (hbetween : ∀ k d' w, (k, .save d' (.addUser w) (.ok ())) ∉ between) :
    v.isOwner = true ∧ v.isActive = true := by
  -- the data that are safe are the same before and after what has failed
  obtain ⟨d', hd', -, halter⟩ := h before i _ _ rfl
  have hempty : d'.users = [] := by
    rw [← List.isEmpty_iff, ← halter.ordains.1]
    exact howner
  have hrest := h.of_append_right
  rw [hd', ← List.singleton_append] at hrest
  have hlater : Journal.Lawful (Alter calls) (some d')
      (between ++ (j, .change d (.addUser v)) :: after) := hrest.of_append_right
  obtain ⟨d'', hd'', hempty''⟩ := hlater.of_append_left.keeps (P := fun d => d.users = []) hempty
    fun k d₁ c hmem _ hd₁ => by
      refine Directory.users_eq_nil_apply hd₁ ?_
      rintro w rfl
      exact hbetween k _ w hmem
  obtain ⟨heq, halter'⟩ := hlater between j _ after rfl
  cases hd''.symm.trans heq
  obtain ⟨hv, hv'⟩ := halter'.ordains
  rw [hempty''] at hv hv'
  exact ⟨hv, hv'⟩

/-- Users without owner get none, unless the last of them has been removed. -/
private theorem ownerless_of_lawful {d : Directory} (h : Journal.Lawful (Alter calls) (some d) log)
    (hd : d.Ownerless) (hsaved : ∀ i snapshot k v,
      (i, .save snapshot (.removeUser k v) (.ok ())) ∈ log → snapshot.users ≠ []) :
    ∃ d', Journal.secured (some d) log = some d' ∧ d'.Ownerless := by
  refine h.keeps hd fun i d' c hmem hc hd' => hd'.apply hc.ordains ?_
  cases c with
  | removeUser k v => exact hsaved i _ k v hmem
  | addUser u => simp [Change.apply]
  | addCredentials | addToken | addClient =>
    rw [ne_eq, ← Directory.roster_eq_nil_iff, Directory.roster_apply]
    exact fun hnil => hd'.1 (Directory.roster_eq_nil_iff.1 hnil)

/-- One owner at most, who stands first, at every moment of a run. -/
private theorem ownerFirst_turns {s : Shared σ} (calls : List (Call σ))
    (hdata : s.directory.OwnerFirst)
    (hoffers : s.loaded = false → backend.Offers Directory.OwnerFirst s.world)
    (order : List ℕ) : ((opening s calls).turns backend order).shared.directory.OwnerFirst := by
  have hstart : (opening s calls).Upheld backend Directory.OwnerFirst fun _ _ => True := by
    refine Service.upheld_start hdata hoffers fun p hp => ?_
    obtain ⟨c, -, rfl⟩ := List.mem_map.1 hp
    exact c.commits_alters.mono_commits fun d change hc hd _ =>
      ⟨hc.ordains.fits, hd.apply hc.ordains⟩
  exact (hstart.turns (orderly_opening s calls)
    (Service.allows_of_forall (fun _ _ => trivial) order)).data

/-- **Users without owner get none** before the last of them has been removed, in memory. -/
theorem regained_of_course {y : Service σ Reply} (hy : y.Course (Alter calls) d?)
    (hl : y.shared.loaded = true) (hf : y.free .data = true)
    (hownerless : y.shared.directory.Ownerless) {order : List ℕ} {u : User}
    (hu : u ∈ (y.turns backend order).shared.directory.users) (howner : u.isOwner = true) :
    ∃ i snapshot k v, (i, .save snapshot (.removeUser k v) (.ok ())) ∈ y.journal backend order ∧
      snapshot.users = [] := by
  obtain ⟨hlawful, hlater, -⟩ := hy.turns_of_free (fun _ _ _ h => h.fits) hl hf backend order
  by_contra hnone
  obtain ⟨d, hd, hdowner⟩ := ownerless_of_lawful hlawful hownerless
    fun i snapshot k v hmem hempty => hnone ⟨i, snapshot, k, v, hmem, hempty⟩
  obtain ⟨d', hd', hcases⟩ := hlater.directory_cases (Service.loaded_turns hl order)
  cases hd.symm.trans hd'
  have hnot : u.isOwner = false := by
    rcases hcases with heq | ⟨i, p, c, -, -, heq, hc⟩
    · rw [heq] at hu
      exact hdowner.2 u hu
    · -- a change that is being saved leaves somebody in memory, since `u` is there
      rw [heq] at hu
      exact (hdowner.apply hc.ordains (List.ne_nil_of_mem hu)).2 u hu
  exact absurd howner (ne_true_of_eq_false hnot)

/-- **The owner of a store**, from any moment of any run to any later one, if the data have one
owner at most, who stands first, when they are loaded. A user is made owner just where there is
nobody, and after that nothing but its removal takes the place from it. -/
theorem bootstrapped_turns {s : Shared σ} (calls : List (Call σ))
    (hdata : s.directory.OwnerFirst)
    (hoffers : s.loaded = false → backend.Offers Directory.OwnerFirst s.world)
    (before after : List ℕ) :
    Bootstrapped backend ((opening s calls).turns backend before) after := by
  obtain ⟨-, hcourse⟩ := course_turns backend s calls before
  obtain ⟨hlawful, -⟩ := hcourse.turns (fun _ _ _ h => h.fits) backend after
  constructor
  case ownerFirst =>
    rw [← Service.turns_append]
    exact ownerFirst_turns calls hdata hoffers _
  case ordained =>
    intro i d u hmem
    exact ordained_of_lawful hlawful hmem
  case steadfast =>
    intro hl hf
    refine hcourse.keeps (fun _ _ _ h => h.fits) hl hf (.refl _ _) fun i d₀ d c hmem _ hd => ?_
    refine hd.apply ?_
    rintro u rfl
    exact ⟨i, d₀, u, hmem, rfl⟩
  case vacant =>
    intro before i snapshot u e between j d v after hlog
    rw [hlog] at hlawful
    exact vacant_of_lawful hlawful
  case regained =>
    intro hl hf hownerless u hu howner
    exact regained_of_course hcourse hl hf hownerless hu howner

/-- Three calls, one after another. -/
def inTurn : List ℕ := List.replicate 16 0 ++ List.replicate 16 1 ++ List.replicate 16 2

/-- Three people log in one after another. The first of them cannot be saved, and the second becomes
owner. -/
theorem bootstrapped_turns_arrivals :
    Directory.OwnerFirst {} ∧ scripted.Offers Directory.OwnerFirst [true, false] ∧
      Bootstrapped scripted (opening { world := [true, false] } arrivals) inTurn ∧
      ((opening { world := [true, false] } arrivals).turns scripted inTurn).shared.directory.roster
        = [⟨"u2", true, true, none⟩, ⟨"u3", false, false, none⟩] :=
  have hempty : Directory.OwnerFirst {} := fun i u hu => by simp at hu
  ⟨hempty, offers_scripted hempty _, bootstrapped_turns arrivals hempty
    (fun _ => offers_scripted hempty _) [] inTurn, by decide +kernel⟩

end SignIn.Store
