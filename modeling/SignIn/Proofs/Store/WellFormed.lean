import SignIn.Proofs.Account.WellFormed
import SignIn.Proofs.Service.Upheld
import SignIn.Proofs.Store.Calls

/-!
# The store keeps its data well formed

Every change that a call of the store decides on heeds what it has to (`Call.commits_suits`): the
two calls that add credentials look for their id among those of all users, and the calls that
change a user look up its place first.

So data that are well formed stay so in every run, whatever the calls are given and whatever fails
(`Store.wellFormed_turns`): in memory at every moment, and in everything that is handed to the
backend.
-/

namespace SignIn

variable {σ α : Type} {backend : Backend σ}

namespace Store

/-! ### What changes heed -/

/-- There is no user with an id, or it is found together with its place. -/
theorem withUser_cases (d : Directory) (userId : String) (f : ℕ → User → Decision α) :
    (withUser d userId f = .answer (.error (.userNotFound userId)) ∧
        ∀ u ∈ d.users, u.id ≠ userId) ∨
      ∃ i u, d.users[i]? = some u ∧ u.id = userId ∧ withUser d userId f = f i u := by
  cases hi : d.userPosition? userId with
  | none =>
    refine Or.inl ⟨by simp [withUser, hi], fun u hu hid => ?_⟩
    have hnot := List.findIdx?_eq_none_iff.1 hi u hu
    exact absurd hid (by simpa using hnot)
  | some i =>
    obtain ⟨hlt, hid, -⟩ := List.findIdx?_eq_some_iff_getElem.1 hi
    have hu : d.users[i]? = some d.users[i] := List.getElem?_eq_getElem hlt
    exact Or.inr ⟨i, d.users[i], hu, beq_iff_eq.1 hid, by simp [withUser, hi, hu]⟩

/-- A change of a user is one of the user with the id. -/
theorem withUser_eq_commit {d : Directory} {userId : String} {f : ℕ → User → Decision α}
    {change : Change} {a : α} (h : withUser d userId f = .commit change a) :
    ∃ i u, d.users[i]? = some u ∧ u.id = userId ∧ f i u = .commit change a := by
  rcases withUser_cases d userId f with ⟨herror, -⟩ | ⟨i, u, hu, hid, hf⟩
  · rw [herror] at h
    cases h
  · exact ⟨i, u, hu, hid, hf ▸ h⟩

/-- New credentials are added with a new user, unless somebody holds credentials with their id. -/
theorem decideNew_eq_commit {userId : String} {about : UserMeta} {c : Credentials}
    {d : Directory} {change : Change} {r : User × Credentials}
    (h : decideNew userId about c d = .commit change r) :
    d.holder? c.id = none ∧ change = .addUser (newUser d userId about c) ∧
      r = (newUser d userId about c, c.linked) := by
  rw [decideNew] at h
  cases hc : d.holder? c.id with
  | none =>
    simp only [hc] at h
    cases h
    exact ⟨rfl, rfl, rfl⟩
  | some u =>
    simp only [hc] at h
    split at h <;> cases h

/-- A call that resolves credentials heeds the ids of the credentials that are there. -/
private theorem commits_resolve (provider : Provider σ) (userId : String) (c : Credentials) :
    (resolve provider userId c).Obeys (.commits fun d change => change.Suits d) := by
  show Procedure.Obeys _ (if c.isNew then _ else _)
  split
  · refine Hook.obeys_andThen _ fun about _ => Procedure.obeys_write fun d change r h => ?_
    obtain ⟨hnone, rfl, -⟩ := decideNew_eq_commit h
    exact ⟨rfl, c.linked, rfl, rfl, Directory.holder?_eq_none_iff.1 hnone⟩
  · exact fun _ _ _ => trivial

private theorem commits_link (userId : String) (c : Credentials) :
    (link userId c : Procedure σ Credentials).Obeys (.commits fun d change => change.Suits d) := by
  refine Procedure.obeys_write fun d change a h => ?_
  cases hc : d.holder? c.id with
  | some u =>
    simp only [hc] at h
    split at h <;> cases h
  | none =>
    simp only [hc] at h
    obtain ⟨i, u, hu, -, hcommit⟩ := withUser_eq_commit h
    cases hcommit
    exact ⟨⟨u, hu⟩, rfl, Directory.holder?_eq_none_iff.1 hc⟩

/-- **Every change heeds what it has to.** -/
theorem Call.commits_suits (c : Call σ) :
    c.procedure.Obeys (.commits fun d change => change.Suits d) := by
  cases c with
  | load => exact fun _ _ => trivial
  | user? | users | clients | credentialsOf => exact fun _ _ _ => trivial
  | resolve provider userId c => exact Procedure.obeys_map.2 (commits_resolve provider userId c)
  | link userId c => exact Procedure.obeys_map.2 (commits_link userId c)
  | removeUser userId =>
    refine Procedure.obeys_map.2 (Procedure.obeys_write fun d change a h => ?_)
    obtain ⟨i, u, hu, -, hcommit⟩ := withUser_eq_commit h
    cases hcommit
    exact hu
  | createToken validity userId clientId tokenId now =>
    refine Procedure.obeys_map.2 (Procedure.obeys_write fun d change a h => ?_)
    obtain ⟨i, u, hu, hid, hcommit⟩ := withUser_eq_commit h
    cases hcommit
    exact ⟨u, hu, hid.symm⟩
  | createClient client =>
    refine Procedure.obeys_map.2 (Procedure.obeys_write fun d change a h => ?_)
    cases h
    trivial

/-! ### Whole runs -/

/-- A change that a call decides on keeps a directory well formed, if the ids that are drawn for
it are not in use. -/
theorem Call.commits_upholds (c : Call σ) :
    c.procedure.Obeys
      (.commits (Change.Upholds Directory.WellFormed fun d change => change.Fresh d)) :=
  c.commits_suits.mono_commits fun _ _ hsuits hd hfresh => ⟨hsuits.fits, hd.apply hfresh hsuits⟩

/-- **The data are well formed at every moment of every run**, in memory and where they are handed
to the backend, if they are so when they are loaded, and if no id that is drawn is in use. -/
theorem wellFormed_turns {s : Shared σ} {calls : List (Call σ)} {order : List ℕ}
    (hdata : s.directory.WellFormed)
    (hoffers : s.loaded = false → backend.Offers Directory.WellFormed s.world)
    (hfresh : (opening s calls).Allows backend (fun d change => change.Fresh d) order)
    {before after : List ℕ} (hmoment : order = before ++ after) :
    ((opening s calls).turns backend before).shared.directory.WellFormed ∧
      ∀ i d, ((opening s calls).turns backend before).snapshot? i = some d → d.WellFormed := by
  have horderly : (opening s calls).Orderly := by
    refine Service.orderly_start s fun p hp => ?_
    obtain ⟨c, -, rfl⟩ := List.mem_map.1 hp
    exact ⟨c.body, c.procedure_eq, c.isGuided_body.plain⟩
  have hstart : (opening s calls).Upheld backend Directory.WellFormed
      fun d change => change.Fresh d := by
    refine Service.upheld_start hdata hoffers fun p hp => ?_
    obtain ⟨c, -, rfl⟩ := List.mem_map.1 hp
    exact c.commits_upholds
  rw [hmoment] at hfresh
  have hupheld := hstart.turns horderly hfresh.of_append
  refine ⟨hupheld.data, fun i d hsnapshot => ?_⟩
  obtain rfl := Service.eq_of_snapshot? hsnapshot
  exact hupheld.data

/-- What a scripted backend loads is empty. -/
theorem offers_scripted {P : Directory → Prop} (hempty : P {}) (w : List Bool) :
    scripted.Offers P w := by
  intro w' d w'' _ hload
  simp only [scripted] at hload
  split at hload <;> cases hload
  exact hempty

theorem wellFormed_turns_rush :
    flaky.directory.WellFormed ∧ scripted.Offers Directory.WellFormed flaky.world ∧
      (opening flaky rush).Allows scripted (fun d change => change.Fresh d) rushTurns ∧
      ((opening flaky rush).turns scripted rushTurns).shared.directory.WellFormed :=
  have hfresh : (opening flaky rush).Allows scripted (fun d change => change.Fresh d)
      rushTurns := by
    decide +kernel
  have hempty : Directory.WellFormed {} := Directory.wellFormed_empty
  have hmoment := wellFormed_turns hempty (fun _ => offers_scripted hempty _) hfresh
    (List.append_nil rushTurns).symm
  ⟨hempty, offers_scripted hempty _, hfresh, hmoment.1⟩

end Store

end SignIn
