import SignIn.Proofs.Account.Growth
import SignIn.Proofs.Service.Endings
import SignIn.Proofs.Store.NoTrace
import SignIn.Proofs.Store.SerialOrder
import SignIn.Proofs.Store.Writes

/-!
# Turns of calls of the store

Behind a run of calls of the store there is a settled state at every moment (`Store.Stage`). With
the data loaded, a turn leaves it as it is, or ends a call; and a call that ends leaves the data as
they are, or it succeeds and makes one of the changes that it is there for (`Store.Stage.turn`).

What a call has come to can be read off the state that it leaves: whoever credentials have been
taken to is there and holds them (`Store.Call.held_of_run`), and whoever has been removed was there
(`Store.Call.removed_of_run`).
-/

namespace SignIn.Store

variable {σ : Type} {backend : Backend σ} {s t : Shared σ} {calls : List (Call σ)}

/-! ### What calls leave behind -/

/-- Whoever credentials have been resolved to is there, and holds them under their key. -/
private theorem held_of_run_resolve {provider : Provider σ} {userId : String} {c c' : Credentials}
    {u : User} (h : (resolve provider userId c).run backend s = (.ok (u, c'), t)) :
    c' = c.linked ∧ t.loaded = true ∧ u ∈ t.directory.users ∧ u.holdsFrom c.key c.id = true := by
  rcases hload : s.ensureLoaded backend with ⟨e | _, v⟩
  · rw [resolve, Procedure.run_load_of_error hload] at h
    cases h
  have hl : v.loaded = true := Shared.loaded_of_ensureLoaded hload
  rw [resolve, Procedure.run_load_of_ensureLoaded hload] at h
  cases hc : c.isNew with
  | false =>
    have hlinked : c.linked = c := by rw [Credentials.linked, ← hc]
    simp only [hc, Bool.false_eq_true, if_false, Procedure.run, userOfLinked] at h
    cases hholder : v.directory.holderFrom? c.key c.id with
    | none =>
      simp only [hholder] at h
      cases h
    | some w =>
      simp only [hholder] at h
      cases h
      obtain ⟨hu, hholds⟩ := Directory.mem_and_holdsFrom_of_holderFrom? hholder
      exact ⟨hlinked.symm, hl, hu, hholds⟩
  | true =>
    rw [if_pos hc, Hook.run_andThen hl] at h
    split at h
    case h_2 => cases h
    simp only [Procedure.run, decideNew] at h
    cases hholder : v.directory.holder? c.id with
    | some w =>
      simp only [hholder] at h
      split at h
      case isFalse => cases h
      rename_i hholds
      cases h
      obtain ⟨hu, -⟩ := Directory.mem_and_holds_of_holder? hholder
      exact ⟨rfl, hl, hu, hholds⟩
    | none =>
      -- the user is made with these credentials, and is there once they have been saved
      simp only [hholder, Shared.settle, Shared.save] at h
      split at h <;> cases h
      refine ⟨rfl, hl, List.mem_append_right _ (List.mem_singleton.2 rfl), ?_⟩
      exact User.holdsFrom_iff.2 ⟨c.linked, List.mem_singleton.2 rfl, rfl, rfl⟩

/-- With the data loaded, a user who has been removed was there, and is gone. -/
private theorem removed_of_run_removeUser {userId : String} (hl : s.loaded = true)
    (h : (removeUser userId : Procedure σ Unit).run backend s = (.ok (), t)) :
    ∃ i u, s.directory.users[i]? = some u ∧ u.id = userId ∧ t.loaded = true ∧
      t.directory = (Change.removeUser i u).apply s.directory := by
  rw [removeUser, alter, Procedure.run_load_of_loaded hl] at h
  simp only [Procedure.run] at h
  rcases withUser_cases s.directory userId fun i u => Decision.commit (.removeUser i u) () with
    ⟨herror, -⟩ | ⟨i, u, hu, hid, hcommit⟩
  · rw [herror] at h
    cases h
  · rw [hcommit] at h
    simp only [Shared.settle, Shared.save] at h
    split at h <;> cases h
    exact ⟨i, u, hu, hid, hl, rfl⟩

namespace Call

/-- Whether a call is there to link credentials with an id: a link, or a login with credentials that
are marked as new. -/
def Brings (credentialsId : String) : Call σ → Prop
  | link _ c => c.id = credentialsId
  | resolve _ _ c => c.isNew = true ∧ c.id = credentialsId
  | _ => False

/-- What a call that has taken credentials to a user answers, and leaves behind. -/
theorem held_of_run {provider : Provider σ} {userId : String} {c : Credentials}
    {ds : List Directory} {reply : Reply}
    (h : ((resolve provider userId c).replaying ds).procedure.run backend s = (.ok reply, t)) :
    ∃ u, reply = .account u c.linked ∧ t.loaded = true ∧ u ∈ t.directory.users ∧
      u.holdsFrom c.key c.id = true := by
  rw [replaying, procedure, Procedure.run_map] at h
  rcases hrun : (Store.resolve { provider with
    userMeta := fun c' => (provider.userMeta c').replay provider.key ds } userId c).run backend s
    with ⟨e | ⟨u, c'⟩, t'⟩
  · rw [hrun] at h
    cases h
  · rw [hrun] at h
    cases h
    obtain ⟨rfl, hl, hu, hholds⟩ := held_of_run_resolve hrun
    exact ⟨u, rfl, hl, hu, hholds⟩

/-- What a call that has removed a user has found, and leaves behind. -/
theorem removed_of_run {userId : String} {ds : List Directory} {reply : Reply}
    (hl : s.loaded = true)
    (h : ((removeUser userId).replaying ds).procedure.run backend s = (.ok reply, t)) :
    ∃ i u, s.directory.users[i]? = some u ∧ u.id = userId ∧ t.loaded = true ∧
      t.directory = (Change.removeUser i u).apply s.directory := by
  have hmap : ((Store.removeUser userId).map fun _ => Reply.done).run backend s = _ :=
    Procedure.run_map _ _ s
  rcases hrun : (Store.removeUser userId : Procedure σ Unit).run backend s with ⟨e | _, t'⟩
  · rw [hrun] at hmap
    cases hmap.symm.trans h
  · rw [hrun] at hmap
    cases hmap.symm.trans h
    exact removed_of_run_removeUser hl hrun

theorem eq_removeUser_of_alters {call : Call σ} {ds : List Directory} {d : Directory} {i : ℕ}
    {u : User} (h : (call.replaying ds).Alters d (.removeUser i u)) : call = removeUser u.id := by
  cases call with
  | removeUser userId =>
    obtain ⟨j, w, -, rfl, heq⟩ := h
    cases heq
    rfl
  | load | user? | users | clients | credentialsOf => exact h.elim
  | resolve =>
    obtain ⟨-, -, about, -, heq⟩ := h
    cases heq
  | link =>
    obtain ⟨-, j, w, -, -, heq⟩ := h
    cases heq
  | createToken =>
    obtain ⟨j, w, -, -, heq⟩ := h
    cases heq
  | createClient => cases h

/-- Credentials are added by calls that are there to link them. -/
theorem brings_of_alters {call : Call σ} {ds : List Directory} {d : Directory} {change : Change}
    (h : (call.replaying ds).Alters d change) {e : Credentials} (he : e ∈ change.added) :
    call.Brings e.id := by
  cases call with
  | resolve provider userId c =>
    obtain ⟨hnew, -, about, -, rfl⟩ := h
    rw [List.mem_singleton.1 he]
    exact ⟨hnew, rfl⟩
  | link userId c =>
    obtain ⟨-, i, u, -, -, rfl⟩ := h
    rw [List.mem_singleton.1 he]
    rfl
  | load | user? | users | clients | credentialsOf => exact h.elim
  | removeUser | createToken =>
    obtain ⟨i, u, -, -, rfl⟩ := h
    cases he
  | createClient =>
    obtain rfl := h
    cases he

end Call

/-! ### Turns of a run -/

/-- The settled state behind a run of calls of the store. -/
abbrev Stage (backend : Backend σ) (s : Shared σ) (calls : List (Call σ)) (order : List ℕ)
    (v : Shared σ) : Prop :=
  Service.Along backend s (calls.map Call.body) order v

private theorem isGuided_bodies (calls : List (Call σ)) :
    ∀ q ∈ calls.map Call.body, q.IsGuided := by
  intro q hq
  obtain ⟨c, -, rfl⟩ := List.mem_map.1 hq
  exact c.isGuided_body

/-- At the beginning of a run the settled state is the one in memory. -/
private theorem stage_nil (s : Shared σ) (calls : List (Call σ)) : Stage backend s calls [] s :=
  Service.tracks_begun s (isGuided_bodies calls)

variable {order : List ℕ} {v : Shared σ}

/-- What a call can decide on once the data have been loaded. -/
private theorem Call.commits_body {R : Directory → Change → Prop} {call : Call σ}
    (h : call.procedure.Obeys (.commits R)) : call.body.Obeys (.commits R) := by
  rw [call.procedure_eq] at h
  exact h

/-- **A turn of a run, told about the settled state.** It ends no call, and loads the data or does
nothing; or it ends a call, which comes out as if it were made now. -/
theorem Stage.turn (h : Stage backend s calls order v) (k : ℕ) :
    ∃ v', Stage backend s calls (order ++ [k]) v' ∧
      (((∀ i, ((opening s calls).turns backend (order ++ [k])).result? i
          = ((opening s calls).turns backend order).result? i) ∧
        (v' = v ∨ (v.loaded = false ∧ v.ensureLoaded backend = (.ok (), v')))) ∨
      ∃ call r ds, calls[k]? = some call ∧ Service.Ends backend (opening s calls) order k r ∧
        (call.replaying ds).procedure.run backend v = (r, v')) := by
  obtain ⟨v', hstage, hcases⟩ := Service.Along.turn (isGuided_bodies calls) h k
  refine ⟨v', hstage, ?_⟩
  rw [opening_eq]
  rcases hcases with hquiet | ⟨q, r, hq, hends, hrun⟩
  · exact Or.inl hquiet
  · rw [List.getElem?_map] at hq
    obtain ⟨call, hcall, rfl⟩ := Option.map_eq_some_iff.1 hq
    rw [← Call.procedure_replaying] at hrun
    exact Or.inr ⟨call, r, _, hcall, hends, hrun⟩

/-- With the data loaded, a turn leaves them as they are, or ends a call that succeeds and makes one
of the changes that it is there for. -/
theorem Stage.turn_of_loaded (h : Stage backend s calls order v) (hl : v.loaded = true) (k : ℕ) :
    ∃ v', Stage backend s calls (order ++ [k]) v' ∧ v'.loaded = true ∧
      (v'.directory = v.directory ∨ ∃ call reply ds change, calls[k]? = some call ∧
        Service.Ends backend (opening s calls) order k (.ok reply) ∧
        (call.replaying ds).Alters v.directory change ∧
        v'.directory = change.apply v.directory) := by
  obtain ⟨v', hstage, hcases⟩ := h.turn k
  refine ⟨v', hstage, ?_⟩
  rcases hcases with ⟨-, rfl | ⟨hl', -⟩⟩ | ⟨call, r, ds, hcall, hends, hrun⟩
  · exact ⟨hl, Or.inl rfl⟩
  · exact absurd hl (ne_true_of_eq_false hl')
  · have hplain := (call.replaying ds).plain_procedure
    have hcommits := (call.replaying ds).commits_alters
    obtain ⟨hl', hsame | ⟨change, reply, rfl, halters, hchange⟩⟩ :=
      hplain.run_of_loaded (fun _ _ halters => halters.ordains.fits) hcommits hl hrun
    · exact ⟨hl', Or.inl hsame⟩
    · exact ⟨hl', Or.inr ⟨call, reply, ds, change, hcall, hends, halters, hchange⟩⟩

/-- A turn that ends a call does what the call does if it is made now. -/
theorem Stage.turn_of_ends (h : Stage backend s calls order v) {k : ℕ} {call : Call σ}
    (hcall : calls[k]? = some call) {r : Except Failure Reply}
    (hends : Service.Ends backend (opening s calls) order k r) :
    ∃ v' ds, Stage backend s calls (order ++ [k]) v' ∧
      (call.replaying ds).procedure.run backend v = (r, v') := by
  obtain ⟨v', hstage, ⟨hsame, -⟩ | ⟨call', r', ds, hcall', hends', hrun⟩⟩ := h.turn k
  · have hnone := hsame k
    rw [hends.1, hends.2] at hnone
    cases hnone
  · obtain rfl := Option.some.inj (hcall.symm.trans hcall')
    obtain rfl := Option.some.inj (hends.2.symm.trans hends'.2)
    exact ⟨v', ds, hstage, hrun⟩

/-- Behind every run there is a settled state. -/
theorem exists_stage (backend : Backend σ) (s : Shared σ) (calls : List (Call σ))
    (order : List ℕ) : ∃ v, Stage backend s calls order v := by
  induction order using List.reverseRecOn with
  | nil => exact ⟨s, stage_nil s calls⟩
  | append_singleton order k ih =>
    obtain ⟨v, h⟩ := ih
    obtain ⟨v', h', -⟩ := h.turn k
    exact ⟨v', h'⟩

/-- The settled data are well formed, where those in memory are so at every moment. -/
theorem Stage.wellFormed (h : Stage backend s calls order v) (hdata : s.directory.WellFormed)
    (hoffers : s.loaded = false → backend.Offers Directory.WellFormed s.world)
    (hfresh : (opening s calls).Allows backend (fun d change => change.Fresh d) order) :
    v.directory.WellFormed := by
  have hstart : (opening s calls).Upheld backend Directory.WellFormed
      fun d change => change.Fresh d := by
    refine Service.upheld_start hdata hoffers fun p hp => ?_
    obtain ⟨c, -, rfl⟩ := List.mem_map.1 hp
    exact c.commits_upholds
  have hupheld := hstart.turns (orderly_opening s calls) hfresh
  rw [opening_eq] at hupheld
  refine h.upheld hupheld fun q hq => ?_
  obtain ⟨c, -, rfl⟩ := List.mem_map.1 hq
  exact Call.commits_body (c.commits_suits.mono_commits fun _ _ hsuits => hsuits.fits)

end SignIn.Store
