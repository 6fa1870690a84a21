import SignIn.Proofs.Logins.Visits

/-!
# Who holds what

`Directory.holdings` lists all users by their ids, each with the credentials that the user holds.
What becomes of it in a run is simple as long as nothing is linked by hand and nobody is removed: a
call adds one user at most, with the credentials that it brings, and leaves everybody else with what
they hold (`Manager.holdings_cases`).
-/

namespace SignIn

variable {σ : Type} {backend : Backend σ} {s t : Shared σ}

/-- The ids of all users, each with the credentials that the user holds. -/
def Directory.holdings (d : Directory) : List (String × List Credentials) :=
  d.users.map fun u => (u.id, u.credentials)

/-- Who holds what in memory. Nobody does before the data have been loaded. -/
def Shared.holdings (s : Shared σ) : List (String × List Credentials) :=
  if s.loaded then s.directory.holdings else []

theorem Shared.holdings_of_loaded (hl : s.loaded = true) : s.holdings = s.directory.holdings :=
  if_pos hl

theorem Shared.loaded_of_mem_holdings {h : String × List Credentials} (hmem : h ∈ s.holdings) :
    s.loaded = true := by
  by_contra hl
  rw [holdings, if_neg hl] at hmem
  cases hmem

theorem Directory.mem_credentials_iff {d : Directory} {c : Credentials} :
    c ∈ d.credentials ↔ ∃ h ∈ d.holdings, c ∈ h.2 := by
  simp only [credentials, holdings, List.mem_flatMap, List.mem_map, exists_exists_and_eq_and]

/-- Data that come from a backend without users have no users. -/
theorem Shared.Onward.holdings_eq (h : s.Onward backend (fun d => d.users = []) t) :
    t.holdings = s.holdings := by
  cases hs : s.loaded with
  | true =>
    obtain ⟨ht, hd⟩ := h.kept hs
    rw [holdings_of_loaded ht, holdings_of_loaded hs, hd]
  | false =>
    cases ht : t.loaded with
    | true =>
      have hempty : t.directory.users = [] := h.found hs ht
      simp [holdings, hs, ht, Directory.holdings, hempty]
    | false => simp [holdings, hs, ht]

namespace Manager

variable {m : Manager σ} {calls done : List (Call σ)}

private theorem Call.eq_of_toStore? {c : Call σ} {call : Store.Call σ}
    (h : c.toStore? m = some call) : c = .store call ∨
      (∃ p userId c', c = .resolve userId c' ∧ call = .resolve p userId c') ∨
      ∃ userId clientId tokenId now, c = .createToken userId clientId tokenId now ∧
        call = .createToken m.validity userId clientId tokenId now := by
  cases c with
  | store c =>
    cases h
    exact Or.inl rfl
  | resolve userId c' =>
    simp only [toStore?] at h
    split at h <;> cases h
    exact Or.inr (Or.inl ⟨_, userId, c', rfl, rfl⟩)
  | createToken userId clientId tokenId now =>
    cases h
    exact Or.inr (Or.inr ⟨userId, clientId, tokenId, now, rfl, rfl⟩)
  | prepare | openFlow | finishFlow | userMeta | client? => cases h

/-- A call that neither links nor removes adds one user, or leaves everybody with what they hold. -/
private theorem Call.holdings_of_alters {c : Call σ} (hc : c.IsOrdinary) {d : Directory}
    {change : Change} (h : c.Alters m d change) : (change.apply d).holdings = d.holdings ∨
      ∃ userId c', c.brings? = some (userId, c') ∧ c'.isNew = true ∧
        (change.apply d).holdings = d.holdings ++ [(userId, [c'.linked])] := by
  obtain ⟨call, hcall, halters⟩ := h
  have hcases := eq_of_toStore? hcall
  cases call with
  | load | user? | users | clients | credentialsOf => exact halters.elim
  | createClient client =>
    obtain rfl := halters
    exact Or.inl rfl
  | createToken validity userId clientId tokenId now =>
    obtain ⟨i, u, -, -, rfl⟩ := halters
    exact Or.inl (map_modify_of_eq (by intro _; rfl) d.users i)
  | link | removeUser =>
    rcases hcases with rfl | ⟨_, _, _, -, ⟨⟩⟩ | ⟨_, _, _, _, -, ⟨⟩⟩
    exact hc.elim
  | resolve provider userId c' =>
    obtain ⟨hnew, -, about, -, rfl⟩ := halters
    have hbrings : c.brings? = some (userId, c') := by
      rcases hcases with rfl | ⟨_, _, _, rfl, ⟨⟩⟩ | ⟨_, _, _, _, -, ⟨⟩⟩ <;> rfl
    refine Or.inr ⟨userId, c', hbrings, hnew, ?_⟩
    simp [Change.apply, Directory.holdings, Store.newUser, User.create]

/-- **A call adds one user at most**, and succeeds if it does. -/
theorem holdings_cases (hretains : m.Retains backend fun d => d.users = [])
    (h : s.loaded = false → backend.Offers (fun d => d.users = []) s.world) {c : Call σ}
    (hc : c.IsOrdinary) {r : Except Failure Reply}
    (hrun : (c.procedure m).run backend s = (r, t)) : t.holdings = s.holdings ∨
      ∃ userId c' reply, c.brings? = some (userId, c') ∧ c'.isNew = true ∧ r = .ok reply ∧
        t.holdings = s.holdings ++ [(userId, [c'.linked])] := by
  rcases Call.run_cases hretains h hrun with honward | ⟨v, change, a, hv, hl, halters, hr, ht, hd⟩
  · exact Or.inl honward.holdings_eq
  · have hsv : v.directory.holdings = s.holdings := by
      rw [← Shared.holdings_of_loaded hl]
      exact hv.holdings_eq
    rw [Shared.holdings_of_loaded ht, hd]
    rcases Call.holdings_of_alters hc halters with hsame | ⟨userId, c', hbrings, hnew, hmore⟩
    · exact Or.inl (hsame.trans hsv)
    · exact Or.inr ⟨userId, c', a, hbrings, hnew, hr, by rw [hmore, hsv]⟩

end Manager

end SignIn
