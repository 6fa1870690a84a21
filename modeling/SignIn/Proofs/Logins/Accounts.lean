import Mathlib.Data.List.Pairwise
import SignIn.Proofs.Logins.Handshake

/-!
# One account for one username

`Portal.accounts_eq_or_contested` is the result about logins with one username: whatever happens,
two stored credentials for a username have both been handed out while none were stored for it, and
completed logins for a username lead to one user, or to the holders of two such credentials.

That is also all that can be said: `two_accounts_of_overlap` is a history of two logins that
overlap and leave a username with two users.
-/

namespace SignIn

variable {σ : Type} {backend : Backend σ}

namespace Logins

variable {P : Portal σ} {s v : Shared σ} {x : Logins σ} {history : List Occurrence}
  {username : String}

/-- The accounts in memory are in order, also while one is being saved. -/
private theorem Sound.accounts_shared (h : Sound P backend s history x v)
    (hl : x.service.shared.loaded = true) : x.Accounts P x.service.shared.directory := by
  obtain ⟨seen, htracks⟩ := h.tracks
  have haccounts := h.accounts (htracks.settled.loaded hl)
  rcases htracks.shared_cases (List.forall_mem_map.2 fun r _ => P.isImmediate_body r) hl with
    hshared | ⟨i, decide, change, a, hbody, hd, hshared⟩
  · rw [hshared]
    exact haccounts
  · obtain ⟨r, hr, hbody⟩ := Option.map_eq_some_iff.1 ((List.getElem?_map).symm.trans hbody)
    obtain ⟨userId, c, u, rfl, hholder, hu, rfl⟩ := P.body_eq_commit hbody hd
    rw [hshared]
    exact haccounts.concat (h.taken i userId c hr) hholder hu

/-- Genuine credentials for a username have been issued for it. -/
private theorem Genuine.issued_of_username {c : Credentials} (h : x.Genuine P c)
    (husername : c.username? = some username) : x.Issued P c.id username := by
  obtain ⟨f, w, hissued, hc⟩ := h
  have hw : c.username? = some w := by
    rcases hc with rfl | rfl
    · exact P.username?_issued f w
    · exact P.username?_issued f w
  have hid : c.id = f := by
    rcases hc with rfl | rfl
    · rfl
    · rfl
  obtain rfl := Option.some.inj (hw.symm.trans husername)
  rw [hid]
  exact hissued

/-- A completed login has its user, who holds credentials that have been issued for its username. -/
private theorem Sound.user_of_entered (h : Sound P backend s history x v) {u : User}
    (hu : x.Entered username u) : v.loaded = true ∧ u ∈ v.directory.users ∧
      ∃ f, x.Issued P f username ∧ u.holds f = true := by
  obtain ⟨i, userId, c, c', hasked, husername, hr⟩ := hu
  obtain ⟨hl, hmem, hholds⟩ := h.entered i userId c u c' hasked hr
  exact ⟨hl, hmem, c.id, (h.taken i userId c hasked).issued_of_username husername, hholds⟩

end Logins

/-! ### Two logins that overlap -/

namespace Logins

/-- A provider with one user in its list, and no other provider. -/
def doorway : Portal (List Bool) where
  manager := ⟨[PasswordList.provider { kind := PasswordList.kind } [⟨"a", "secret", none⟩]],
    .standard⟩
  config := { kind := PasswordList.kind }
  users := [⟨"a", "secret", none⟩]
  found := rfl

/-- A store that nothing has been loaded into. -/
def bare : Shared (List Bool) := { world := [] }

/-- Both logins get fresh credentials before either of them goes on. -/
def overlap : List Occurrence :=
  [.finish "f1" "a", .finish "f2" "a"] ++ (List.replicate 12 [.turn 0, .turn 1]).flatten ++
    [.resolve "u1" 0, .resolve "u2" 1] ++ (List.replicate 8 [.turn 2, .turn 3]).flatten

private theorem vacant_bare : Vacant Store.scripted bare where
  users := fun hl => by cases hl
  offers := fun _ => Store.offers_scripted (P := fun d => d.users = []) rfl _

set_option maxRecDepth 4000 in
private theorem stored_overlap : (doorway.after Store.scripted bare overlap).stored
    = [(doorway.issued "f1" "a").linked, (doorway.issued "f2" "a").linked] := by
  rfl

end Logins

namespace Portal

/-- **One account for one username, unless credentials have been contested.** Two stored
credentials for a username have both been handed out at a moment at which none were stored for it,
and so have credentials of two users to whom logins for it have led. -/
theorem accounts_eq_or_contested (P : Portal σ) {s : Shared σ} (hs : Vacant backend s)
    (history : List Occurrence) (username : String) :
    ((P.after backend s history).stored.Pairwise fun c e =>
      c.username? = some username → e.username? = some username →
        P.HasContested backend s history username c.id e.id) ∧
    ∀ u u', (P.after backend s history).Entered username u →
      (P.after backend s history).Entered username u' →
      u = u' ∨ ∃ f g, u.holds f = true ∧ u'.holds g = true ∧
        P.HasContested backend s history username f g := by
  obtain ⟨v, hsound⟩ := Logins.sound_after P hs history
  refine ⟨?_, fun u u' hu hu' => ?_⟩
  · rw [Logins.stored]
    split
    · rename_i hl
      have haccounts := hsound.accounts_shared hl
      refine (List.pairwise_map.1 haccounts.ids).imp_of_mem fun {c e} hc he hne hcw hew => ?_
      exact hsound.contested _ _ _ hne ((haccounts.genuine hc).issued_of_username hcw)
        ((haccounts.genuine he).issued_of_username hew)
    · exact List.Pairwise.nil
  · obtain ⟨hl, hmem, f, hf, hholds⟩ := hsound.user_of_entered hu
    obtain ⟨-, hmem', g, hg, hholds'⟩ := hsound.user_of_entered hu'
    by_cases hfg : f = g
    · subst hfg
      exact Or.inl (Directory.eq_of_holds (hsound.accounts hl).ids hmem hmem' hholds hholds')
    · exact Or.inr ⟨f, g, hholds, hholds', hsound.contested f g username hfg hf hg⟩

/-- Two logins that overlap have contested the credentials that both leave behind. -/
theorem accounts_eq_or_contested_overlap : Vacant Store.scripted Logins.bare ∧
    Logins.doorway.HasContested Store.scripted Logins.bare Logins.overlap "a" "f1" "f2" := by
  obtain ⟨hstored, -⟩ :=
    accounts_eq_or_contested Logins.doorway Logins.vacant_bare Logins.overlap "a"
  rw [Logins.stored_overlap, List.pairwise_cons] at hstored
  obtain ⟨hcontested, -⟩ := hstored
  exact ⟨Logins.vacant_bare, hcontested _ (List.mem_singleton.2 rfl) rfl rfl⟩

/-- **A username with two accounts.** -/
theorem two_accounts_of_overlap : Vacant Store.scripted Logins.bare ∧
    ¬ (((Logins.doorway.after Store.scripted Logins.bare Logins.overlap).stored.filter fun c =>
      c.username? == some "a").length ≤ 1) := by
  refine ⟨Logins.vacant_bare, ?_⟩
  rw [Logins.stored_overlap]
  decide

end Portal

end SignIn
