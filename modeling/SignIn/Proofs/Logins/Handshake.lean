import Mathlib.Data.List.Induction
import SignIn.Proofs.Logins.Requests
import SignIn.Proofs.Service.Upheld

/-!
# Logins with one username

A login asks for credentials first and for the user behind them next, and other logins may come in
between. `Logins` are requests to one provider with a list of passwords that are under way or have
been answered; an `Occurrence` is one more request or a turn of one of them, and `Portal.after` is
where any history of them leads to, from a store without users.

Credentials are stored with the second request only. So two logins with one username can both be
handed fresh credentials, as long as none are stored for it: both are then `Logins.Contested`, and
both may be stored in the end. That is the only way in which a username comes to two users
(`Portal.accounts_eq_or_contested`).

The argument follows credentials back to where they were issued. `Logins.Sound` is the invariant:
every stored entry, and all credentials in the hands of callers, are ones that were issued to a
request (`Logins.Genuine`), and each user has one of them.
-/

namespace SignIn

variable {σ : Type} {backend : Backend σ}

/-- Requests, with the service that carries them out. -/
structure Logins (σ : Type) where
  service : Service σ Answer
  asked : List Request

/-- What may happen next: somebody makes a request, or one that has been made takes a turn. -/
inductive Occurrence where
  /-- The result of a flow for a username is turned in, and an id is drawn for fresh
  credentials. -/
  | finish (freshId username : String)
  /-- The credentials that a request has been answered with are taken to their user, and an id is
  drawn for a new one. -/
  | resolve (userId : String) (request : ℕ)
  /-- A request takes a turn. -/
  | turn (request : ℕ)

/-- The id that a request has drawn for fresh credentials. -/
def Request.freshId? : Request → Option String
  | .finish freshId _ => some freshId
  | .resolve _ _ => none

namespace Logins

/-- The credentials that a request has been answered with. -/
def credentials? (x : Logins σ) (i : ℕ) : Option Credentials :=
  match x.service.result? i with
  | some (.ok a) => some a.credentials
  | _ => none

/-- The logins with one more request. -/
def ask (P : Portal σ) (x : Logins σ) (r : Request) : Logins σ :=
  ⟨x.service.withCall (P.procedure r), x.asked ++ [r]⟩

/-- What an occurrence leads to. An id that has been drawn before is not drawn again, and what has
not been handed out cannot be taken to its user: such occurrences change nothing. -/
def next (P : Portal σ) (backend : Backend σ) (x : Logins σ) : Occurrence → Logins σ
  | .finish freshId username =>
    if x.asked.any fun r => r.freshId? == some freshId then x
    else x.ask P (.finish freshId username)
  | .resolve userId i =>
    match x.credentials? i with
    | some c => x.ask P (.resolve userId c)
    | none => x
  | .turn i => ⟨x.service.turn backend i, x.asked⟩

/-- The stored credentials. There are none before the data have been loaded. -/
def stored (x : Logins σ) : List Credentials :=
  if x.service.shared.loaded then x.service.shared.directory.credentials else []

/-- Fresh credentials with an id have been handed out for a username. -/
def Issued (P : Portal σ) (x : Logins σ) (freshId username : String) : Prop :=
  ∃ i, x.asked[i]? = some (.finish freshId username) ∧
    x.service.result? i = some (.ok (.handed (P.issued freshId username)))

/-- A login for a username has been completed, and has led to a user. -/
def Entered (x : Logins σ) (username : String) (u : User) : Prop :=
  ∃ i userId c c', x.asked[i]? = some (.resolve userId c) ∧ c.username? = some username ∧
    x.service.result? i = some (.ok (.entered u c'))

/-- Two ids stand for fresh credentials that have been handed out for a username, and none are
stored for it. Both can still be taken to a user of their own, since nothing is reserved between the
two requests of a login. -/
def Contested (P : Portal σ) (x : Logins σ) (username f g : String) : Prop :=
  x.Issued P f username ∧ x.Issued P g username ∧ ∀ c ∈ x.stored, c.username? ≠ some username

/-- Credentials that have been issued, as they were then or with the mark of being linked. -/
def Genuine (P : Portal σ) (x : Logins σ) (c : Credentials) : Prop :=
  ∃ f w, x.Issued P f w ∧ (c = P.issued f w ∨ c = (P.issued f w).linked)

end Logins

namespace Portal

variable (P : Portal σ)

/-- Where a history leads to, from a service without requests. -/
def after (backend : Backend σ) (s : Shared σ) (history : List Occurrence) : Logins σ :=
  history.foldl (Logins.next P backend) ⟨⟨s, []⟩, []⟩

private theorem after_concat (backend : Backend σ) (s : Shared σ) (history : List Occurrence)
    (occurrence : Occurrence) : P.after backend s (history ++ [occurrence])
      = (P.after backend s history).next P backend occurrence := by
  simp [after]

/-- Two ids have been contested at some moment of a history. -/
def HasContested (backend : Backend σ) (s : Shared σ) (history : List Occurrence)
    (username f g : String) : Prop :=
  ∃ before after, history = before ++ after ∧ (P.after backend s before).Contested P username f g

theorem HasContested.concat {P : Portal σ} {s : Shared σ} {history : List Occurrence}
    {username f g : String} (h : P.HasContested backend s history username f g)
    (occurrence : Occurrence) :
    P.HasContested backend s (history ++ [occurrence]) username f g := by
  obtain ⟨before, after, rfl, hcontested⟩ := h
  exact ⟨before, after ++ [occurrence], List.append_assoc _ _ _, hcontested⟩

end Portal

/-- A store without users, or whose backend has none. -/
structure Vacant (backend : Backend σ) (s : Shared σ) : Prop where
  users : s.loaded = true → s.directory.users = []
  offers : s.loaded = false → backend.Offers (fun d => d.users = []) s.world

namespace Logins

variable {P : Portal σ} {s v v' : Shared σ} {x z : Logins σ} {history : List Occurrence} {k : ℕ}

/-! ### Nothing is forgotten -/

/-- Requests and answers stay. -/
structure Extends (x z : Logins σ) : Prop where
  asked : ∀ (i : ℕ) r, x.asked[i]? = some r → z.asked[i]? = some r
  results : ∀ i a, x.service.result? i = some (.ok a) → z.service.result? i = some (.ok a)

theorem Issued.mono {f w : String} (h : x.Issued P f w) (hxz : x.Extends z) : z.Issued P f w := by
  obtain ⟨i, hasked, hresult⟩ := h
  exact ⟨i, hxz.asked i _ hasked, hxz.results i _ hresult⟩

theorem Genuine.mono {c : Credentials} (h : x.Genuine P c) (hxz : x.Extends z) :
    z.Genuine P c := by
  obtain ⟨f, w, hissued, hc⟩ := h
  exact ⟨f, w, hissued.mono hxz, hc⟩

/-- Genuine credentials are ones that have been issued, once they are linked. -/
private theorem Genuine.linked_eq {c : Credentials} (h : x.Genuine P c) :
    ∃ f w, x.Issued P f w ∧ c.linked = (P.issued f w).linked := by
  obtain ⟨f, w, hissued, rfl | rfl⟩ := h
  · exact ⟨f, w, hissued, rfl⟩
  · exact ⟨f, w, hissued, rfl⟩

/-- Genuine credentials are genuine once they are linked. -/
theorem Genuine.linked {c : Credentials} (h : x.Genuine P c) : x.Genuine P c.linked := by
  obtain ⟨f, w, hissued, hc⟩ := h.linked_eq
  exact ⟨f, w, hissued, Or.inr hc⟩

private theorem Genuine.key_eq {c : Credentials} (h : x.Genuine P c) : c.key = P.key := by
  obtain ⟨f, w, -, rfl | rfl⟩ := h <;> rfl

/-- At most one request is answered, and no request is made. -/
structure Answers (x z : Logins σ) (k : ℕ) : Prop where
  asked : z.asked = x.asked
  before : x.service.result? k = none
  others : ∀ i, i ≠ k → z.service.result? i = x.service.result? i

/-- An answer changes nothing about those that have been given. -/
private theorem Answers.extends (h : x.Answers z k) : x.Extends z := by
  refine ⟨fun i r hr => h.asked ▸ hr, fun i a ha => ?_⟩
  rw [h.others i, ha]
  rintro rfl
  rw [h.before] at ha
  cases ha

private theorem Answers.result_cases (h : x.Answers z k) {i : ℕ} {a : Answer}
    (ha : z.service.result? i = some (.ok a)) :
    x.service.result? i = some (.ok a) ∨ (i = k ∧ z.service.result? k = some (.ok a)) := by
  by_cases hi : i = k
  · exact Or.inr ⟨hi, hi ▸ ha⟩
  · rw [h.others i hi] at ha
    exact Or.inl ha

private theorem Answers.issued_cases (h : x.Answers z k) {f w : String} (hissued : z.Issued P f w) :
    x.Issued P f w ∨ (x.asked[k]? = some (.finish f w) ∧
      z.service.result? k = some (.ok (.handed (P.issued f w)))) := by
  obtain ⟨i, hasked, ha⟩ := hissued
  rw [h.asked] at hasked
  rcases h.result_cases ha with ha | ⟨rfl, ha⟩
  · exact Or.inl ⟨i, hasked, ha⟩
  · exact Or.inr ⟨hasked, ha⟩

/-! ### The invariant -/

/-- Every user has credentials that have been issued, and no two have the same. -/
structure Accounts (P : Portal σ) (x : Logins σ) (d : Directory) : Prop where
  issued : ∀ u ∈ d.users, ∃ f w, x.Issued P f w ∧ u.credentials = [(P.issued f w).linked]
  ids : (d.credentials.map Credentials.id).Nodup

theorem Accounts.mono {d : Directory} (h : x.Accounts P d) (hxz : x.Extends z) :
    z.Accounts P d := by
  refine ⟨fun u hu => ?_, h.ids⟩
  obtain ⟨f, w, hissued, hu⟩ := h.issued u hu
  exact ⟨f, w, hissued.mono hxz, hu⟩

private theorem accounts_of_users_eq_nil {d : Directory} (hd : d.users = []) : x.Accounts P d := by
  refine ⟨fun u hu => ?_, by simp [Directory.credentials, hd]⟩
  rw [hd] at hu
  cases hu

/-- All stored credentials have been issued, and are linked. -/
theorem Accounts.credentials {d : Directory} (h : x.Accounts P d) {c : Credentials}
    (hc : c ∈ d.credentials) : ∃ f w, x.Issued P f w ∧ c = (P.issued f w).linked := by
  obtain ⟨u, hu, hc⟩ := List.mem_flatMap.1 hc
  obtain ⟨f, w, hissued, hcredentials⟩ := h.issued u hu
  rw [hcredentials, List.mem_singleton] at hc
  exact ⟨f, w, hissued, hc⟩

theorem Accounts.genuine {d : Directory} (h : x.Accounts P d) {c : Credentials}
    (hc : c ∈ d.credentials) : x.Genuine P c := by
  obtain ⟨f, w, hissued, hc⟩ := h.credentials hc
  exact ⟨f, w, hissued, Or.inr hc⟩

/-- Data with the same users have the same accounts. -/
theorem Accounts.congr {d d' : Directory} (h : x.Accounts P d) (hd : d'.users = d.users) :
    x.Accounts P d' := by
  refine ⟨hd ▸ h.issued, ?_⟩
  rw [Directory.credentials, hd]
  exact h.ids

/-- **One more account**, for genuine credentials whose id nobody holds. -/
theorem Accounts.concat {d : Directory} (h : x.Accounts P d) {u : User} {c : Credentials}
    (hc : x.Genuine P c) (hholder : d.holder? c.id = none) (hu : u.credentials = [c.linked]) :
    x.Accounts P { d with users := d.users ++ [u] } := by
  refine ⟨fun u' hu' => ?_, ?_⟩
  · rcases List.mem_append.1 hu' with hu' | hu'
    · exact h.issued u' hu'
    · obtain ⟨f, w, hissued, hlinked⟩ := hc.linked_eq
      rw [List.mem_singleton.1 hu', hu, hlinked]
      exact ⟨f, w, hissued, rfl⟩
  · have hperm : (Directory.credentials { d with users := d.users ++ [u] }).Perm
        (d.credentials ++ [c.linked]) := by
      simp [Directory.credentials, hu]
    exact nodup_map_concat hperm h.ids (Directory.holder?_eq_none_iff.1 hholder)

/-- Where a request for a user has led to the user, the user is there, and the accounts are in
order. -/
private theorem Accounts.resolved {d d' : Directory} (h : x.Accounts P d) {c : Credentials}
    (hc : x.Genuine P c) {u : User}
    (hd : (d' = d ∧ u ∈ d.users) ∨
      (d.holder? c.id = none ∧ u.credentials = [c.linked] ∧ d'.users = d.users ++ [u])) :
    x.Accounts P d' ∧ u ∈ d'.users ∧ ∀ u' ∈ d.users, u' ∈ d'.users := by
  rcases hd with ⟨rfl, hu⟩ | ⟨hholder, hu, hd⟩
  · exact ⟨h, hu, fun u' hu' => hu'⟩
  · refine ⟨(h.concat hc hholder hu).congr hd, ?_, fun u' hu' => ?_⟩
    · rw [hd]
      exact List.mem_concat_self
    · rw [hd]
      exact List.mem_append_left _ hu'

/-- Where a history has led to, with the settled state behind it. -/
structure Sound (P : Portal σ) (backend : Backend σ) (s : Shared σ) (history : List Occurrence)
    (x : Logins σ) (v : Shared σ) : Prop where
  tracks : ∃ seen, x.service.Tracks (x.asked.map P.body) seen v
  vacant : v.loaded = false → backend.Offers (fun d => d.users = []) v.world
  /-- An id is drawn once. -/
  drawn : ∀ (i j : ℕ) f w w', x.asked[i]? = some (.finish f w) →
    x.asked[j]? = some (.finish f w') → i = j
  /-- All credentials in the hands of callers are genuine. -/
  held : ∀ i a, x.service.result? i = some (.ok a) → x.Genuine P a.credentials
  taken : ∀ (i : ℕ) userId c, x.asked[i]? = some (.resolve userId c) → x.Genuine P c
  accounts : v.loaded = true → x.Accounts P v.directory
  /-- A login that has been completed has its user. -/
  entered : ∀ (i : ℕ) userId c u c', x.asked[i]? = some (.resolve userId c) →
    x.service.result? i = some (.ok (.entered u c')) →
    v.loaded = true ∧ u ∈ v.directory.users ∧ u.holds c.id = true
  contested : ∀ f g w, f ≠ g → x.Issued P f w → x.Issued P g w →
    P.HasContested backend s history w f g

private theorem sound_start (hs : Vacant backend s) :
    Sound P backend s [] ⟨⟨s, []⟩, []⟩ s where
  tracks := by
    have hnone : ∀ q ∈ ([] : List (Procedure σ Answer)), q.IsGuided := fun q hq => by cases hq
    exact ⟨_, Service.tracks_begun s hnone⟩
  vacant := hs.offers
  drawn := fun i j f w w' h => by cases h
  held := fun i a h => by cases h
  taken := fun i userId c h => by cases h
  accounts := fun hl => accounts_of_users_eq_nil (hs.users hl)
  entered := fun i userId c u c' h => by cases h
  contested := by
    rintro f g w - ⟨i, h, -⟩
    cases h

theorem Sound.unchanged (h : Sound P backend s history x v) (occurrence : Occurrence) :
    Sound P backend s (history ++ [occurrence]) x v :=
  { h with contested := fun f g w hfg hf hg => (h.contested f g w hfg hf hg).concat occurrence }

/-! ### One more request -/

private theorem Sound.lt_of_result (h : Sound P backend s history x v) {i : ℕ}
    {a : Except Failure Answer} (ha : x.service.result? i = some a) : i < x.asked.length := by
  obtain ⟨seen, htracks⟩ := h.tracks
  have hlength : x.service.calls.length = x.asked.length := by
    rw [htracks.length, List.length_map]
  rw [← hlength]
  by_contra hi
  rw [Service.result?, List.getElem?_eq_none (Nat.le_of_not_lt hi)] at ha
  cases ha

/-- **One more request**, with an id that has not been drawn or with genuine credentials. -/
theorem Sound.ask (h : Sound P backend s history x v) (occurrence : Occurrence) {r : Request}
    (hdrawn : ∀ f w, r = .finish f w → ∀ (i : ℕ) w', x.asked[i]? ≠ some (.finish f w'))
    (hgenuine : ∀ userId c, r = .resolve userId c → x.Genuine P c) :
    Sound P backend s (history ++ [occurrence]) (x.ask P r) v := by
  have hprocedure : P.procedure r = .load (P.body r) := by
    cases r with
    | finish f w => exact P.procedure_finish f w
    | resolve userId c => exact P.procedure_resolve (hgenuine userId c rfl).key_eq
  have hresult : ∀ i, (x.ask P r).service.result? i = x.service.result? i := by
    intro i
    rw [Logins.ask, hprocedure]
    exact Service.result?_withCall _ i
  -- a request that has been answered is not the new one
  have hold : ∀ (i : ℕ) a r', x.service.result? i = some a →
      (x.ask P r).asked[i]? = some r' → x.asked[i]? = some r' := by
    intro i a r' ha hr'
    have hi := h.lt_of_result ha
    rcases getElem?_concat_cases hr' with ⟨heq, -⟩ | hr'
    · exact absurd hi (by omega)
    · exact hr'
  have hxz : x.Extends (x.ask P r) := by
    refine ⟨fun i r' hr' => ?_, fun i a ha => (hresult i).trans ha⟩
    obtain ⟨hi, -⟩ := List.getElem?_eq_some_iff.1 hr'
    exact (List.getElem?_append_left hi).trans hr'
  have hissued : ∀ f w, (x.ask P r).Issued P f w → x.Issued P f w := by
    rintro f w ⟨i, hasked, ha⟩
    rw [hresult] at ha
    exact ⟨i, hold i _ _ ha hasked, ha⟩
  have htracks : ∃ seen, (x.ask P r).service.Tracks ((x.ask P r).asked.map P.body) seen v := by
    obtain ⟨seen, htracks⟩ := h.tracks
    have hwithCall := htracks.withCall (P.isGuided_body r).plain
    rw [Logins.ask, hprocedure, List.map_append, List.map_singleton]
    exact ⟨_, hwithCall⟩
  refine ⟨htracks, h.vacant, fun i j f w w' hi hj => ?_, fun i a ha => ?_,
    fun i userId c hc => ?_, fun hl => (h.accounts hl).mono hxz, fun i userId c u c' hc hu => ?_,
    fun f g w hfg hf hg => ?_⟩
  · -- the id of the new request is another one than those before
    rcases getElem?_concat_cases hi with ⟨rfl, hr⟩ | hi <;>
      rcases getElem?_concat_cases hj with ⟨rfl, hr'⟩ | hj
    · rfl
    · exact absurd hj (hdrawn f w hr.symm j w')
    · exact absurd hi (hdrawn f w' hr'.symm i w)
    · exact h.drawn i j f w w' hi hj
  · rw [hresult] at ha
    exact (h.held i a ha).mono hxz
  · rcases getElem?_concat_cases hc with ⟨-, hr⟩ | hc
    · exact (hgenuine userId c hr.symm).mono hxz
    · exact (h.taken i userId c hc).mono hxz
  · rw [hresult] at hu
    exact h.entered i userId c u c' (hold i _ _ hu hc) hu
  · exact (h.contested f g w hfg (hissued f w hf) (hissued g w hg)).concat occurrence

/-! ### One more answer -/

/-- **At most one more answer**, with what it has to keep to. -/
theorem Sound.answers (h : Sound P backend s history x v) (occurrence : Occurrence)
    (hxz : x.Answers z k) (htracks : ∃ seen, z.service.Tracks (x.asked.map P.body) seen v')
    (hvacant : v'.loaded = false → backend.Offers (fun d => d.users = []) v'.world)
    (hkept : v.loaded = true → v'.loaded = true ∧ ∀ u ∈ v.directory.users, u ∈ v'.directory.users)
    (haccounts : v'.loaded = true → z.Accounts P v'.directory)
    (hheld : ∀ a, z.service.result? k = some (.ok a) → z.Genuine P a.credentials)
    (hentered : ∀ userId c u c', x.asked[k]? = some (.resolve userId c) →
      z.service.result? k = some (.ok (.entered u c')) →
      v'.loaded = true ∧ u ∈ v'.directory.users ∧ u.holds c.id = true)
    (hissued : ∀ f w, x.asked[k]? = some (.finish f w) →
      z.service.result? k = some (.ok (.handed (P.issued f w))) →
      ∀ c ∈ z.stored, c.username? ≠ some w)
    (hz : P.after backend s (history ++ [occurrence]) = z) :
    Sound P backend s (history ++ [occurrence]) z v' := by
  have hextends := hxz.extends
  have hasked := hxz.asked
  refine ⟨hasked ▸ htracks, hvacant, hasked ▸ h.drawn, fun i a ha => ?_, fun i userId c hc => ?_,
    haccounts, fun i userId c u c' hc hu => ?_, fun f g w hfg hf hg => ?_⟩
  · rcases hxz.result_cases ha with ha | ⟨-, ha⟩
    · exact (h.held i a ha).mono hextends
    · exact hheld a ha
  · rw [hasked] at hc
    exact (h.taken i userId c hc).mono hextends
  · rw [hasked] at hc
    rcases hxz.result_cases hu with hu | ⟨rfl, hu⟩
    · obtain ⟨hl, hmem, hholds⟩ := h.entered i userId c u c' hc hu
      obtain ⟨hl', hmem'⟩ := hkept hl
      exact ⟨hl', hmem' u hmem, hholds⟩
    · exact hentered userId c u c' hc hu
  · -- credentials that are handed out now are contested now
    have hnow : (∀ c ∈ z.stored, c.username? ≠ some w) →
        P.HasContested backend s (history ++ [occurrence]) w f g := fun hstored =>
      ⟨_, [], (List.append_nil _).symm, hz ▸ ⟨hf, hg, hstored⟩⟩
    rcases hxz.issued_cases hf with hf' | ⟨hk, hr⟩
    · rcases hxz.issued_cases hg with hg' | ⟨hk, hr⟩
      · exact (h.contested f g w hfg hf' hg').concat occurrence
      · exact hnow (hissued g w hk hr)
    · exact hnow (hissued f w hk hr)

theorem Sound.handed (h : Sound P backend s history x v) (occurrence : Occurrence)
    (hxz : x.Answers z k) (htracks : ∃ seen, z.service.Tracks (x.asked.map P.body) seen v)
    (hl : v.loaded = true) {f w : String} (hk : x.asked[k]? = some (.finish f w))
    (hr : z.service.result? k = some (.ok (.handed (P.chosen f w v.directory))))
    (hshared : z.service.shared = v) (hz : P.after backend s (history ++ [occurrence]) = z) :
    Sound P backend s (history ++ [occurrence]) z v := by
  have haccounts : z.Accounts P v.directory := (h.accounts hl).mono hxz.extends
  refine h.answers occurrence hxz htracks h.vacant (fun hl => ⟨hl, fun u hu => hu⟩)
    (fun _ => haccounts) (fun a ha => ?_) (fun userId c u c' hc => ?_) (fun f' w' hk' hr' => ?_) hz
  · -- the caller has fresh credentials now, or a copy of stored ones
    cases hr.symm.trans ha
    rcases P.chosen_cases f w v.directory with ⟨hchosen, -⟩ | ⟨hmem, -⟩
    · rw [hchosen] at hr
      exact ⟨f, w, ⟨k, hxz.asked ▸ hk, hr⟩, Or.inl hchosen⟩
    · exact haccounts.genuine hmem
  · cases hk.symm.trans hc
  · cases hk.symm.trans hk'
    have hchosen : P.chosen f w v.directory = P.issued f w := by
      simpa using hr.symm.trans hr'
    intro c hc
    rw [stored, hshared, if_pos hl] at hc
    rcases P.chosen_cases f w v.directory with ⟨-, hnone⟩ | ⟨hmem, -⟩
    · obtain ⟨f', w', -, rfl⟩ := haccounts.credentials hc
      exact hnone _ hc rfl
    · -- what is stored is not fresh
      obtain ⟨f', w', -, heq⟩ := haccounts.credentials hmem
      have hnew := congrArg Credentials.isNew (hchosen.symm.trans heq)
      cases hnew

private theorem Sound.resolved (h : Sound P backend s history x v) (occurrence : Occurrence)
    (hxz : x.Answers z k) (htracks : ∃ seen, z.service.Tracks (x.asked.map P.body) seen v')
    (hl : v.loaded = true) {userId : String} {c : Credentials}
    (hk : x.asked[k]? = some (.resolve userId c)) {r : Except Failure Answer}
    (hr : z.service.result? k = some r)
    (hrun : (P.body (.resolve userId c)).run backend v = (r, v'))
    (hz : P.after backend s (history ++ [occurrence]) = z) :
    Sound P backend s (history ++ [occurrence]) z v' := by
  have haccounts : z.Accounts P v.directory := (h.accounts hl).mono hxz.extends
  have hc : z.Genuine P c := (h.taken k userId c hk).mono hxz.extends
  obtain ⟨hl', hcases⟩ := P.run_resolve hl hrun
  have hvacant : v'.loaded = false → backend.Offers (fun d => d.users = []) v'.world :=
    fun hl => absurd hl' (ne_true_of_eq_false hl)
  -- nothing is handed out by this request
  have hissued : ∀ f w, x.asked[k]? = some (.finish f w) →
      z.service.result? k = some (.ok (.handed (P.issued f w))) →
      ∀ c ∈ z.stored, c.username? ≠ some w := by
    intro f w hk'
    cases hk.symm.trans hk'
  rcases hcases with ⟨e, rfl, hd⟩ | ⟨u, c', rfl, hc', hholds, hd⟩
  · refine h.answers occurrence hxz htracks hvacant (fun _ => ⟨hl', hd ▸ fun u hu => hu⟩)
      (fun _ => hd ▸ haccounts) (fun a ha => ?_) (fun userId c u c' _ ha => ?_) hissued hz
    · cases hr.symm.trans ha
    · cases hr.symm.trans ha
  · -- somebody holds the credentials now: a user from before, or a new one
    obtain ⟨haccounts', hu, hkept⟩ := haccounts.resolved hc hd
    refine h.answers occurrence hxz htracks hvacant (fun _ => ⟨hl', hkept⟩) (fun _ => haccounts')
      (fun a ha => ?_) (fun userId' c'' u' c₂ hk' ha => ?_) hissued hz
    · cases hr.symm.trans ha
      rcases hc' with rfl | rfl
      · exact hc
      · exact hc.linked
    · cases hk.symm.trans hk'
      cases hr.symm.trans ha
      exact ⟨hl', hu, hholds⟩

/-- No credentials are answered with: the request is still under way, or it has failed. -/
private theorem Sound.silent (h : Sound P backend s history x v) (occurrence : Occurrence)
    (hxz : x.Answers z k) (htracks : ∃ seen, z.service.Tracks (x.asked.map P.body) seen v')
    (hnone : ∀ a, z.service.result? k ≠ some (.ok a))
    (hvacant : v'.loaded = false → backend.Offers (fun d => d.users = []) v'.world)
    (hsame : v.loaded = true → v' = v)
    (hempty : v.loaded = false → v'.loaded = true → v'.directory.users = [])
    (hz : P.after backend s (history ++ [occurrence]) = z) :
    Sound P backend s (history ++ [occurrence]) z v' := by
  refine h.answers occurrence hxz htracks hvacant (fun hl => ?_) (fun hl' => ?_)
    (fun a ha => absurd ha (hnone a)) (fun _ _ _ _ _ ha => absurd ha (hnone _))
    (fun _ _ _ ha => absurd ha (hnone _)) hz
  · rw [hsame hl]
    exact ⟨hl, fun u hu => hu⟩
  · cases hl : v.loaded with
    | true =>
      rw [hsame hl]
      exact (h.accounts hl).mono hxz.extends
    | false => exact accounts_of_users_eq_nil (hempty hl hl')

/-- **One event**, of the request whose turn it is. -/
theorem Sound.event (h : Sound P backend s history x v) (occurrence : Occurrence)
    (hxz : x.Answers z k) (htracks : ∃ seen, z.service.Tracks (x.asked.map P.body) seen v')
    {r : Request} (hk : x.asked[k]? = some r)
    (hevent : Event backend (P.body r) v z.service.shared (z.service.result? k) v')
    (hz : P.after backend s (history ++ [occurrence]) = z) :
    Sound P backend s (history ++ [occurrence]) z v' := by
  generalize hr : z.service.result? k = result at hevent
  cases hevent with
  | onward =>
    exact h.silent occurrence hxz htracks (fun a ha => by cases hr.symm.trans ha) h.vacant
      (fun _ => rfl) (fun hl hl' => absurd hl' (ne_true_of_eq_false hl)) hz
  | loads _ hl hload =>
    have hl' := Shared.loaded_of_ensureLoaded hload
    exact h.silent occurrence hxz htracks (fun a ha => by cases hr.symm.trans ha)
      (fun hl => absurd hl' (ne_true_of_eq_false hl))
      (fun hl' => absurd hl' (ne_true_of_eq_false hl))
      (fun _ _ => (h.vacant hl).of_ensureLoaded hl hload) hz
  | fails e _ hl hload =>
    obtain ⟨hl', hoffers⟩ := (h.vacant hl).of_ensureLoaded_error hl hload
    exact h.silent occurrence hxz htracks (fun a ha => by cases hr.symm.trans ha)
      (fun _ => hoffers) (fun hl' => absurd hl' (ne_true_of_eq_false hl))
      (fun _ hl => absurd hl (ne_true_of_eq_false hl')) hz
  | ends result _ hl hrun hshared =>
    cases r with
    | finish f w =>
      cases hrun
      exact h.handed occurrence hxz htracks hl hk hr (hshared _ rfl) hz
    | resolve userId c => exact h.resolved occurrence hxz htracks hl hk hr hrun hz

/-- **A turn.** -/
theorem Sound.turn (h : Sound P backend s history x v) (hx : P.after backend s history = x)
    (k : ℕ) : ∃ v', Sound P backend s (history ++ [.turn k]) (x.next P backend (.turn k)) v' := by
  have hz : P.after backend s (history ++ [.turn k]) = x.next P backend (.turn k) := by
    rw [Portal.after_concat, hx]
  cases hstep : x.service.step? backend k with
  | none =>
    have hnext : x.next P backend (.turn k) = x := by
      rw [next, Service.turn, hstep, Option.getD_none]
    rw [hnext]
    exact ⟨v, h.unchanged _⟩
  | some y =>
    have hnext : x.next P backend (.turn k) = ⟨y, x.asked⟩ := by
      rw [next, Service.turn, hstep, Option.getD_some]
    rw [hnext] at hz ⊢
    obtain ⟨seen, htracks⟩ := h.tracks
    obtain ⟨q, v', seen', hq, htracks', hothers, hevent⟩ := htracks.event
      (List.forall_mem_map.2 fun r _ => P.isGuided_body r)
      (List.forall_mem_map.2 fun r _ => P.isImmediate_body r) hstep
    obtain ⟨r, hk, rfl⟩ := Option.map_eq_some_iff.1 ((List.getElem?_map).symm.trans hq)
    have hxz : x.Answers ⟨y, x.asked⟩ k := ⟨rfl, Service.result?_of_step? hstep, hothers⟩
    exact ⟨v', h.event _ hxz ⟨seen', htracks'⟩ hk hevent hz⟩

/-- **Whatever happens**, the invariant stays. -/
theorem Sound.next (h : Sound P backend s history x v) (hx : P.after backend s history = x)
    (occurrence : Occurrence) :
    ∃ v', Sound P backend s (history ++ [occurrence]) (x.next P backend occurrence) v' := by
  cases occurrence with
  | turn k => exact h.turn hx k
  | finish f w =>
    rw [Logins.next]
    split
    · exact ⟨v, h.unchanged _⟩
    · rename_i hdrawn
      refine ⟨v, h.ask _ (fun f' w' hr i w'' hi => hdrawn ?_) fun userId c hr => by cases hr⟩
      cases hr
      exact List.any_eq_true.2 ⟨_, List.mem_of_getElem? hi, beq_self_eq_true _⟩
  | resolve userId i =>
    rw [Logins.next]
    split
    · rename_i c hc
      refine ⟨v, h.ask _ (fun f w hr => by cases hr) fun userId' c' hr => ?_⟩
      cases hr
      -- what is taken to its user has been handed out
      rw [credentials?] at hc
      split at hc
      · rename_i a ha
        cases hc
        exact h.held i a ha
      · cases hc
    · exact ⟨v, h.unchanged _⟩

/-- **The invariant holds in every history.** -/
theorem sound_after (P : Portal σ) (hs : Vacant backend s) (history : List Occurrence) :
    ∃ v, Sound P backend s history (P.after backend s history) v := by
  induction history using List.reverseRecOn with
  | nil => exact ⟨s, sound_start hs⟩
  | append_singleton history occurrence ih =>
    obtain ⟨v, hv⟩ := ih
    rw [Portal.after_concat]
    exact hv.next rfl occurrence

end Logins

end SignIn
