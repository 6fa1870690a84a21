import SignIn.Proofs.Store.FirstAccess
import SignIn.Proofs.Store.Turns

/-!
# What credentials come to in the course of a run

Once a call has taken credentials to a user, the user holds them, and from then on they come to that
user: until the user is removed, and then to nobody, until credentials with their id are linked
again (`Store.Abides`). In between other calls may do what they like, with copies of the credentials
or with others that have their id, and loads and saves may fail.

`Store.ComesTo` says what credentials that count as linked come to at a moment of a run: for a call
that is made then, and for the calls of the run. It can be read off the settled state
(`Store.Stage.comesTo`), so that it remains to follow the user, or the missing holder, through the
turns of a run: `Store.exists_extends_turns` and `Store.holder?_eq_none_turns`.
-/

namespace SignIn

variable {σ α : Type} {backend : Backend σ}

namespace Service

/-- While the data are not free, some call is saving a change. -/
private theorem Orderly.exists_saving {y : Service σ α} (hy : y.Orderly)
    (h : y.free .data = false) :
    ∃ (n : ℕ) (change : Change) (a : α), y.calls[n]? = some (.saving change a) := by
  rw [free, List.all_eq_false] at h
  obtain ⟨p, hp, hholds⟩ := h
  have hdata : p.holds .data = true := by simpa using hholds
  obtain ⟨n, hn⟩ := List.mem_iff_getElem?.1 hp
  cases p with
  | before => cases hdata
  | loading stage next => cases stage <;> cases hdata
  | preparing => exact (hy.plain _ hp).1.elim
  | saving change a => exact ⟨n, change, a, hn⟩

/-- The data are free after one turn of whoever is saving a change. -/
private theorem Orderly.exists_turn_free {y : Service σ α} (hy : y.Orderly)
    (h : y.free .data = false) : ∃ n, (y.turn backend n).free .data = true := by
  obtain ⟨n, change, a, hn⟩ := hy.exists_saving h
  have hstep : y.step? backend n = some ⟨(y.shared.save backend change a).2,
      y.calls.set n (.before (.finish (y.shared.save backend change a).1))⟩ := by
    simp only [step?, hn, Position.step?]
  refine ⟨n, List.all_eq_true.2 fun p hp => ?_⟩
  rw [turn, hstep, Option.getD_some] at hp
  rcases mem_set_cases hp with rfl | ⟨j, hj, hold⟩
  · rfl
  · have hne : p.holds .data ≠ true := fun hholds =>
      hj (hy.exclusive hold hn hholds (by simp [Position.holds]))
    simpa using hne

end Service

namespace Store

variable {s : Shared σ} {calls : List (Call σ)}

/-! ### What credentials come to at a moment -/

/-- What credentials come to at a moment of a run: the answer for whoever asks now, and for a call
that has been asking and ends now. Nobody changes anything by asking. -/
structure ComesTo (backend : Backend σ) (calls : List (Call σ)) (y : Service σ Reply)
    (c : Credentials) (answer : Except Failure (User × Credentials)) : Prop where
  /-- A call that is made now, through whichever provider, has this answer and changes nothing. -/
  made : y.free .data = true → ∀ (provider : Provider σ) (userId : String),
    (resolve provider userId c).run backend y.shared = (answer, y.shared)
  /-- If a change is being saved, such a call has to wait for one turn of another call. -/
  freed : y.free .data = false → ∃ n, (y.turn backend n).free .data = true
  /-- A call of the run that ends with the next turn has this answer. -/
  ending : ∀ (n : ℕ) (provider : Provider σ) (userId : String) (r : Except Failure Reply),
    calls[n]? = some (.resolve provider userId c) → y.result? n = none →
    (y.turn backend n).result? n = some r → r = answer.map fun a => .account a.1 a.2

/-- **Credentials that count as linked come to whoever holds them** in the settled state. -/
theorem Stage.comesTo {order : List ℕ} {v : Shared σ} (h : Stage backend s calls order v)
    (hl : ((opening s calls).turns backend order).shared.loaded = true) {c : Credentials}
    (hc : c.isNew = false) : ComesTo backend calls ((opening s calls).turns backend order) c
      (userOfLinked c v.directory) := by
  have horderly : ((opening s calls).turns backend order).Orderly :=
    (orderly_opening s calls).turns order
  have hsettled : ((opening s calls).turns backend order).Settled v := by
    rw [opening_eq]
    exact h.settled
  refine ⟨fun hfree provider userId => ?_, fun hbusy => horderly.exists_turn_free hbusy, ?_⟩
  · obtain rfl := hsettled.eq_of_level fun _ hp => horderly.isPending_eq_false hl hfree hp
    exact run_resolve_of_linked hl hc
  · intro n provider userId r hcall hnone hsome
    rw [← Service.turns_concat] at hsome
    obtain ⟨v', ds, -, hrun⟩ := h.turn_of_ends hcall ⟨hnone, hsome⟩
    rw [Call.replaying, Call.procedure, Procedure.run_map,
      run_resolve_of_linked (hsettled.loaded hl) hc] at hrun
    exact (Prod.mk.inj hrun).1.symm

/-! ### Through the turns of a run -/

/-- A call of some sort succeeds in a stretch of a run. -/
def Succeeds (backend : Backend σ) (s : Shared σ) (calls : List (Call σ)) (P : Call σ → Prop)
    (before stretch : List ℕ) : Prop :=
  ∃ mid n rest call reply, stretch = mid ++ n :: rest ∧ calls[n]? = some call ∧ P call ∧
    Service.Ends backend (opening s calls) (before ++ mid) n (.ok reply)

variable {P : Call σ → Prop} {before stretch : List ℕ}

/-- What succeeds in a stretch succeeds in a longer one. -/
theorem Succeeds.append (h : Succeeds backend s calls P before stretch) (more : List ℕ) :
    Succeeds backend s calls P before (stretch ++ more) := by
  obtain ⟨mid, n, rest, call, reply, rfl, hcall, hP, hends⟩ := h
  exact ⟨mid, n, rest ++ more, call, reply, by simp, hcall, hP, hends⟩

/-- A call that ends with the last turn of a stretch. -/
theorem succeeds_concat {n : ℕ} {call : Call σ} {reply : Reply} (hcall : calls[n]? = some call)
    (hP : P call)
    (hends : Service.Ends backend (opening s calls) (before ++ stretch) n (.ok reply)) :
    Succeeds backend s calls P before (stretch ++ [n]) :=
  ⟨stretch, n, [], call, reply, rfl, hcall, hP, hends⟩

variable {v : Shared σ}

/-- **A user stays with all that it has**, as long as no removal of it succeeds. -/
theorem exists_extends_turns (h : Stage backend s calls before v) (hl : v.loaded = true) {u : User}
    (hu : u ∈ v.directory.users)
    (hremove : ¬ Succeeds backend s calls (· = .removeUser u.id) before stretch) :
    ∃ v', Stage backend s calls (before ++ stretch) v' ∧ v'.loaded = true ∧
      ∃ w ∈ v'.directory.users, u.Extends w := by
  induction stretch using List.reverseRecOn with
  | nil => exact ⟨v, by rwa [List.append_nil], hl, u, hu, .refl u⟩
  | append_singleton stretch k ih =>
    obtain ⟨v₁, h₁, hl₁, w, hw, hextends⟩ := ih fun hbefore => hremove (hbefore.append [k])
    obtain ⟨v₂, h₂, hl₂, hcases⟩ := h₁.turn_of_loaded hl₁ k
    refine ⟨v₂, by rwa [← List.append_assoc], hl₂, ?_⟩
    rcases hcases with hsame | ⟨call, reply, ds, change, hcall, hends, halters, hchange⟩
    · rw [hsame]
      exact ⟨w, hw, hextends⟩
    · have hother : ∀ i x, change = .removeUser i x → x.id ≠ w.id := by
        rintro i x rfl hid
        refine hremove (succeeds_concat hcall ?_ hends)
        rw [Call.eq_removeUser_of_alters halters, hid, hextends.id_eq]
      obtain ⟨w', hw', hextends'⟩ :=
        Directory.exists_extends_apply hw halters.ordains.fits hother
      rw [hchange]
      exact ⟨w', hw', hextends.trans hextends'⟩

/-- **An id that nobody holds stays so**, as long as no call succeeds that is there to link
credentials with it. -/
theorem holder?_eq_none_turns (h : Stage backend s calls before v) (hl : v.loaded = true)
    {credentialsId : String} (hnone : v.directory.holder? credentialsId = none)
    (hlink : ¬ Succeeds backend s calls (Call.Brings credentialsId) before stretch) :
    ∃ v', Stage backend s calls (before ++ stretch) v' ∧ v'.loaded = true ∧
      v'.directory.holder? credentialsId = none := by
  induction stretch using List.reverseRecOn with
  | nil => exact ⟨v, by rwa [List.append_nil], hl, hnone⟩
  | append_singleton stretch k ih =>
    obtain ⟨v₁, h₁, hl₁, hnone₁⟩ := ih fun hbefore => hlink (hbefore.append [k])
    obtain ⟨v₂, h₂, hl₂, hcases⟩ := h₁.turn_of_loaded hl₁ k
    refine ⟨v₂, by rwa [← List.append_assoc], hl₂, ?_⟩
    rcases hcases with hsame | ⟨call, reply, ds, change, hcall, hends, halters, hchange⟩
    · rw [hsame, hnone₁]
    · rw [hchange]
      refine Directory.holder?_apply_eq_none hnone₁ fun e he hid => ?_
      subst hid
      exact hlink (succeeds_concat hcall (Call.brings_of_alters halters he) hends)

/-! ### From one moment to all later ones -/

/-- What follows for credentials from their having come to a user: now, and in what comes after. -/
structure Abides (backend : Backend σ) (s : Shared σ) (calls : List (Call σ))
    (before after : List ℕ) (u : User) (c : Credentials) : Prop where
  /-- The user holds credentials with the id and the key of these. -/
  holds : u.holdsFrom c.key c.id = true
  /-- Until a removal of the user succeeds they come to it, and it shows the same of itself. -/
  found : ∀ later, later <+: after →
    ¬ Succeeds backend s calls (· = .removeUser u.id) before later →
    ∃ w, w.view = u.view ∧ ComesTo backend calls
      ((opening s calls).turns backend (before ++ later)) c.linked (.ok (w, c.linked))
  /-- From when it does they come to nobody, until credentials with their id are linked again. -/
  lost : ∀ mid n later reply, mid ++ n :: later <+: after →
    ¬ Succeeds backend s calls (· = .removeUser u.id) before mid →
    calls[n]? = some (.removeUser u.id) →
    Service.Ends backend (opening s calls) (before ++ mid) n (.ok reply) →
    ¬ Succeeds backend s calls (Call.Brings c.id) (before ++ mid ++ [n]) later →
    ComesTo backend calls ((opening s calls).turns backend (before ++ mid ++ [n] ++ later))
      c.linked (.error (.credentialsWithoutUser c.id))

/-- Where a user is there who holds credentials, all that follows from it follows. -/
private theorem Stage.abides {after : List ℕ} {u : User} {c : Credentials}
    (h : Stage backend s calls before v) (hdata : s.directory.WellFormed)
    (hoffers : s.loaded = false → backend.Offers Directory.WellFormed s.world)
    (hfresh : (opening s calls).Allows backend (fun d change => change.Fresh d) (before ++ after))
    (hloaded : ((opening s calls).turns backend before).shared.loaded = true)
    (hl : v.loaded = true) (hu : u ∈ v.directory.users) (hholds : u.holdsFrom c.key c.id = true) :
    Abides backend s calls before after u c := by
  -- the settled data are well formed at every later moment
  have hwf : ∀ {stretch v'}, stretch <+: after → Stage backend s calls (before ++ stretch) v' →
      v'.directory.WellFormed := by
    rintro stretch v' ⟨rest, rfl⟩ hstage
    rw [← List.append_assoc] at hfresh
    exact hstage.wellFormed hdata hoffers hfresh.of_append
  have hlater : ∀ stretch,
      ((opening s calls).turns backend (before ++ stretch)).shared.loaded = true := by
    intro stretch
    rw [Service.turns_append]
    exact Service.loaded_turns hloaded stretch
  refine ⟨hholds, fun later hprefix hremove => ?_, ?_⟩
  · obtain ⟨v', h', hl', w, hw, hextends⟩ := exists_extends_turns h hl hu hremove
    have hholder := Directory.holderFrom?_eq_some (hwf hprefix h').credentialsIds hw
      (hextends.holdsFrom hholds)
    have hcomes := h'.comesTo (hlater later) c.isNew_linked
    simp only [userOfLinked, Credentials.key_linked, Credentials.id_linked, hholder] at hcomes
    exact ⟨w, hextends.view, hcomes⟩
  · intro mid n later reply hprefix hfirst hcall hends hlink
    obtain ⟨v₁, h₁, hl₁, w, hw, hextends⟩ := exists_extends_turns h hl hu hfirst
    obtain ⟨v₂, ds, h₂, hrun⟩ := h₁.turn_of_ends hcall hends
    have hwf₁ := hwf ((List.prefix_append _ _).trans hprefix) h₁
    -- the user who is removed is the one whom the credentials come to
    obtain ⟨i, x, hx, hid, hl₂, hdirectory⟩ := Call.removed_of_run hl₁ hrun
    obtain rfl : x = w := List.inj_on_of_nodup_map hwf₁.userIds (List.mem_of_getElem? hx) hw
      (hid.trans hextends.id_eq.symm)
    have hnone₂ : v₂.directory.holder? c.id = none := by
      rw [hdirectory]
      exact Directory.holder?_removeUser_eq_none hwf₁.userIds hwf₁.credentialsIds hx
        (User.holds_of_holdsFrom (hextends.holdsFrom hholds))
    obtain ⟨v₃, h₃, hl₃, hnone₃⟩ := holder?_eq_none_turns h₂ hl₂ hnone₂ hlink
    have hnobody : v₃.directory.holderFrom? c.key c.id = none := by
      rw [Directory.holder?, List.find?_eq_none] at hnone₃
      refine List.find?_eq_none.2 fun x hx hholdsx => hnone₃ x hx ?_
      exact User.holds_of_holdsFrom hholdsx
    have horder : before ++ mid ++ [n] ++ later = before ++ (mid ++ n :: later) := by simp
    have hcomes := h₃.comesTo (horder ▸ hlater (mid ++ n :: later)) c.isNew_linked
    simp only [userOfLinked, Credentials.key_linked, Credentials.id_linked, hnobody] at hcomes
    exact hcomes

/-- **Credentials stay with the user whom they have come to.** In a run of any calls from data that
are well formed, in which no id that is drawn is in use: if a call has taken credentials to a user,
then the user holds them under their key; from then on they come to that user until it is removed,
and then to nobody until credentials with their id are linked again. -/
theorem abides_turns {after : List ℕ} {k : ℕ} {provider : Provider σ} {userId : String}
    {c : Credentials} {reply : Reply} (hdata : s.directory.WellFormed)
    (hoffers : s.loaded = false → backend.Offers Directory.WellFormed s.world)
    (hfresh : (opening s calls).Allows backend (fun d change => change.Fresh d)
      (before ++ k :: after))
    (hcall : calls[k]? = some (.resolve provider userId c))
    (hends : Service.Ends backend (opening s calls) before k (.ok reply)) :
    ∃ u, reply = .account u c.linked ∧ Abides backend s calls (before ++ [k]) after u c := by
  obtain ⟨v, h⟩ := exists_stage backend s calls before
  obtain ⟨v', ds, h', hrun⟩ := h.turn_of_ends hcall hends
  obtain ⟨u, rfl, hl, hu, hholds⟩ := Call.held_of_run hrun
  have hloaded : ((opening s calls).turns backend (before ++ [k])).shared.loaded = true := by
    -- a call that has ended before the data are there has failed
    by_contra hl'
    have hstart : ∀ i, (opening s calls).result? i = none := by
      intro i
      rw [opening_eq, Service.result?, Service.getElem?_begun]
      cases (calls.map Call.body)[i]? <;> rfl
    obtain ⟨e, he, -⟩ := (orderly_opening s calls).load_of_result? hstart (before ++ [k])
      (Bool.eq_false_iff.2 hl') hends.2
    cases he
  rw [List.append_cons] at hfresh
  exact ⟨u, rfl, h'.abides hdata hoffers hfresh hloaded hl hu hholds⟩

/-- The id of the user whom a call has taken credentials to. -/
def Reply.userId? : Reply → Option String
  | .account u _ => some u.id
  | _ => none

/-- Fresh credentials of somebody. -/
def visitor : Credentials := .issue { kind := "demo" } "first" .null

/-- A store whose second save will fail. -/
def shaky : Shared (List Bool) := { world := [true, true, false, true] }

/-- A first login; and two removals of the user, each with a login after it. -/
def parting : List (Call (List Bool)) :=
  let provider := PasswordList.provider { kind := PasswordList.kind } []
  [.resolve provider "u1" visitor, .removeUser "u1", .resolve provider "u2" visitor.linked,
    .removeUser "u1", .resolve provider "u2" visitor.linked]

/-- The calls take their turns one after another, up to the last turn of the first login. -/
def arrival : List ℕ := List.replicate 8 0

/-- The turns of the other calls. -/
def departure : List ℕ := ([1, 2, 3, 4].map (List.replicate 4)).flatten

/-- The first removal fails with its save, and the credentials still come to their user; after the
second one they come to nobody. -/
theorem abides_turns_parting :
    shaky.directory.WellFormed ∧ scripted.Offers Directory.WellFormed shaky.world ∧
      (opening shaky parting).Allows scripted (fun d change => change.Fresh d)
        (arrival ++ 0 :: departure) ∧
      (∃ reply u, Service.Ends scripted (opening shaky parting) arrival 0 (.ok reply) ∧
        reply = .account u visitor.linked ∧
        Abides scripted shaky parting (arrival ++ [0]) departure u visitor) ∧
      (List.range 5).map (fun i =>
        (((opening shaky parting).turns scripted (arrival ++ 0 :: departure)).result? i).map
          fun r => r.toOption.bind Reply.userId?)
        = [some (some "u1"), some none, some (some "u1"), some none, some none] := by
  have hempty : Directory.WellFormed {} := Directory.wellFormed_empty
  have hoffers := offers_scripted hempty shaky.world
  have hfresh : (opening shaky parting).Allows scripted (fun d change => change.Fresh d)
      (arrival ++ 0 :: departure) := by
    decide +kernel
  have hunfinished : (((opening shaky parting).turns scripted arrival).result? 0).isNone := by
    decide +kernel
  have hfinished : ((((opening shaky parting).turns scripted (arrival ++ [0])).result? 0).bind
      Except.toOption).isSome := by
    decide +kernel
  obtain ⟨reply, hreply⟩ := Option.isSome_iff_exists.1 hfinished
  obtain ⟨r, hr, hok⟩ := Option.bind_eq_some_iff.1 hreply
  cases r with
  | error => cases hok
  | ok reply' =>
    have hends : Service.Ends scripted (opening shaky parting) arrival 0 (.ok reply') :=
      ⟨Option.isNone_iff_eq_none.1 hunfinished, hr⟩
    obtain ⟨u, hu, habides⟩ := abides_turns hempty (fun _ => hoffers) hfresh rfl hends
    exact ⟨hempty, hoffers, hfresh, ⟨reply', u, hends, hu, habides⟩, by decide +kernel⟩

end Store

end SignIn
