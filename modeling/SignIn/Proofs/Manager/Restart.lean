import SignIn.Proofs.Manager.Calls

/-!
# A restart loses nothing

With a backend that keeps what it has saved, the data in memory are those of the backend whenever no
call is changing them. So a service that is started anew answers as the old one would have:
`Manager.Restartable` says what this comes to, and `Manager.restartable_turns` proves it of every
moment of every run, whichever loads and saves fail.

It also tells what each call has had saved: all data, once, with the change that it has made; and
nothing, if it has made none.
-/

namespace SignIn

variable {σ α : Type} {backend : Backend σ}

namespace Store

/-- Whether a call only looks something up. -/
def Call.isInquiry : Call σ → Bool
  | user? _ | users | clients | credentialsOf _ => true
  | resolve _ _ c => !c.isNew
  | load | link _ _ | removeUser _ | createToken _ _ _ _ _ | createClient _ => false

/-- A call that only looks something up answers with something that the data tell. -/
private theorem Call.procedure_of_isInquiry {c : Call σ} (h : c.isInquiry = true) :
    ∃ f, c.procedure = look f := by
  cases c with
  | load | link | removeUser | createToken | createClient => cases h
  | users | user? | clients | credentialsOf => exact ⟨_, rfl⟩
  | resolve provider userId c =>
    have hc : c.isNew = false := by simpa [isInquiry] using h
    refine ⟨fun d => (userOfLinked c d).map fun r => .account r.1 r.2, ?_⟩
    simp [procedure, Store.resolve, hc, Procedure.map, look]

/-- What a look at the data answers, with the data loaded. -/
private theorem run_look {s t : Shared σ} (f : Directory → Except Failure α)
    (h : s.ensureLoaded backend = (.ok (), t)) : (look f).run backend s = (f t.directory, t) := by
  rw [look, Procedure.run_load_of_ensureLoaded h]
  rfl

end Store

namespace Manager

variable {m : Manager σ} {kept : σ → Directory}

/-- What a call has written by a moment at which it is the given one of a service: nothing at all,
or one change that it may make and after it one save of what the change has led to, which may still
be under way. -/
inductive Written (m : Manager σ) (c : Call σ) (y : Service σ Reply) (i : ℕ) : List Deed → Prop
  /-- Nothing. -/
  | nothing : Written m c y i []
  /-- It has made a change, which is being saved. -/
  | pending (d : Directory) (change : Change) (p : Position σ Reply)
      (h : c.Alters m d change) (hi : y.calls[i]? = some p)
      (hp : p.stake? = some (.saving change)) (hd : y.shared.directory = change.apply d) :
      Written m c y i [.change d change]
  /-- It has made a change and has had all data saved with it, once, and has ended as that has. -/
  | settled (d : Directory) (change : Change) (r : Except Failure Unit)
      (h : c.Alters m d change) (hr : (y.result? i).map (Except.map fun _ => ()) = some r) :
      Written m c y i [.change d change, .save (change.apply d) change r]

/-- What the data in memory, the backend and the calls have to do with each other, at a moment of a
run and with the journal up to then. -/
structure Restartable (backend : Backend σ) (kept : σ → Directory) (m : Manager σ)
    (calls : List (Call σ)) (y : Service σ Reply) (log : Journal) : Prop where
  /-- While nobody is changing the data, those in memory are those that the backend keeps. -/
  agree : y.shared.loaded = true → y.free .data = true →
    y.shared.directory = kept y.shared.world
  /-- A store that is opened anew gets the same data, as soon as it can load them, and has the same
  answers for whoever looks something up. -/
  reopened : y.shared.loaded = true → y.free .data = true → ∀ w d w',
    backend.Retries y.shared.world w → backend.load w = (.ok d, w') →
      d = y.shared.directory ∧ ∀ c : Store.Call σ, c.isInquiry = true →
        (c.procedure.run backend { world := w }).1 = (c.procedure.run backend y.shared).1
  /-- Each call has had saved what it has changed, and nothing else. -/
  written : ∀ (i : ℕ) (c : Call σ), calls[i]? = some c → Written m c y i (log.book i)

/-- **A store that is opened anew** has the same answers. -/
theorem run_reopened {s : Shared σ} {w w' : σ} {d : Directory} (hl : s.loaded = true)
    (hd : d = s.directory) (hload : backend.load w = (.ok d, w')) {c : Store.Call σ}
    (hc : c.isInquiry = true) :
    (c.procedure.run backend { world := w }).1 = (c.procedure.run backend s).1 := by
  obtain ⟨f, hf⟩ := Store.Call.procedure_of_isInquiry hc
  have hnew : Shared.ensureLoaded backend { world := w }
      = (.ok (), { world := w', directory := d, loaded := true }) := by
    simp [Shared.ensureLoaded, hload]
  have hold : s.ensureLoaded backend = (.ok (), s) := by simp [Shared.ensureLoaded, hl]
  rw [hf, Store.run_look f hnew, Store.run_look f hold, hd]

/-- What a call has written, where the changes that calls make are known. -/
private theorem written_of_booked {calls : List (Call σ)} {d? : Option Directory}
    {y : Service σ Reply} {log : Journal} (hlawful : Journal.Lawful (m.Alter calls) d? log)
    (hbooked : y.Booked log)
    {i : ℕ} {c : Call σ} (hc : calls[i]? = some c) {p : Position σ Reply}
    (hi : y.calls[i]? = some p) : Written m c y i (log.book i) := by
  have halters : ∀ d change, Deed.change d change ∈ log.book i → c.Alters m d change := by
    intro d change hmem
    obtain ⟨c', hc', h⟩ := hlawful.of_change (Journal.mem_of_mem_book hmem)
    cases hc.symm.trans hc'
    exact h
  have hbook := hbooked hi
  generalize log.book i = book at halters hbook
  cases hbook with
  | blank => exact .nothing
  | pending d change hp hd => exact .pending d change p (halters d change (by simp)) hi hp hd
  | settled d change r hp =>
    refine .settled d change r (halters d change (by simp)) ?_
    rw [Service.result?, hi]
    exact hp

/-- **A restart loses nothing**, at any moment of any run, with a backend that keeps what it has
saved. As long as no change is being saved and no load is under way, the data in memory are those of
the backend, so that a store that is opened over it answers in the same way. Every call has written
nothing, or one change, which has been saved once with all that was there. -/
theorem restartable_turns (hbackend : backend.Keeps kept)
    (hproviders : ∀ p ∈ m.providers, ∀ effect, p.prepare.Answers effect →
      ∀ w, kept (effect w).2 = kept w)
    {s : Shared σ} (hs : s.loaded = true → s.directory = kept s.world) (calls : List (Call σ))
    (order : List ℕ) :
    Restartable backend kept m calls ((m.opening s calls).turns backend order)
      ((m.opening s calls).journal backend order) := by
  have hcourse := course_opening (m := m) s calls
  -- what providers do in the world leaves alone what the backend keeps
  have hkept : (m.opening s calls).Kept kept s.data? := by
    refine ⟨fun p hp => ?_, fun d hd => ?_⟩
    · obtain ⟨procedure, hprocedure, rfl⟩ := List.mem_map.1 hp
      obtain ⟨c, -, rfl⟩ := List.mem_map.1 hprocedure
      exact c.effects_procedure hproviders
    · cases hl : s.loaded with
      | true =>
        rw [Shared.data?, if_pos hl] at hd
        cases hd
        exact (hs hl).symm
      | false => simp [Shared.data?, hl] at hd
  have hbooked : (m.opening s calls).Booked [] := by
    refine Service.booked_nil fun p hp c hstake => ?_
    obtain ⟨procedure, -, rfl⟩ := List.mem_map.1 hp
    cases hstake
  obtain ⟨hlawful, hend⟩ := hcourse.turns (fun _ _ _ h => h.fits) backend order
  have hkept' := hkept.turns hbackend hcourse (fun _ _ _ h => h.fits) order
  have hbooked' := hbooked.turns hcourse.gated backend order
  generalize hy : (m.opening s calls).turns backend order = y at hend hkept' hbooked' ⊢
  -- while the data are free, those in memory are the safe ones, which the backend keeps
  have hagree : y.shared.loaded = true → y.free .data = true →
      y.shared.directory = kept y.shared.world := fun hl hf =>
    (hkept'.kept _ (hend.eq_of_free hl hf)).symm
  refine ⟨hagree, fun hl hf w d w' hretries hload => ?_, fun i c hc => ?_⟩
  · have hd : d = y.shared.directory := by
      rw [hagree hl hf, ← hbackend.of_retries hretries]
      exact (hbackend.load _ _ _ hload).1
    exact ⟨hd, fun c hc => run_reopened hl hd hload hc⟩
  · have hlt : i < y.calls.length := by
      obtain ⟨hlt, -⟩ := List.getElem?_eq_some_iff.1 hc
      rw [← hy, Service.length_calls_turns]
      simpa [opening, Service.start] using hlt
    exact written_of_booked hlawful hbooked' hc (List.getElem?_eq_getElem hlt)

/-! ### A run with failures -/

/-- A manager whose only provider is a list of passwords. -/
def passwords : Manager (List Bool × Directory) :=
  ⟨[PasswordList.provider { kind := PasswordList.kind } []], { seconds := 3600 }⟩

/-- A login that is opened, and first logins of three people. -/
def evening : List (Call (List Bool × Directory)) :=
  let provider : Provider (List Bool × Directory) :=
    PasswordList.provider { kind := PasswordList.kind } []
  let fresh (id : String) := provider.issue id (PasswordList.loginData id)
  [.openFlow provider.key, .resolve "u1" (fresh "first"), .resolve "u2" (fresh "second"),
    .resolve "u3" (fresh "third")]

/-- A store over a backend whose first load and whose first save will fail. -/
def unreliable : Shared (List Bool × Directory) := { world := ([false, true, false, true], {}) }

/-- The calls take turns. -/
def eveningTurns : List ℕ := (List.replicate 20 [0, 1, 2, 3]).flatten

/-- One of the three people is left, in memory as with the backend. -/
theorem restartable_turns_evening :
    Store.archive.Keeps Prod.snd ∧
      (∀ p ∈ passwords.providers, ∀ effect, p.prepare.Answers effect →
        ∀ w, (effect w).2.2 = w.2) ∧
      Restartable Store.archive Prod.snd passwords evening
        ((passwords.opening unreliable evening).turns Store.archive eveningTurns)
        ((passwords.opening unreliable evening).journal Store.archive eveningTurns) ∧
      ((passwords.opening unreliable evening).turns Store.archive eveningTurns).shared.loaded
        = true ∧
      ((passwords.opening unreliable evening).turns Store.archive eveningTurns).free .data = true ∧
      ((passwords.opening unreliable evening).turns Store.archive
        eveningTurns).shared.world.2.roster = [⟨"u3", true, true, none⟩] :=
  have hproviders : ∀ p ∈ passwords.providers, ∀ effect, p.prepare.Answers effect →
      ∀ w, (effect w).2.2 = w.2 := by
    intro p hp effect heffect w
    obtain rfl := List.mem_singleton.1 hp
    cases heffect
    rfl
  ⟨Store.keeps_archive, hproviders,
    restartable_turns Store.keeps_archive hproviders (fun hl => Bool.noConfusion hl) evening
      eveningTurns,
    by decide +kernel, by decide +kernel, by decide +kernel⟩

end Manager

end SignIn
