import SignIn.Proofs.Manager.Calls
import SignIn.Proofs.Service.Completion
import SignIn.Proofs.Service.Seeking

/-!
# How a manager prepares a provider

Two calls of a manager prepare a provider: one is there for nothing else, the other goes on to ask
the provider for the flow of a login. Any number of them may be under way, with any other calls, and
the hook of the provider may fail as often as it likes. `Manager.Preparation` says what holds at
every moment of such a run, and `Manager.preparation_turns` proves it: the hook is called by one
call at a time and until it has succeeded once, the readiness of the provider tells how far it has
come, and nobody goes on before.

Providers are asked while their own gate is held, or no lock at all: their hooks may look at the
data, but nobody asks them while the data are locked. So the locks of a manager are nested in one
order, and some call can always go on (`Manager.flowing_of_reaches_opening`).
-/

namespace SignIn

variable {σ : Type} {backend : Backend σ} {key : ProviderKey}

namespace Manager

variable {m : Manager σ}

/-! ### What calls have to do with a provider -/

namespace Call

/-- A call that is there to prepare a provider. -/
private theorem procedure_prepare {p : Provider σ} (h : m.provider? key = .ok p) :
    (prepare key).procedure m = .prepare key p.prepare (.finish (.ok .done)) := by
  obtain rfl := key_of_provider? h
  rw [procedure, Manager.prepare, withProvider, h]
  rfl

/-- A call that is there to start a login. -/
private theorem procedure_openFlow {p : Provider σ} (h : m.provider? key = .ok p) :
    (openFlow key).procedure m = .prepare key p.prepare
      (.finish ((p.openFlow.map fun flow => { flow }).map .flow)) := by
  obtain rfl := key_of_provider? h
  rw [procedure, Manager.openFlow, withProvider, h]
  rfl

end Call

/-! ### Whole runs -/

/-- A call that is not there to prepare a provider leaves its readiness as it is. -/
private theorem readiness_turn_of_ne {s : Shared σ} {calls : List (Call σ)} (order : List ℕ) {k : ℕ}
    (hprepare : calls[k]? ≠ some (.prepare key)) (hopenFlow : calls[k]? ≠ some (.openFlow key)) :
    (((m.opening s calls).turns backend order).turn backend k).shared.readiness key
      = ((m.opening s calls).turns backend order).shared.readiness key := by
  refine Service.readiness_turn_of_spares fun q hq => ?_
  refine Service.obeys_turns (fun procedure hprocedure => ?_) order hq
  rw [List.getElem?_map] at hprocedure
  obtain ⟨c, hc, rfl⟩ := Option.map_eq_some_iff.1 hprocedure
  exact Call.spares_procedure (fun heq => hprepare (heq ▸ hc)) fun heq => hopenFlow (heq ▸ hc)

/-- How far a provider has been prepared at a moment of a run of some calls, what has been done with
its hook up to then, and what this means for the calls. -/
structure Preparation (backend : Backend σ) (calls : List (Call σ)) (key : ProviderKey)
    (p : Provider σ) (y : Service σ Reply) (log : Attempts) : Prop where
  /-- One call at most is at work with the hook. -/
  alone : ∀ i j, y.IsCalling key i → y.IsCalling key j → i = j
  /-- It is at work just while its having begun is the last that has been done. -/
  underway : ∀ i, y.IsCalling key i ↔ ∃ earlier, log = earlier ++ [(i, .begins)]
  /-- Once the hook has succeeded it is not called again. -/
  last : ∀ before i after, log = before ++ (i, .ends (.ok ())) :: after → after = []
  /-- Of the hook calls that have ended all have failed, but for one if the provider is ready. -/
  counted : log.countP (fun x => x.2.isEnd) = log.countP (fun x => x.2.isFailure)
    + if y.shared.readiness key = .ready then 1 else 0
  initializing : y.shared.readiness key = .initializing ↔ ∃ i, y.IsCalling key i
  ready : y.shared.readiness key = .ready ↔ ∃ i, (i, .ends (.ok ())) ∈ log
  uninitialized : y.shared.readiness key = .uninitialized ↔
    (¬ ∃ i, y.IsCalling key i) ∧ ¬ ∃ i, (i, .ends (.ok ())) ∈ log
  /-- A call that prepares the provider fails just if the hook has failed in its hands, and as that
  has failed. -/
  errors : ∀ i e, calls[i]? = some (.prepare key) →
    (y.result? i = some (.error e) ↔ (i, .ends (.error e)) ∈ log)
  /-- It succeeds only once the hook has succeeded. -/
  prepared : ∀ i reply, calls[i]? = some (.prepare key) → y.result? i = some (.ok reply) →
    ∃ j, (j, .ends (.ok ())) ∈ log
  /-- A call that starts a login fails in the same way, without having asked for a flow; or it has
  asked for one, once the hook had succeeded. -/
  flows : ∀ i r, calls[i]? = some (.openFlow key) → y.result? i = some r →
    (∃ e, r = .error e ∧ (i, .ends (.error e)) ∈ log) ∨
      ((∀ e, (i, .ends (.error e)) ∉ log) ∧ (∃ j, (j, .ends (.ok ())) ∈ log) ∧
        r = p.openFlow.map fun flow => .flow { flow })
  /-- No other call changes the readiness of the provider. -/
  others : ∀ k, calls[k]? ≠ some (.prepare key) → calls[k]? ≠ some (.openFlow key) →
    (y.turn backend k).shared.readiness key = y.shared.readiness key

/-- **A provider is prepared by one call at a time, and once**, at every moment of every run in
which it was not prepared at the beginning. A hook that fails is the failure of the call that is at
work with it, and leaves the provider to the next one. -/
theorem preparation_turns {s : Shared σ} {p : Provider σ} (hp : m.provider? key = .ok p)
    (hs : s.readiness key = .uninitialized) (calls : List (Call σ)) (order : List ℕ) :
    Preparation backend calls key p ((m.opening s calls).turns backend order)
      ((m.opening s calls).attempts backend key order) := by
  have hattempted : ((m.opening s calls).turns backend order).Attempted key
      ((m.opening s calls).attempts backend key order) :=
    Service.attempted_turns hs order
  -- how a call ends that has a result once the provider is prepared
  have hresult : ∀ (i : ℕ) (c : Call σ) (r a : Except Failure Reply), calls[i]? = some c →
      c.procedure m = .prepare key p.prepare (.finish r) →
      ((m.opening s calls).turns backend order).result? i = some a →
      ((m.opening s calls).attempts backend key order).Explains i r a := by
    intro i c r a hc hprocedure ha
    have hi : (calls.map (Call.procedure m))[i]? = some (.prepare key p.prepare (.finish r)) := by
      rw [List.getElem?_map, hc, Option.map_some, hprocedure]
    exact Service.explains_turns hs order hi ha
  refine {
    alone := fun i j hi hj => hattempted.exclusive.eq_of_isCalling hi hj
    underway := fun i => hattempted.isCalling_iff
    last := fun before i after heq => hattempted.eq_nil_of_success heq
    counted := hattempted.countP_isEnd
    initializing := hattempted.initializing_iff
    ready := hattempted.ready_iff
    uninitialized := hattempted.uninitialized_iff
    errors := fun i e hi => ⟨fun hr => ?_, hattempted.failed i e⟩
    prepared := fun i reply hi hr => ?_
    flows := fun i r hi hr => ?_
    others := fun _ hprepare hopenFlow => readiness_turn_of_ne order hprepare hopenFlow }
  · rcases hresult i _ _ _ hi (Call.procedure_prepare hp) hr with ⟨hok, -⟩ | ⟨e', he', hfailed⟩
    · cases hok
    · cases he'
      exact hfailed
  · rcases hresult i _ _ _ hi (Call.procedure_prepare hp) hr with ⟨-, hsuccess, -⟩ | ⟨e, he, -⟩
    · exact hsuccess
    · cases he
  · rcases hresult i _ _ _ hi (Call.procedure_openFlow hp) hr with ⟨rfl, hsuccess, hown⟩ | hfailed
    · refine Or.inr ⟨hown, hsuccess, ?_⟩
      cases p.openFlow <;> rfl
    · exact Or.inl hfailed

/-! ### A run with a failure -/

/-- A provider that looks at its credentials and then at the world, where it is written whether it
can be prepared. -/
def hesitant (kind : String) : Provider (List Bool) where
  config := { kind }
  prepare := .consult fun _ => .answer <| .ok fun
    | false :: w => (.error (.unknown "offline"), w)
    | w => (.ok (), w.drop 1)
  openFlow := .error (.flow "unused")
  credentials _ _ := .answer (.error .invalidUser)

/-- A manager of two such providers. -/
def porch : Manager (List Bool) := ⟨[hesitant "slow", hesitant "other"], { seconds := 60 }⟩

/-- Logins through one provider, and a call that prepares it, with one that prepares the other. -/
def knocks : List (Call (List Bool)) :=
  [.openFlow { kind := "slow" }, .prepare { kind := "slow" }, .openFlow { kind := "slow" },
    .prepare { kind := "other" }]

/-- The calls for the first provider take turns, and then the one for the other. -/
def knocksTurns : List ℕ := (List.replicate 24 [0, 1, 2]).flatten ++ List.replicate 12 3

/-- The first call fails with the hook, the second one prepares the provider, and the third one is
let through. -/
theorem preparation_turns_knocks :
    porch.provider? { kind := "slow" } = .ok (hesitant "slow") ∧
      Preparation (.transient _) knocks { kind := "slow" } (hesitant "slow")
        ((porch.opening { world := [false] } knocks).turns (.transient _) knocksTurns)
        ((porch.opening { world := [false] } knocks).attempts (.transient _) { kind := "slow" }
          knocksTurns) ∧
      ((porch.opening { world := [false] } knocks).attempts (.transient _) { kind := "slow" }
        knocksTurns).map (fun x => (x.1, x.2.isEnd, x.2.isFailure))
        = [(0, false, false), (0, true, true), (1, false, false), (1, true, false)] ∧
      (List.range 4).map (fun i =>
        (((porch.opening { world := [false] } knocks).turns (.transient _)
          knocksTurns).result? i).map fun r => r.toOption.isSome)
        = [some false, some true, some false, some true] :=
  ⟨rfl, preparation_turns rfl rfl knocks knocksTurns, by decide +kernel, by decide +kernel⟩

/-! ### No deadlock -/

/-- **There is no deadlock** among any number of calls of a manager, in any state that they can
reach: with any providers, which may look at the data as often as they like, and with any backend
and any hooks, which may succeed or fail. -/
theorem flowing_of_reaches_opening {s : Shared σ} {calls : List (Call σ)}
    {y : Service σ Reply} (h : Service.Reaches backend (m.opening s calls) y) :
    y.Flowing backend :=
  Service.flowing_of_reaches h

/-- A login through a provider whose preparation looks at the data, two calls that want the same
provider and the data, and a login through another provider. -/
def queue : List (Call (List Bool)) :=
  [.openFlow { kind := "slow" }, .prepare { kind := "slow" }, .store (.removeUser "u1"),
    .openFlow { kind := "other" }]

/-- The first call comes to load the data for its provider, and the others come as far as they can.
-/
def queueTurns : List ℕ := List.replicate 7 0 ++ (List.replicate 9 [1, 2, 3]).flatten

/-- The first call holds the gate of its provider and the one of the load. The others wait: the
second one for the provider, and the last two for the load. -/
theorem flowing_of_reaches_opening_queue :
    let y := (porch.opening { world := [] } queue).turns (.transient _) queueTurns
    Service.Reaches (.transient _) (porch.opening { world := [] } queue) y ∧
      y.Flowing (.transient _) ∧
      (List.range 4).map (fun i => (y.step? (.transient _) i).isSome)
        = [true, false, false, false] ∧
      y.calls.map Position.awaits?
        = [none, some (.initGate { kind := "slow" }), some .loadGate, some .loadGate] := by
  intro y
  have hreaches : Service.Reaches (.transient _) (porch.opening { world := [] } queue) y :=
    Service.reaches_turns _ _ _
  exact ⟨hreaches, flowing_of_reaches_opening hreaches, by decide +kernel, by decide +kernel⟩

end Manager

end SignIn
