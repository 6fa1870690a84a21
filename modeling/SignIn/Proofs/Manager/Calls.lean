import SignIn.Manager
import SignIn.Proofs.Store.Writes

/-!
# The calls of the manager

A `Manager.Call` is a call of the manager with all its arguments: one of those of the store, or one
of those that have to do with logins, which may prepare a provider. Some of the latter come to a
call of the store (`Call.toStore?`), and only those change the data (`Call.commits_alters`).

So the data of a manager take their course in every run (`Manager.course_opening`).
-/

namespace SignIn

variable {σ α β : Type} {backend : Backend σ}

/-! ### Procedures that load first -/

/-- Another answer does not matter for whether a procedure is guarded. -/
theorem Procedure.IsGuarded.map {p : Procedure σ α} (h : p.IsGuarded) (f : α → β) :
    (p.map f).IsGuarded := by
  induction p with
  | finish | load => trivial
  | prepare _ _ next ih => exact ih h
  | read | write => exact h.elim

/-- A call that asks a provider is guarded, if it goes on as one that is. -/
private theorem Hook.isGuarded_andThen {key : ProviderKey} {next : α → Procedure σ β}
    (hnext : ∀ a, (next a).IsGuarded) (h : Hook α) : (h.andThen key next).IsGuarded := by
  cases h with
  | consult => trivial
  | answer r =>
    cases r with
    | error => trivial
    | ok a => exact hnext a

namespace Manager

/-! ### Calls -/

/-- What a call of the manager answers with. -/
inductive Reply where
  | done
  | store (r : Store.Reply)
  | flow (f : OpenFlow)
  | credentials (c : Credentials)
  | about (m : UserMeta)
  | client? (c : Option Client)

/-- A call of the manager, with all that it is made with. The store that belongs to the manager can
be called directly as well. -/
inductive Call (σ : Type) where
  | store (c : Store.Call σ)
  | prepare (key : ProviderKey)
  | openFlow (key : ProviderKey)
  | finishFlow (freshId : String) (result : FlowResult)
  | userMeta (key : ProviderKey) (c : Credentials)
  | resolve (userId : String) (c : Credentials)
  | createToken (userId clientId tokenId : String) (now : Instant)
  | client? (clientId : String)

variable (m : Manager σ)

namespace Call

/-- What a call does. -/
def procedure : Call σ → Procedure σ Reply
  | store c => c.procedure.map .store
  | prepare key => (m.prepare key).map fun _ => .done
  | openFlow key => (m.openFlow key).map .flow
  | finishFlow freshId result => (m.finishFlow freshId result).map .credentials
  | userMeta key c => (m.userMeta key c).map .about
  | resolve userId c =>
    ((m.resolve userId c).map fun r => Store.Reply.account r.1 r.2).map .store
  | createToken userId clientId tokenId now =>
    ((m.createToken userId clientId tokenId now).map Store.Reply.token).map .store
  | client? clientId => (Manager.client? clientId).map .client?

/-- The call of the store that a call comes to. -/
def toStore? : Call σ → Option (Store.Call σ)
  | store c => some c
  | resolve userId c =>
    match m.provider? c.key with
    | .ok p => some (.resolve p userId c)
    | .error _ => none
  | createToken userId clientId tokenId now =>
    some (.createToken m.validity userId clientId tokenId now)
  | prepare _ | openFlow _ | finishFlow _ _ | userMeta _ _ | client? _ => none

/-- The changes that a call can make to some data. -/
def Alters (d : Directory) (change : Change) (c : Call σ) : Prop :=
  ∃ c', c.toStore? m = some c' ∧ c'.Alters d change

/-- The providers that a call can prepare, each by its own hook. -/
def Prepares (key : ProviderKey) (hook : Hook (Effect σ)) (c : Call σ) : Prop :=
  (c = .prepare key ∨ c = .openFlow key) ∧ ∃ p, m.provider? key = .ok p ∧ hook = p.prepare

variable {m} {P : Procedure σ α → Prop}

/-- A provider that is found has come up in the search for its key. -/
private theorem find?_of_provider? {key : ProviderKey} {p : Provider σ}
    (h : m.provider? key = .ok p) : (m.providers.find? fun p => p.key == key) = some p := by
  rw [provider?] at h
  cases hp : m.providers.find? fun p => p.key == key with
  | none =>
    rw [hp] at h
    cases h
  | some p' =>
    rw [hp] at h
    cases h
    rfl

/-- A provider that is found is one of those that there are. -/
private theorem mem_of_provider? {key : ProviderKey} {p : Provider σ}
    (h : m.provider? key = .ok p) : p ∈ m.providers :=
  List.mem_of_find?_eq_some (find?_of_provider? h)

/-- The provider that is found has the key that was asked for. -/
theorem key_of_provider? {key : ProviderKey} {p : Provider σ} (h : m.provider? key = .ok p) :
    p.key = key := by
  have hkey := List.find?_some (find?_of_provider? h)
  exact beq_iff_eq.1 hkey

/-- A call that needs a provider ends at once, or goes on with one of those that there are. -/
private theorem withProvider_cases {key : ProviderKey} {next : Provider σ → Procedure σ α}
    (hfail : ∀ e, P (.finish (.error e))) (hnext : ∀ p ∈ m.providers, P (next p)) :
    P (m.withProvider key next) := by
  rw [withProvider]
  cases hp : m.provider? key with
  | error e => exact hfail e
  | ok p => exact hnext p (mem_of_provider? hp)

/-- A call makes the changes of the call of the store that it comes to, and no others. -/
theorem commits_alters (c : Call σ) :
    (c.procedure m).Obeys (.commits fun d change => c.Alters m d change) := by
  cases c with
  | store c =>
    exact Procedure.obeys_map.2 (c.commits_alters.mono_commits fun d change h => ⟨c, rfl, h⟩)
  | createToken userId clientId tokenId now =>
    let c : Store.Call σ := .createToken m.validity userId clientId tokenId now
    exact Procedure.obeys_map.2 (c.commits_alters.mono_commits fun d change h => ⟨c, rfl, h⟩)
  | resolve userId c =>
    refine Procedure.obeys_map.2 ?_
    rw [Manager.resolve, withProvider]
    cases hp : m.provider? c.key with
    | error e => exact Procedure.obeys_error _ e
    | ok p =>
      refine (Store.Call.resolve p userId c).commits_alters.mono_commits fun d change h => ?_
      exact ⟨.resolve p userId c, by simp [toStore?, hp], h⟩
  | prepare | openFlow =>
    refine Procedure.obeys_map.2 ?_
    exact withProvider_cases (Procedure.obeys_error _) fun _ _ => ⟨trivial, fun _ _ => trivial⟩
  | finishFlow | userMeta =>
    refine Procedure.obeys_map.2 ?_
    refine withProvider_cases (Procedure.obeys_error _) fun _ _ => ?_
    exact Hook.obeys_andThen _ fun _ _ _ _ => trivial
  | client? => exact fun _ _ _ => trivial

/-- A call prepares the provider that it is there for, and no other. -/
theorem obeys_prepares (c : Call σ) :
    (c.procedure m).Obeys { prepares := fun key hook => c.Prepares m key hook } := by
  -- a call of the store prepares nobody, so that it obeys any rule of this kind
  have hstore : ∀ (c : Store.Call σ) (P : ProviderKey → Hook (Effect σ) → Prop),
      c.procedure.Obeys { prepares := P } :=
    fun c P => c.plain_procedure.mono_prepares fun _ _ => False.elim
  cases c with
  | store c => exact Procedure.obeys_map.2 (hstore c _)
  | createToken userId clientId tokenId now =>
    exact Procedure.obeys_map.2 (hstore (.createToken m.validity userId clientId tokenId now) _)
  | resolve userId c =>
    refine Procedure.obeys_map.2 ?_
    rw [Manager.resolve, withProvider]
    cases hp : m.provider? c.key with
    | error e => exact Procedure.obeys_error _ e
    | ok p => exact hstore (.resolve p userId c) _
  | prepare key =>
    refine Procedure.obeys_map.2 ?_
    rw [Manager.prepare, withProvider]
    cases hp : m.provider? key with
    | error e => exact Procedure.obeys_error _ e
    | ok p =>
      obtain rfl := key_of_provider? hp
      exact ⟨⟨Or.inl rfl, p, hp, rfl⟩, fun _ _ => trivial⟩
  | openFlow key =>
    refine Procedure.obeys_map.2 ?_
    rw [Manager.openFlow, withProvider]
    cases hp : m.provider? key with
    | error e => exact Procedure.obeys_error _ e
    | ok p =>
      obtain rfl := key_of_provider? hp
      exact ⟨⟨Or.inr rfl, p, hp, rfl⟩, fun _ _ => trivial⟩
  | finishFlow | userMeta =>
    refine Procedure.obeys_map.2 ?_
    refine withProvider_cases (Procedure.obeys_error _) fun _ _ => ?_
    exact Hook.obeys_andThen _ fun _ _ _ _ => trivial
  | client? => exact fun _ _ _ => trivial

/-- Whatever a call has providers do in the world is something that they do to be prepared. -/
theorem effects_procedure {E : Effect σ → Prop}
    (h : ∀ p ∈ m.providers, ∀ effect, p.prepare.Answers effect → E effect) (c : Call σ) :
    (c.procedure m).Obeys (.effects E) := by
  refine c.obeys_prepares.mono_prepares ?_
  rintro key hook ⟨-, p, hp, rfl⟩
  exact h p (mem_of_provider? hp)

theorem spares_procedure {key : ProviderKey} {c : Call σ} (hprepare : c ≠ .prepare key)
    (hopenFlow : c ≠ .openFlow key) : (c.procedure m).Obeys (.spares key) := by
  refine c.obeys_prepares.mono_prepares ?_
  rintro key' hook ⟨rfl | rfl, -⟩ rfl
  · exact hprepare rfl
  · exact hopenFlow rfl

/-- A call loads the data before it touches them. -/
theorem isGuarded_procedure (c : Call σ) : (c.procedure m).IsGuarded := by
  cases c with
  | store c => exact c.isGuarded_procedure.map _
  | createToken | client? => trivial
  | resolve userId c =>
    refine Procedure.IsGuarded.map (Procedure.IsGuarded.map ?_ _) _
    exact withProvider_cases (fun _ => trivial) fun _ _ => trivial
  | prepare | openFlow =>
    refine Procedure.IsGuarded.map ?_ _
    exact withProvider_cases (fun _ => trivial) fun _ _ => trivial
  | finishFlow | userMeta =>
    refine Procedure.IsGuarded.map ?_ _
    refine withProvider_cases (fun _ => trivial) fun _ _ => ?_
    exact Hook.isGuarded_andThen (fun _ => by trivial) _

end Call

/-! ### Whole runs -/

/-- The changes that some calls can make, told by their numbers. -/
def Alter (calls : List (Call σ)) (i : ℕ) (d : Directory) (change : Change) : Prop :=
  ∃ c, calls[i]? = some c ∧ c.Alters m d change

/-- The service in which some calls are about to be made. -/
def opening (s : Shared σ) (calls : List (Call σ)) : Service σ Reply :=
  .start s (calls.map (Call.procedure m))

variable {m}

/-- Whatever a call changes fits the data. -/
theorem Alter.fits {calls : List (Call σ)} {i : ℕ} {d : Directory} {change : Change}
    (h : m.Alter calls i d change) : change.Fits d := by
  obtain ⟨c, -, c', -, hc⟩ := h
  exact hc.ordains.fits

/-- **The course of the data of a manager**, where it begins. -/
theorem course_opening (s : Shared σ) (calls : List (Call σ)) :
    (m.opening s calls).Course (m.Alter calls) s.data? := by
  refine Service.course_start s (fun p hp => ?_) fun i p hp => ?_
  · obtain ⟨c, -, rfl⟩ := List.mem_map.1 hp
    exact c.isGuarded_procedure
  · rw [List.getElem?_map] at hp
    obtain ⟨c, hc, rfl⟩ := Option.map_eq_some_iff.1 hp
    exact c.commits_alters.mono_commits fun d change h => ⟨c, hc, h⟩

end Manager

end SignIn
