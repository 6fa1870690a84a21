import SignIn.Proofs.Store.NoTrace

/-!
# Copies of linked credentials

Credentials that are linked to a user may be around in copies, with other data in them, and marked
as new or as linked. `Store.resolve` takes those that are marked as linked to whoever holds them.
Those that are marked as new come to the same user, but by way of their provider, who is asked about
the person first; nothing of the answer is used, since no user is made.

So a copy comes to its holder unless it is marked as new and the provider has no answer
(`Errand.resolves_copy_iff`); then the call fails as the provider does. In no case are the data
changed or anything saved.
-/

namespace SignIn

variable {σ : Type} {backend : Backend σ} {s : Shared σ}

/-- With the data loaded, credentials that a user holds come to that user, whatever they are marked
as, if the provider answers what it is asked about them. -/
private theorem Store.run_resolve_of_held (hl : s.loaded = true)
    (hcredentials : (s.directory.credentials.map Credentials.id).Nodup) {u : User}
    (hu : u ∈ s.directory.users) {c : Credentials} (hholds : u.holdsFrom c.key c.id = true)
    (provider : Provider σ) (userId : String) :
    (resolve provider userId c).run backend s =
      if c.isNew then
        (((provider.userMeta c).run backend provider.key s).1.map fun _ => (u, c.linked), s)
      else (.ok (u, c.linked), s) := by
  cases hc : c.isNew with
  | false =>
    have hlinked : c.linked = c := by rw [Credentials.linked, ← hc]
    rw [run_resolve_of_linked hl hc, userOfLinked,
      Directory.holderFrom?_eq_some hcredentials hu hholds, hlinked]
    rfl
  | true =>
    have hholder := Directory.holder?_eq_some hcredentials hu (User.holds_of_holdsFrom hholds)
    rw [resolve, Procedure.run_load_of_loaded hl, if_pos rfl, if_pos hc, Hook.run_andThen hl]
    rcases ((provider.userMeta c).run backend provider.key s).1 with e | about
    · rfl
    · simp [Procedure.run, decideNew, hholder, hholds, Shared.settle, Except.map]

namespace Errand

/-- **A copy of linked credentials comes to their holder**, and is marked as linked, without
anything being changed or saved: always if it is not marked as new, and if it is, just in case the
provider answers what it is asked about the person. Where the provider fails, the call fails in the
same way and leaves the copy as it was. -/
theorem resolves_copy_iff (backend : Backend σ) {s : Shared σ} (hl : s.loaded = true)
    (hcredentials : (s.directory.credentials.map Credentials.id).Nodup) {u : User}
    (hu : u ∈ s.directory.users) {e : Credentials} (he : e ∈ u.credentials) {c : Credentials}
    (hid : e.id = c.id) (hkey : e.key = c.key) (provider : Provider σ) (userId : String) :
    ((resolve backend provider userId).on ⟨s, c⟩ = (.ok u, ⟨s, { c with isNew := false }⟩) ↔
        (c.isNew = true →
          ∃ about, ((provider.userMeta c).run backend provider.key s).1 = .ok about)) ∧
      ∀ failure, c.isNew = true →
        ((provider.userMeta c).run backend provider.key s).1 = .error failure →
        (resolve backend provider userId).on ⟨s, c⟩ = (.error failure, ⟨s, c⟩) := by
  have hholds : u.holdsFrom c.key c.id = true := User.holdsFrom_iff.2 ⟨e, he, hkey, hid⟩
  rw [on_resolve, Store.run_resolve_of_held hl hcredentials hu hholds]
  cases hc : c.isNew with
  | false => simp [handOver, Credentials.linked]
  | true =>
    cases ((provider.userMeta c).run backend provider.key s).1 with
    | ok about => simp [handOver, Credentials.linked, Except.map]
    | error failure => simp [handOver, Except.map]

/-- A copy of the stored credentials, with other data, that is still marked as new. -/
def copy : Credentials := { Store.stored with data := .text "copy", isNew := true }

/-- The user who holds the stored credentials. -/
def occupant : User := { User.create "u1" true true none with credentials := [Store.stored] }

theorem resolves_copy_iff_copy :
    (Store.occupied.directory.credentials.map Credentials.id).Nodup ∧
      occupant ∈ Store.occupied.directory.users ∧ Store.stored ∈ occupant.credentials ∧
      Store.stored.id = copy.id ∧ Store.stored.key = copy.key ∧ copy.isNew = true ∧
      (resolve (.transient Unit) (PasswordList.provider { kind := "demo" } []) "u2").on
        ⟨Store.occupied, copy⟩ = (.ok occupant, ⟨Store.occupied, { copy with isNew := false }⟩) :=
  have hcredentials : (Store.occupied.directory.credentials.map Credentials.id).Nodup := by decide
  have hmem : occupant ∈ Store.occupied.directory.users := List.mem_singleton.2 rfl
  have hstored : Store.stored ∈ occupant.credentials := List.mem_singleton.2 rfl
  ⟨hcredentials, hmem, hstored, rfl, rfl, rfl,
    (resolves_copy_iff (.transient Unit) rfl hcredentials hmem hstored (c := copy) rfl rfl
      (PasswordList.provider { kind := "demo" } []) "u2").1.2 fun _ => ⟨{}, rfl⟩⟩

/-- A provider that knows nothing about anybody. -/
def reticent : Provider Unit :=
  { PasswordList.provider { kind := "demo" } [] with
    userMeta := fun _ => .answer (.error (.flow "no meta")) }

/-- The copy comes to nobody if its provider fails, although the occupant holds the same entry; a
copy that is not marked as new comes to the occupant all the same. -/
theorem copy_refused :
    occupant ∈ Store.occupied.directory.users ∧ Store.stored ∈ occupant.credentials ∧
      Store.stored.id = copy.id ∧ Store.stored.key = copy.key ∧
      (resolve (.transient Unit) reticent "u2").on ⟨Store.occupied, copy⟩
        = (.error (.flow "no meta"), ⟨Store.occupied, copy⟩) ∧
      (resolve (.transient Unit) reticent "u2").on ⟨Store.occupied, copy.linked⟩
        = (.ok occupant, ⟨Store.occupied, copy.linked⟩) :=
  ⟨List.mem_singleton.2 rfl, List.mem_singleton.2 rfl, rfl, rfl, rfl, rfl⟩

end Errand

end SignIn
