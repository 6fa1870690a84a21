import SignIn.Proofs.Service.Course

/-!
# What each call writes

Of all that a run does, `Journal.book` is what one call has changed and had saved. Such a book is
empty, or it has one change in it that is being saved, or one change and the attempt to save all
data with it, and then the call has ended as the attempt has: `Position.Booked`. A call that ends
without having changed anything has had nothing saved.

`Service.Booked.turns` says so of every call of a run of guarded calls.
-/

namespace SignIn

variable {σ α : Type} {backend : Backend σ}

/-- Whether a deed changes the data or has them saved. -/
def Deed.isWrite : Deed → Bool
  | .load _ | .install _ | .look _ => false
  | .change _ _ | .save _ _ _ => true

namespace Journal

/-- What a call has changed and had saved. -/
def book (log : Journal) (i : ℕ) : List Deed :=
  log.filterMap fun x => if x.1 = i ∧ x.2.isWrite then some x.2 else none

private theorem book_append (log log' : Journal) (i : ℕ) :
    book (log ++ log') i = book log i ++ book log' i :=
  List.filterMap_append

/-- What a call has written with one entry of another call. -/
private theorem book_entry_of_ne {i j : ℕ} (h : j ≠ i) (deed? : Option Deed) :
    book (entry i deed?) j = [] := by
  cases deed? with
  | none => rfl
  | some deed => simp [book, Ne.symm h]

/-- What a call has written with one entry of its own. -/
private theorem book_entry_self (i : ℕ) (deed? : Option Deed) :
    book (entry i deed?) i = (deed?.filter Deed.isWrite).toList := by
  cases deed? with
  | none => rfl
  | some deed => cases h : deed.isWrite <;> simp [book, h, Option.filter]

/-- What stands in a book stands in the journal. -/
theorem mem_of_mem_book {log : Journal} {i : ℕ} {deed : Deed} (h : deed ∈ log.book i) :
    (i, deed) ∈ log := by
  obtain ⟨⟨j, deed'⟩, hmem, heq⟩ := List.mem_filterMap.1 h
  split at heq
  · rename_i hj
    obtain ⟨rfl, -⟩ := hj
    cases heq
    exact hmem
  · cases heq

/-- What is written down in the journal stands in a book. -/
private theorem mem_book {log : Journal} {i : ℕ} {deed : Deed} (h : (i, deed) ∈ log)
    (hwrite : deed.isWrite = true) : deed ∈ log.book i :=
  List.mem_filterMap.2 ⟨(i, deed), h, if_pos ⟨rfl, hwrite⟩⟩

end Journal

/-- What a call has written by the time that it stands at a position. -/
inductive Position.Booked (directory : Directory) (p : Position σ α) : List Deed → Prop
  /-- Nothing. -/
  | blank (hp : ∀ c, p.stake? ≠ some (.saving c)) : Booked directory p []
  /-- It has made a change, which is being saved. -/
  | pending (d : Directory) (c : Change) (hp : p.stake? = some (.saving c))
      (hd : directory = c.apply d) : Booked directory p [.change d c]
  /-- It has made a change and has had all data saved with it, and has ended as that has ended. -/
  | settled (d : Directory) (c : Change) (r : Except Failure Unit)
      (hp : p.result?.map (Except.map fun _ => ()) = some r) :
      Booked directory p [.change d c, .save (c.apply d) c r]

namespace Position

variable {free : Lock → Bool} {s s' : Shared σ} {p q : Position σ α} {deed? : Option Deed}
  {book : List Deed}

/-- A step of a call, and what it has written by then. -/
theorem Booked.step (hp : p.Booked s.directory book) (hresult : p.result? = none)
    (hact : Act backend free s p q s' deed?) :
    q.Booked s'.directory (book ++ (deed?.filter Deed.isWrite).toList) := by
  have hnone : q.stake? = none → ∀ c, q.stake? ≠ some (.saving c) := by
    intro hq c
    rw [hq]
    exact nofun
  cases hp with
  | settled d c r hp =>
    rw [hresult] at hp
    cases hp
  | pending d c hp hd =>
    -- the only thing that it can do is to have the data saved
    cases hact with
    | aside _ hp' => cases hp'.symm.trans hp
    | refuse _ _ hp' | fetch _ _ hp' | install _ hp' | announce hp' => cases hp'.symm.trans hp
    | look hp' | change _ hp' => cases (stake?_of_isAtData hp').symm.trans hp
    | save c' a _ hp' hq =>
      cases hp'.symm.trans hp
      rw [hd]
      exact .settled d c (.ok ()) (by rw [hq]; rfl)
    | rollBack c' e _ hp' hq =>
      cases hp'.symm.trans hp
      rw [hd]
      exact .settled d c (.error e) (by rw [hq]; rfl)
  | blank hp =>
    cases hact with
    | aside _ _ hq =>
      refine .blank ?_
      rcases hq with hq | ⟨hq, -⟩
      · exact hnone hq
      · rw [hq]
        exact fun _ => nofun
    | refuse _ _ _ hq => exact .blank (hnone (stake?_of_result? hq))
    | fetch _ _ _ hq | install _ _ hq =>
      refine .blank ?_
      rw [hq]
      exact fun _ => nofun
    | announce _ hq | look _ hq => exact .blank (hnone hq)
    | change c _ hq _ hs => exact .pending s.directory c hq hs.directory
    | save c _ _ hp' | rollBack c _ _ hp' => exact absurd hp' (hp c)

/-- Where a call stands and has written, when others go on. -/
theorem Booked.frame {directory directory' : Directory} (hp : p.Booked directory book)
    (h : ∀ c, p.stake? = some (.saving c) → directory' = directory) :
    p.Booked directory' book := by
  cases hp with
  | blank hp => exact .blank hp
  | pending d c hp hd => exact .pending d c hp ((h c hp).trans hd)
  | settled d c r hp => exact .settled d c r hp

/-- A call whose change is being saved has written nothing but it. -/
theorem Booked.eq_of_saving {directory : Directory} {c : Change} (hp : p.Booked directory book)
    (h : p.stake? = some (.saving c)) : ∃ d, directory = c.apply d ∧ book = [.change d c] := by
  cases hp with
  | blank hp => exact absurd h (hp c)
  | pending d c' hp hd =>
    cases hp.symm.trans h
    exact ⟨d, hd, rfl⟩
  | settled d c' r hp =>
    cases hr : p.result? with
    | none =>
      rw [hr] at hp
      cases hp
    | some r' => cases (stake?_of_result? hr).symm.trans h

/-- A call that has had something saved has written nothing else but the change. -/
private theorem Booked.eq_of_save {directory snapshot : Directory} {c : Change}
    {r : Except Failure Unit} (hp : p.Booked directory book) (h : .save snapshot c r ∈ book) :
    ∃ d, snapshot = c.apply d ∧ book = [.change d c, .save snapshot c r] := by
  cases hp with
  | blank => cases h
  | pending d c' => cases List.mem_singleton.1 h
  | settled d c' r' =>
    rcases List.mem_cons.1 h with h | h
    · cases h
    · cases List.mem_singleton.1 h
      exact ⟨d, rfl, rfl⟩

end Position

namespace Service

/-- What each call has written by now. -/
def Booked (y : Service σ α) (log : Journal) : Prop :=
  ∀ ⦃i : ℕ⦄ ⦃p : Position σ α⦄, y.calls[i]? = some p →
    p.Booked y.shared.directory (log.book i)

variable {y z : Service σ α} {i : ℕ} {log : Journal}

/-- Nothing has been written as long as no change is being saved. -/
theorem booked_nil (h : ∀ p ∈ y.calls, ∀ c, p.stake? ≠ some (.saving c)) : y.Booked [] :=
  fun _ p hp => .blank (h p (List.mem_of_getElem? hp))

/-- While the data are free, no change is being saved. -/
private theorem Gated.stake?_ne_saving (hy : y.Gated) (hf : y.free .data = true) {p : Position σ α}
    (hp : p ∈ y.calls) (c : Change) : p.stake? ≠ some (.saving c) := by
  intro hs
  have hl := hy.loaded_of_stake? hp hs
  cases (hy.stake?_eq_none hl hf hp).symm.trans hs

/-- **A step keeps the books.** -/
theorem Booked.step (hbooked : y.Booked log) (hy : y.Gated) (h : y.step? backend i = some z) :
    z.Booked (log ++ .entry i (y.deed? backend i)) := by
  have hframe : ∀ j p' stake, j ≠ i → y.calls[j]? = some p' → p'.stake? = some stake →
      z.shared.directory = y.shared.directory := by
    intro j p' stake hij hj hs
    obtain ⟨-, -, -, hdirectory⟩ := hy.aside_of_stake? h hij hj hs
    exact hdirectory
  have hend := result?_of_step? h
  obtain ⟨p, q, s', hi, -, hact, rfl⟩ := act_of_step? h
  intro j p' hj
  rw [Journal.book_append, deed?_of_step? h hi]
  rcases getElem?_set_cases hj with ⟨rfl, rfl⟩ | ⟨hij, hold⟩
  · rw [Journal.book_entry_self]
    refine (hbooked hi).step ?_ hact
    rwa [result?, hi] at hend
  · rw [Journal.book_entry_of_ne hij, List.append_nil]
    exact (hbooked hold).frame fun c hc => hframe j p' _ hij hold hc

/-- **What each call has written in a run.** -/
theorem Booked.turns (hbooked : y.Booked []) (hy : y.Gated) (backend : Backend σ)
    (order : List ℕ) :
    (y.turns backend order).Booked (y.journal backend order) := by
  refine (journal_keeps (P := fun z log => z.Gated ∧ z.Booked log) ?_ ⟨hy, hbooked⟩ order).2
  rintro y z i log ⟨hy, hbooked⟩ h
  exact ⟨hy.step h, hbooked.step hy h⟩

/-- Whatever has been saved with a change, the change has been made. -/
private theorem Booked.change_of_save {order : List ℕ}
    (hbooked : (y.turns backend order).Booked (y.journal backend order)) {snapshot : Directory}
    {c : Change} {r : Except Failure Unit}
    (h : (i, Deed.save snapshot c r) ∈ y.journal backend order) :
    ∃ d, snapshot = c.apply d ∧ (i, Deed.change d c) ∈ y.journal backend order := by
  have hlt : i < (y.turns backend order).calls.length := by
    rw [length_calls_turns]
    exact lt_of_mem_journal h
  obtain ⟨d, hsnapshot, hbook⟩ :=
    (hbooked (List.getElem?_eq_getElem hlt)).eq_of_save (Journal.mem_book h rfl)
  refine ⟨d, hsnapshot, Journal.mem_of_mem_book ?_⟩
  rw [hbook]
  exact List.mem_cons_self

/-- Data that have been loaded stay so. -/
theorem loaded_turns (h : y.shared.loaded = true) (order : List ℕ) :
    (y.turns backend order).shared.loaded = true := by
  refine turns_keeps (P := fun z => z.shared.loaded = true) (fun z w k hz hstep => ?_) h order
  obtain ⟨p, q, s', -, -, hact, rfl⟩ := act_of_step? hstep
  exact hact.loaded hz

variable {R : ℕ → Directory → Change → Prop} {d? : Option Directory}

/-- From a moment at which the data are there and free, the journal begins with them. -/
theorem Course.turns_of_free (hy : y.Course R d?) (hR : ∀ i d c, R i d c → c.Fits d)
    (hl : y.shared.loaded = true) (hf : y.free .data = true) (backend : Backend σ)
    (order : List ℕ) :
    Journal.Lawful R (some y.shared.directory) (y.journal backend order) ∧
      (y.turns backend order).Course R
        (Journal.secured (some y.shared.directory) (y.journal backend order)) ∧
      (y.turns backend order).Booked (y.journal backend order) := by
  obtain rfl := hy.eq_of_free hl hf
  obtain ⟨hlawful, hcourse⟩ := hy.turns hR backend order
  exact ⟨hlawful, hcourse, (booked_nil fun p => hy.gated.stake?_ne_saving hf).turns hy.gated
    backend order⟩

/-- **What every change keeps that is made, the data in memory keep**, from a moment at which they
are there and free. -/
theorem Course.keeps {P : Directory → Prop} (hy : y.Course R d?)
    (hR : ∀ i d c, R i d c → c.Fits d) (hl : y.shared.loaded = true)
    (hf : y.free .data = true) {order : List ℕ} (hP : P y.shared.directory)
    (hstep : ∀ i d₀ d c, (i, Deed.change d₀ c) ∈ y.journal backend order → R i d c → P d →
      P (c.apply d)) : P (y.turns backend order).shared.directory := by
  obtain ⟨hlawful, hcourse, hbooked⟩ := hy.turns_of_free hR hl hf backend order
  obtain ⟨d, hd, hPd⟩ := hlawful.keeps hP fun i d' c hmem hc hP' => by
    obtain ⟨d₀, -, hchange⟩ := hbooked.change_of_save hmem
    exact hstep i d₀ d' c hchange hc hP'
  obtain ⟨d', hd', hcases⟩ := hcourse.directory_cases (loaded_turns hl order)
  cases hd.symm.trans hd'
  rcases hcases with heq | ⟨i, p, c, hi, hs, heq, hc⟩
  · exact heq ▸ hPd
  · obtain ⟨d₀, -, hbook⟩ := (hbooked hi).eq_of_saving hs
    have hchange : Deed.change d₀ c ∈ (y.journal backend order).book i := by simp [hbook]
    exact heq ▸ hstep i d₀ d c (Journal.mem_of_mem_book hchange) hc hPd

end Service

end SignIn
