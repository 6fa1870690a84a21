import Mathlib.Data.List.Forall2
import SignIn.Proofs.Account.Growth

/-!
# What lies between the data of two moments

Users come and go one at a time. So the users of a later moment are those of an earlier one without
the ones who have left, in the same order and with all that they had, and behind them those who
have joined (`User.Lineage`). What a change does to one user or at one place of the list does not
disturb this, wherever the place is.

`Directory.Continues` says it of all the data, and `Directory.Continues.apply` is its step.
-/

namespace SignIn

variable {left joined : String → Prop}

namespace User

/-- One list of users has become another one, by users who left and users who joined. -/
inductive Lineage (left joined : String → Prop) : List User → List User → Prop
  /-- Behind those who were there stand those who have joined. -/
  | come {ws : List User} (h : ∀ w ∈ ws, joined w.id) : Lineage left joined [] ws
  /-- A user is still there, with all that it had. -/
  | stay {u v : User} {us vs : List User} (h : u.Extends v) (ht : Lineage left joined us vs) :
      Lineage left joined (u :: us) (v :: vs)
  /-- A user has left. -/
  | leave {u : User} {us vs : List User} (h : left u.id) (ht : Lineage left joined us vs) :
      Lineage left joined (u :: us) vs

namespace Lineage

variable {us vs : List User} {u w : User}

/-- Without any change all users are still there. -/
theorem refl (us : List User) : Lineage left joined us us := by
  induction us with
  | nil => exact .come fun w hw => absurd hw List.not_mem_nil
  | cons u us ih => exact .stay (.refl u) ih

/-- What has happened to users has happened to them in a longer time. -/
theorem mono {left' joined' : String → Prop} (h : Lineage left joined us vs)
    (hleft : ∀ id, left id → left' id) (hjoined : ∀ id, joined id → joined' id) :
    Lineage left' joined' us vs := by
  induction h with
  | come h => exact .come fun w hw => hjoined _ (h w hw)
  | stay h _ ih => exact .stay h ih
  | leave h _ ih => exact .leave (hleft _ h) ih

theorem concat (h : Lineage left joined us vs) (hw : joined w.id) :
    Lineage left joined us (vs ++ [w]) := by
  induction h with
  | come h =>
    refine .come fun x hx => ?_
    rcases List.mem_append.1 hx with hx | hx
    · exact h x hx
    · rw [List.mem_singleton.1 hx]
      exact hw
  | stay h _ ih => exact .stay h ih
  | leave h _ ih => exact .leave h ih

theorem modify {g : User → User} (hg : ∀ v : User, v.Extends (g v))
    (h : Lineage left joined us vs) (i : ℕ) : Lineage left joined us (vs.modify i g) := by
  induction h generalizing i with
  | come h =>
    refine .come fun x hx => ?_
    rcases mem_modify_cases hx with hx | ⟨v, hv, rfl⟩
    · exact h x hx
    · rw [(hg v).id_eq]
      exact h v (List.mem_of_getElem? hv)
  | stay h ht ih =>
    cases i with
    | zero => exact .stay (h.trans (hg _)) ht
    | succ i => exact .stay h (ih i)
  | leave h _ ih => exact .leave h (ih i)

theorem eraseIdx (h : Lineage left joined us vs) {i : ℕ} (hi : vs[i]? = some w)
    (hw : left w.id) : Lineage left joined us (vs.eraseIdx i) := by
  induction h generalizing i with
  | come h => exact .come fun x hx => h x (List.mem_of_mem_eraseIdx hx)
  | stay h ht ih =>
    cases i with
    | zero =>
      -- it was there from the beginning, and its id has not changed
      obtain rfl := Option.some.inj hi
      exact .leave (h.id_eq ▸ hw) ht
    | succ i => exact .stay h (ih hi)
  | leave h _ ih => exact .leave h (ih hi)

/-- Whoever was there has left, or is still there. -/
private theorem left_or_extends (h : Lineage left joined us vs) (hu : u ∈ us) :
    left u.id ∨ ∃ v ∈ vs, u.Extends v := by
  induction h with
  | come => cases hu
  | stay h _ ih =>
    rcases List.mem_cons.1 hu with rfl | hu
    · exact Or.inr ⟨_, List.mem_cons_self, h⟩
    · exact (ih hu).imp_right fun ⟨v, hv, hextends⟩ => ⟨v, List.mem_cons_of_mem _ hv, hextends⟩
  | leave h _ ih =>
    rcases List.mem_cons.1 hu with rfl | hu
    · exact Or.inl h
    · exact ih hu

/-- Whoever is there has joined, or was there before. -/
private theorem joined_or_extends (h : Lineage left joined us vs) (hw : w ∈ vs) :
    joined w.id ∨ ∃ u ∈ us, u.Extends w := by
  induction h with
  | come h => exact Or.inl (h w hw)
  | stay h _ ih =>
    rcases List.mem_cons.1 hw with rfl | hw
    · exact Or.inr ⟨_, List.mem_cons_self, h⟩
    · exact (ih hw).imp_right fun ⟨u, hu, hextends⟩ => ⟨u, List.mem_cons_of_mem _ hu, hextends⟩
  | leave _ _ ih =>
    exact (ih hw).imp_right fun ⟨u, hu, hextends⟩ => ⟨u, List.mem_cons_of_mem _ hu, hextends⟩

/-- **A user is known by its id**: who has the id of somebody who was there is the same user with
perhaps more, unless that user has left and its id has been given to one who joined. -/
theorem extends_of_id_eq (h : Lineage left joined us vs) (hus : (us.map User.id).Nodup)
    (hvs : (vs.map User.id).Nodup) (hu : u ∈ us) (hw : w ∈ vs) (hid : w.id = u.id) :
    u.Extends w ∨ (left u.id ∧ joined u.id) := by
  rcases h.left_or_extends hu with hleft | ⟨v, hv, hextends⟩
  · rcases h.joined_or_extends hw with hjoined | ⟨x, hx, hextends⟩
    · exact Or.inr ⟨hleft, hid ▸ hjoined⟩
    · have hxu : x = u := List.inj_on_of_nodup_map hus hx hu (hextends.id_eq.symm.trans hid)
      exact Or.inl (hxu ▸ hextends)
  · have hvw : v = w := List.inj_on_of_nodup_map hvs hv hw (hextends.id_eq.trans hid.symm)
    exact Or.inl (hvw ▸ hextends)

/-- **While nobody leaves, a list of users only grows.** -/
theorem exists_append (h : Lineage left joined us vs) (hstay : ∀ u ∈ us, ¬ left u.id) :
    ∃ stayed come, vs = stayed ++ come ∧ List.Forall₂ User.Extends us stayed := by
  induction h with
  | come => exact ⟨[], _, rfl, .nil⟩
  | stay h _ ih =>
    obtain ⟨stayed, come, rfl, hall⟩ := ih fun u hu => hstay u (List.mem_cons_of_mem _ hu)
    exact ⟨_ :: stayed, come, rfl, .cons h hall⟩
  | leave h => exact absurd h (hstay _ List.mem_cons_self)

end Lineage

end User

namespace Directory

/-- One directory has become another one, by users who left and users who joined. -/
structure Continues (left joined : String → Prop) (d d' : Directory) : Prop where
  clients : d.clients <+: d'.clients
  users : User.Lineage left joined d.users d'.users

variable {d d' : Directory} {c : Change}

theorem Continues.refl (d : Directory) : d.Continues left joined d :=
  ⟨List.prefix_refl _, .refl _⟩

/-- What lies between the data of two moments lies between those of moments further apart. -/
theorem Continues.mono {left' joined' : String → Prop} (h : d.Continues left joined d')
    (hleft : ∀ id, left id → left' id) (hjoined : ∀ id, joined id → joined' id) :
    d.Continues left' joined' d' :=
  ⟨h.clients, h.users.mono hleft hjoined⟩

/-- **A change disturbs nothing but what it is about.** -/
theorem Continues.apply (h : d.Continues left joined d') (hfits : c.Fits d')
    (hleft : ∀ i u, c = .removeUser i u → left u.id)
    (hjoined : ∀ u, c = .addUser u → joined u.id) : d.Continues left joined (c.apply d') := by
  cases c with
  | addUser u => exact ⟨h.clients, h.users.concat (hjoined u rfl)⟩
  | addCredentials i e =>
    refine ⟨h.clients, h.users.modify (fun v => ?_) i⟩
    exact ⟨rfl, List.prefix_append _ _, List.prefix_refl _⟩
  | addToken i t =>
    refine ⟨h.clients, h.users.modify (fun v => ?_) i⟩
    exact ⟨rfl, List.prefix_refl _, List.prefix_append _ _⟩
  | removeUser i u => exact ⟨h.clients, h.users.eraseIdx hfits (hleft i u rfl)⟩
  | addClient client => exact ⟨h.clients.trans (List.prefix_append _ _), h.users⟩

end Directory

end SignIn
