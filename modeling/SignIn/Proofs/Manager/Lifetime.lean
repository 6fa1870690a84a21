import SignIn.Config.Load
import SignIn.Proofs.Manager.Calls
import SignIn.Proofs.Time.Arithmetic

/-!
# How long tokens can be valid

A configuration may ask for any positive number of minutes. Not every such number can be served:
the minutes have to be a span of time, and a token that is issued has to have a moment of expiry.
`Config.Sustained` is what it takes for a configuration to work to the end, and
`Config.sustained_iff` says for how many minutes it does. Both bounds lie below the greatest number
of minutes that `Config.validate` lets pass.
-/

namespace SignIn

variable {σ : Type}

/-- A token that a call issues is valid from the instant of the call on, for the given span. -/
private theorem Store.yields_createToken (validity : Span) (userId clientId tokenId : String)
    (now : Instant) : (createToken validity userId clientId tokenId now : Procedure σ Token).Obeys
      (.yields fun t => t = Token.issue userId clientId tokenId now validity) := by
  intro d
  beta_reduce
  rcases withUser_cases d userId (fun i _ =>
    let t := Token.issue userId clientId tokenId now validity
    Decision.commit (.addToken i t) t) with ⟨herror, -⟩ | ⟨i, u, -, -, hcommit⟩
  · rw [herror]
    rintro _ ⟨⟩
  · rw [hcommit]
    exact ⟨trivial, rfl⟩

namespace Manager

/-- What a call of a manager answers that issues a token. -/
private theorem Call.yields_createToken {m : Manager σ} (userId clientId tokenId : String)
    (now : Instant) : ((createToken userId clientId tokenId now).procedure m).Obeys
      (.yields fun reply =>
        reply = .store (.token (Token.issue userId clientId tokenId now m.validity))) := by
  refine Procedure.obeys_map.2 (Procedure.obeys_map.2 ?_)
  refine (Store.yields_createToken m.validity userId clientId tokenId now).mono
    ⟨fun _ _ _ => trivial, fun _ _ _ => trivial, ?_⟩
  rintro t rfl
  rfl

/-- A manager issues a token at an instant, by a call of some run. -/
def Issues (m : Manager σ) (now : Instant) (t : Token) : Prop :=
  ∃ (backend : Backend σ) (s : Shared σ) (calls : List (Call σ)) (order : List ℕ) (i : ℕ)
    (userId clientId tokenId : String),
    calls[i]? = some (.createToken userId clientId tokenId now) ∧
      ((m.opening s calls).turns backend order).result? i = some (.ok (.store (.token t)))

variable {now : Instant} {t : Token}

/-- **All tokens of a manager are valid for its span**, from the instant on at which they are
issued. -/
theorem Issues.eq_issue {m : Manager σ} (h : m.Issues now t) :
    ∃ userId clientId tokenId, t = Token.issue userId clientId tokenId now m.validity := by
  obtain ⟨backend, s, calls, order, i, userId, clientId, tokenId, hcall, hresult⟩ := h
  refine ⟨userId, clientId, tokenId, ?_⟩
  have hi : (calls.map (Call.procedure m))[i]?
      = some (Call.procedure m (.createToken userId clientId tokenId now)) := by
    rw [List.getElem?_map, hcall, Option.map_some]
  have hreply := Service.answers_turns hi (Call.yields_createToken userId clientId tokenId now)
    hresult
  cases hreply
  rfl

/-- Whoever is there can be issued a token at every instant. -/
private theorem exists_issues (m : Manager Unit) (now : Instant) :
    ∃ t, m.Issues now t ∧ t = Token.issue "u1" "app" "t1" now m.validity := by
  let s : Shared Unit :=
    { loaded := true, directory := { users := [User.create "u1" true true none] }, world := () }
  refine ⟨_, ⟨.transient Unit, s, [.createToken "u1" "app" "t1" now], List.replicate 4 0, 0, "u1",
    "app", "t1", rfl, ?_⟩, rfl⟩
  rfl

end Manager

namespace Config

/-- A configuration works to the end. -/
structure Sustained (c : Config) : Prop where
  /-- Its minutes are a span of time. -/
  span : ∃ v, c.validity? = some v
  /-- There is a manager for it, whatever provider types are registered. -/
  manager : ∀ {σ : Type} (registry : Registry σ), ∃ m, Manager.ofConfig registry c = .ok m
  /-- Every token that its manager issues in the years from 1970 to 9999 has a moment of expiry, so
  that at every instant it can be told whether it has expired. -/
  tokens : ∀ {σ : Type} (registry : Registry σ) (m : Manager σ),
    Manager.ofConfig registry c = .ok m → ∀ (now : Instant) (t : Token), now.LiesIn 1970 9999 →
      m.Issues now t → ∃ expiry, t.expiresAt? = some expiry ∧
        ∀ later, t.isExpired? later = some (decide (expiry ≤ later))

variable {c : Config}

/-! ### The minutes as a span of time -/

private theorem seconds_of_validity? {v : Span} (h : c.validity? = some v) :
    v.seconds = c.minutes.toInt * 60 :=
  Span.ofSeconds?_eq_some_iff.1 h

/-- The minutes of a valid configuration are no span of time if they are too many. -/
theorem validity?_eq_none_iff (h : c.validate = .ok ()) :
    c.validity? = none ↔ 153722867280912 < c.minutes.toInt := by
  obtain ⟨hpos, -⟩ := validate_eq_ok_iff.1 h
  rw [validity?, Span.ofMinutes?, Span.ofSeconds?_eq_none_iff, Span.greatest]
  omega

/-! ### How many minutes can be served -/

/-- There is a manager for a valid configuration just if its minutes are a span of time. -/
theorem exists_ofConfig_iff (registry : Registry σ) (h : c.validate = .ok ()) :
    (∃ m, Manager.ofConfig registry c = .ok m) ↔ c.minutes.toInt ≤ 153722867280912 := by
  rw [← Int.not_lt, ← validity?_eq_none_iff h]
  cases hv : c.validity? with
  | none => simp [Manager.ofConfig, h, hv]
  | some v => simp [Manager.ofConfig, h, hv]

/-- With other minutes the validity of tokens overflows. -/
theorem ofConfig_eq_validityOverflow_iff (registry : Registry σ) (h : c.validate = .ok ()) :
    Manager.ofConfig registry c = .error .validityOverflow ↔
      153722867280912 < c.minutes.toInt := by
  rw [← validity?_eq_none_iff h]
  cases hv : c.validity? with
  | none => simp [Manager.ofConfig, h, hv]
  | some v => simp [Manager.ofConfig, h, hv]

/-- The tokens of a manager are valid for the minutes of its configuration. -/
private theorem seconds_of_ofConfig {registry : Registry σ} {m : Manager σ}
    (h : Manager.ofConfig registry c = .ok m) : m.validity.seconds = c.minutes.toInt * 60 := by
  rw [Manager.ofConfig] at h
  split at h
  · cases h
  · split at h <;> cases h
    rename_i hv
    exact seconds_of_validity? hv

/-- Where tokens of the last second of the year 9999 have a moment of expiry, the minutes are few
enough. -/
private theorem Sustained.minutes_le (hs : c.Sustained) (h : c.validate = .ok ()) :
    c.minutes.toInt ≤ 132614409600 := by
  obtain ⟨hpos, -⟩ := validate_eq_ok_iff.1 h
  obtain ⟨m, hm⟩ := hs.manager (Registry.empty : Registry Unit)
  have hseconds := seconds_of_ofConfig hm
  let last : Instant := { second := 253402300799, nano := 0 }
  have hlast : last.LiesIn 1970 9999 := Instant.liesIn_iff.2 ⟨by decide, Int.le_refl _⟩
  obtain ⟨t, hissues, ht⟩ := Manager.exists_issues m last
  obtain ⟨expiry, hexpiry, -⟩ := hs.tokens _ m hm last t hlast hissues
  have hsome : t.expiresAt?.isSome = true := by rw [hexpiry, Option.isSome_some]
  rw [ht, Token.isSome_expiresAt?_issue_iff (by omega)] at hsome
  have hsecond : last.second = 253402300799 := rfl
  omega

/-- With so few minutes all tokens of these years have a moment of expiry. -/
private theorem sustained_of_minutes_le (h : c.validate = .ok ())
    (hle : c.minutes.toInt ≤ 132614409600) : c.Sustained := by
  obtain ⟨hpos, -⟩ := validate_eq_ok_iff.1 h
  constructor
  case span =>
    cases hv : c.validity? with
    | some v => exact ⟨v, rfl⟩
    | none =>
      have hmany := (validity?_eq_none_iff h).1 hv
      omega
  case manager =>
    intro σ registry
    exact (exists_ofConfig_iff registry h).2 (by omega)
  case tokens =>
    intro σ registry m hm now t hnow hissues
    have hseconds := seconds_of_ofConfig hm
    obtain ⟨-, hlatest⟩ := Instant.liesIn_iff.1 hnow
    obtain ⟨userId, clientId, tokenId, rfl⟩ := hissues.eq_issue
    have hsome : (Token.issue userId clientId tokenId now m.validity).expiresAt?.isSome = true := by
      rw [Token.isSome_expiresAt?_issue_iff (by omega)]
      omega
    obtain ⟨expiry, hexpiry⟩ := Option.isSome_iff_exists.1 hsome
    exact ⟨expiry, hexpiry, Token.isExpired?_eq hexpiry⟩

/-- **How many minutes can be served.** A valid configuration works to the end if and only if its
minutes are at most 132614409600. There is a manager for it if and only if they are at most
153722867280912; with more of them the validity of tokens overflows. -/
theorem sustained_iff (h : c.validate = .ok ()) :
    (c.Sustained ↔ c.minutes.toInt ≤ 132614409600) ∧
      ∀ {σ : Type} (registry : Registry σ),
        ((∃ m, Manager.ofConfig registry c = .ok m) ↔ c.minutes.toInt ≤ 153722867280912) ∧
        (Manager.ofConfig registry c = .error .validityOverflow ↔
          153722867280912 < c.minutes.toInt) := by
  refine ⟨⟨fun hs => hs.minutes_le h, sustained_of_minutes_le h⟩, fun registry => ?_⟩
  exact ⟨exists_ofConfig_iff registry h, ofConfig_eq_validityOverflow_iff registry h⟩

theorem sustained_iff_standard :
    Config.validate {} = .ok () ∧ Config.Sustained {} ∧
      ∃ m, Manager.ofConfig (Registry.builtin : Registry Unit) {} = .ok m := by
  have h : Config.validate {} = .ok () := rfl
  obtain ⟨hsustained, hmanager⟩ := sustained_iff h
  have hminutes : ({} : Config).minutes.toInt ≤ 132614409600 := by decide
  exact ⟨h, hsustained.2 hminutes, (hmanager _).1.2 (by omega)⟩

/-- The least number of minutes that is no span of time. -/
def endless : Config := { minutes := 153722867280913 }

/-- The least number of minutes with which a token of the year 9999 need not expire. -/
def unexpired : Config := { minutes := 132614409601 }

/-- Both of them can be written down, and are valid; but there is no manager for the first one, and
the manager of the second one issues a token in the year 9999 that has no moment of expiry. -/
theorem not_sustained_endless :
    ((ofText "access_token_valid_minutes = 153722867280913").toOption.map minutes
        = some endless.minutes ∧
      endless.validate = .ok () ∧ endless.validity? = none ∧
      Manager.ofConfig (Registry.builtin : Registry Unit) endless = .error .validityOverflow ∧
      ¬ endless.Sustained) ∧
    (ofText "access_token_valid_minutes = 132614409601").toOption.map minutes
        = some unexpired.minutes ∧
      unexpired.validate = .ok () ∧ ¬ unexpired.Sustained ∧
      ∃ (m : Manager Unit) (now : Instant) (t : Token),
        Manager.ofConfig Registry.builtin unexpired = .ok m ∧ now.LiesIn 1970 9999 ∧
        m.Issues now t ∧ t.expiresAt? = none ∧ ∀ later, t.isExpired? later = none := by
  have hendless : endless.validate = .ok () := rfl
  have hunexpired : unexpired.validate = .ok () := rfl
  have hmany : ¬ endless.minutes.toInt ≤ 132614409600 := by decide
  have hlate : ¬ unexpired.minutes.toInt ≤ 132614409600 := by decide
  refine ⟨⟨by decide +kernel, hendless, by decide, ?_, fun h => hmany (h.minutes_le hendless)⟩,
    by decide +kernel, hunexpired, fun h => hlate (h.minutes_le hunexpired), ?_⟩
  · exact (ofConfig_eq_validityOverflow_iff _ hendless).2 (by decide)
  · obtain ⟨m, hm⟩ := (exists_ofConfig_iff (Registry.builtin : Registry Unit) hunexpired).2
      (by decide)
    let last : Instant := { second := 253402300799, nano := 0 }
    obtain ⟨t, hissues, ht⟩ := Manager.exists_issues m last
    have hseconds : m.validity.seconds = 7956864576060 := seconds_of_ofConfig hm
    have hnone : t.expiresAt? = none := by
      rw [← Option.not_isSome_iff_eq_none, ht, Token.isSome_expiresAt?_issue_iff (by omega)]
      have hsecond : last.second = 253402300799 := rfl
      omega
    refine ⟨m, last, t, hm, by decide, hissues, hnone, fun later => ?_⟩
    rw [Token.isExpired?, hnone, Option.map_none]

end Config

end SignIn
