import SignIn.Config.Load
import SignIn.Proofs.Text.Integer

/-!
# The override of the minutes

The environment may hold a text that overrides the minutes of a configuration.
`Config.minutesOfText?_eq_some_iff` says what minutes a text stands for: the integer that it
denotes, if that has sixty-four bits. From this follows what comes of each text where every provider
has a type (`Config.overrides`).

What the override leaves behind does not depend on what comes of it (`Config.override_snd`): minutes
that turn out to be of no use have been set all the same. `Config.leaves_behind` says just when a
refused override does no harm.
-/

namespace SignIn

/-- A text is what its own bytes denote. -/
theorem variableText?_toUTF8 (s : String) : variableText? (some s.toUTF8) = some s :=
  dif_pos s.isValidUTF8

/-- The minutes that the environment sets. -/
def Environment.minutes? (env : Environment) : Option Int64 :=
  (variableText? env.expiryMinutes).bind Config.minutesOfText?

namespace Config

variable {env : Environment} {c : Config} {text : String}

/-! ### The minutes of a text -/

private theorem toInt_bounds (minutes : Int64) :
    -9223372036854775808 ≤ minutes.toInt ∧ minutes.toInt ≤ 9223372036854775807 :=
  ⟨minutes.minValue_le_toInt, minutes.toInt_le⟩

/-- The minutes of a text are the integer that it denotes. -/
theorem minutesOfText?_eq_some_iff {minutes : Int64} :
    minutesOfText? text = some minutes ↔ Text.Denotes text minutes.toInt := by
  rw [← Text.integer?_trimList_eq_some_iff, minutesOfText?]
  constructor
  · intro h
    split at h
    · rename_i z hz
      split at h
      · rename_i hbounds
        cases h
        rw [hz, Int64.toInt_ofInt_of_le (by omega) (by omega)]
      · cases h
    · cases h
  · intro h
    rw [h]
    dsimp only
    rw [if_pos (toInt_bounds minutes), Int64.ofInt_toInt]

/-- The minutes that the environment sets are the integer that its text denotes. -/
theorem minutes?_eq_some_iff {minutes : Int64} : env.minutes? = some minutes ↔
    ∃ text, variableText? env.expiryMinutes = some text ∧ Text.Denotes text minutes.toInt := by
  simp only [Environment.minutes?, Option.bind_eq_some_iff, minutesOfText?_eq_some_iff]

/-- An integer of sixty-four bits is the minutes of every text that denotes it. -/
private theorem exists_minutesOfText?_eq {z : Int} (h : Text.Denotes text z)
    (hlow : -9223372036854775808 ≤ z) (hhigh : z ≤ 9223372036854775807) :
    ∃ minutes, minutesOfText? text = some minutes ∧ minutes.toInt = z := by
  have htoInt : (Int64.ofInt z).toInt = z := Int64.toInt_ofInt_of_le (by omega) (by omega)
  exact ⟨_, minutesOfText?_eq_some_iff.2 (htoInt.symm ▸ h), htoInt⟩

/-- A text has no minutes if it denotes no integer of sixty-four bits. -/
private theorem minutesOfText?_eq_none (h : ∀ z, Text.Denotes text z →
    z < -9223372036854775808 ∨ 9223372036854775807 < z) : minutesOfText? text = none := by
  cases hminutes : minutesOfText? text with
  | none => rfl
  | some minutes =>
    have hbounds := toInt_bounds minutes
    have hunfit := h _ (minutesOfText?_eq_some_iff.1 hminutes)
    omega

/-! ### What the override does -/

/-- Minutes of the environment are set before the configuration is checked. -/
private theorem override_of_minutes? {minutes : Int64} (h : env.minutes? = some minutes) :
    c.override env = ({ c with minutes }.validate, { c with minutes }) := by
  obtain ⟨text, htext, hminutes⟩ := Option.bind_eq_some_iff.1 h
  simp only [override, htext, hminutes]

/-- A text that is no number is refused before anything is set. -/
private theorem override_of_noNumber (htext : variableText? env.expiryMinutes = some text)
    (h : minutesOfText? text = none) :
    c.override env = (.error (.minutesNotANumber text), c) := by
  simp only [override, htext, h]

/-- The minutes of the environment are set, whatever comes of it. -/
theorem override_snd (env : Environment) (c : Config) :
    (c.override env).2 = { c with minutes := env.minutes?.getD c.minutes } := by
  cases hminutes : env.minutes? with
  | some minutes => rw [override_of_minutes? hminutes, Option.getD_some]
  | none =>
    cases htext : variableText? env.expiryMinutes with
    | none => rw [override, htext, Option.getD_none]
    | some text =>
      rw [Environment.minutes?, htext, Option.bind_some] at hminutes
      rw [override_of_noNumber htext hminutes, Option.getD_none]

/-! ### What comes of a text -/

/-- The environment with a text that overrides the minutes. -/
def withExpiry (env : Environment) (text : String) : Environment :=
  { env with expiryMinutes := some text.toUTF8 }

private theorem variableText?_withExpiry :
    variableText? (withExpiry env text).expiryMinutes = some text :=
  variableText?_toUTF8 text

private theorem minutes?_withExpiry : (withExpiry env text).minutes? = minutesOfText? text := by
  rw [Environment.minutes?, variableText?_withExpiry, Option.bind_some]

/-- A text is refused as no number and quoted as it is, and the configuration does not change. -/
def Quotes (text : String) (c : Config) (outcome : Except ConfigFault Unit × Config) : Prop :=
  outcome.1.mapError ConfigFault.message
    = .error ("ACCESS_TOKEN_EXPIRY_MINUTES is not a number: " ++ text) ∧ outcome.2 = c

/-- What has to come of a text that overrides the minutes of a configuration whose providers all
have a type: an outcome, and the configuration afterwards. -/
structure Overrides (text : String) (c : Config)
    (outcome : Except ConfigFault Unit × Config) : Prop where
  /-- A text is accepted just if it denotes a positive integer of sixty-four bits. -/
  accepts_iff : outcome.1 = .ok () ↔
    ∃ z, Text.Denotes text z ∧ 1 ≤ z ∧ z ≤ 9223372036854775807
  /-- This integer is the minutes then, and the providers stay. -/
  sets : ∀ z, Text.Denotes text z → 1 ≤ z → z ≤ 9223372036854775807 →
    outcome.2.minutes.toInt = z ∧ outcome.2.providers = c.providers
  /-- Zero and the negative integers of sixty-four bits are refused as such. -/
  notPositive : ∀ z, Text.Denotes text z → -9223372036854775808 ≤ z → z ≤ 0 →
    outcome.1.mapError ConfigFault.message
      = .error "access_token_valid_minutes must be positive"
  /-- Every text that denotes no integer is refused as no number. -/
  notANumber : (∀ z, ¬ Text.Denotes text z) → Quotes text c outcome
  /-- So is an integer that has more than sixty-four bits. -/
  tooLarge : ∀ z, Text.Denotes text z → z < -9223372036854775808 ∨ 9223372036854775807 < z →
    Quotes text c outcome
  /-- So is a text without a digit: the empty one, white space, a sign on its own. -/
  noDigit : (∀ ch ∈ text.toList, Text.isDigit ch = false) → Quotes text c outcome

/-- An integer of sixty-four bits is set, and then the configuration is checked. -/
private theorem override_of_denotes {z : Int} (h : Text.Denotes text z)
    (hlow : -9223372036854775808 ≤ z) (hhigh : z ≤ 9223372036854775807) :
    ∃ minutes : Int64, minutes.toInt = z ∧
      c.override (withExpiry env text) = ({ c with minutes }.validate, { c with minutes }) := by
  obtain ⟨minutes, hminutes, hz⟩ := exists_minutesOfText?_eq h hlow hhigh
  exact ⟨minutes, hz, override_of_minutes? (minutes?_withExpiry.trans hminutes)⟩

/-- A text that denotes no integer of sixty-four bits is quoted. -/
private theorem quotes_of_unfit (h : ∀ z, Text.Denotes text z →
    z < -9223372036854775808 ∨ 9223372036854775807 < z) :
    Quotes text c (c.override (withExpiry env text)) := by
  rw [override_of_noNumber variableText?_withExpiry (minutesOfText?_eq_none h)]
  exact ⟨rfl, rfl⟩

private theorem exists_denotes_of_override (h : (c.override (withExpiry env text)).1 = .ok ()) :
    ∃ z, Text.Denotes text z ∧ 1 ≤ z ∧ z ≤ 9223372036854775807 := by
  cases hminutes : minutesOfText? text with
  | none =>
    rw [override_of_noNumber variableText?_withExpiry hminutes] at h
    cases h
  | some minutes =>
    rw [override_of_minutes? (minutes?_withExpiry.trans hminutes)] at h
    exact ⟨_, minutesOfText?_eq_some_iff.1 hminutes, (validate_eq_ok_iff.1 h).1,
      (toInt_bounds minutes).2⟩

/-- **The override accepts the positive integers of sixty-four bits** and nothing else. What a text
denotes is said by a grammar of signs and digits, apart from the function that reads it. -/
theorem overrides (env : Environment) (text : String) {c : Config}
    (hkinds : ∀ p ∈ c.providers, p.kind ≠ "") :
    Overrides text c (c.override (withExpiry env text)) := by
  constructor
  case accepts_iff =>
    refine ⟨exists_denotes_of_override, ?_⟩
    rintro ⟨z, hz, hpos, hhigh⟩
    obtain ⟨minutes, rfl, houtcome⟩ := override_of_denotes hz (by omega) hhigh
    rw [houtcome]
    exact validate_eq_ok_iff.2 ⟨hpos, hkinds⟩
  case sets =>
    intro z hz hpos hhigh
    obtain ⟨minutes, rfl, houtcome⟩ := override_of_denotes hz (by omega) hhigh
    rw [houtcome]
    exact ⟨rfl, rfl⟩
  case notPositive =>
    intro z hz hlow hnonpos
    obtain ⟨minutes, rfl, houtcome⟩ := override_of_denotes hz hlow (by omega)
    rw [houtcome, validate_of_not_pos (c := { c with minutes }) hnonpos]
    rfl
  case notANumber =>
    intro hnone
    exact quotes_of_unfit fun z hz => absurd hz (hnone z)
  -- a text denotes one integer at most, so that none of sixty-four bits is left for it
  case tooLarge =>
    intro z hz hlarge
    exact quotes_of_unfit fun y hy => hz.unique hy ▸ hlarge
  case noDigit =>
    intro hclear
    refine quotes_of_unfit fun z hz => ?_
    obtain ⟨ch, hch, hdigit⟩ := hz.exists_isDigit
    rw [hclear ch hch] at hdigit
    cases hdigit

/-- A text with blanks around it, a sign and zeros in front. -/
theorem overrides_padded :
    let c : Config := { providers := [{ kind := "demo" }] }
    let outcome := c.override (withExpiry {} "\u00a0+0045\n")
    (∀ p ∈ c.providers, p.kind ≠ "") ∧ Text.Denotes "\u00a0+0045\n" 45 ∧ outcome.1 = .ok () ∧
      outcome.2.minutes.toInt = 45 := by
  have hkinds : ∀ p ∈ [({ kind := "demo" } : ProviderConfig)], p.kind ≠ "" := by decide
  have hdenotes : Text.Denotes "\u00a0+0045\n" 45 :=
    Text.integer?_trimList_eq_some_iff.1 (by decide)
  have h := overrides {} "\u00a0+0045\n" (c := { providers := [{ kind := "demo" }] }) hkinds
  exact ⟨hkinds, hdenotes, h.accepts_iff.2 ⟨45, hdenotes, by decide, by decide⟩,
    (h.sets 45 hdenotes (by decide) (by decide)).1⟩

/-! ### What a refused override leaves behind -/

/-- An override does no harm to a configuration: when it is refused, the configuration is as it was
before, and a valid one is valid whatever comes of it. -/
structure Harmless (env : Environment) (c : Config) : Prop where
  unchanged : ∀ fault, (c.override env).1 = .error fault → (c.override env).2 = c
  valid : c.validate = .ok () → (c.override env).2.validate = .ok ()

/-- An override does no harm just if it sets no minutes, or those of before, or positive ones where
every provider has a type. -/
theorem harmless_iff : Harmless env c ↔ ∀ minutes, env.minutes? = some minutes →
    minutes = c.minutes ∨ 0 < minutes.toInt ∧ ∀ p ∈ c.providers, p.kind ≠ "" := by
  constructor
  · intro h minutes hminutes
    have houtcome := override_of_minutes? (c := c) hminutes
    cases hvalid : { c with minutes }.validate with
    | ok =>
      obtain ⟨hpos, hkinds⟩ := validate_eq_ok_iff.1 hvalid
      exact .inr ⟨hpos, hkinds⟩
    | error fault =>
      have hunchanged := h.unchanged fault (by rw [houtcome, hvalid])
      rw [houtcome] at hunchanged
      exact .inl (congrArg Config.minutes hunchanged)
  · intro h
    cases hminutes : env.minutes? with
    | none =>
      have hsame : (c.override env).2 = c := by rw [override_snd, hminutes, Option.getD_none]
      exact ⟨fun _ _ => hsame, fun hvalid => hsame.symm ▸ hvalid⟩
    | some minutes =>
      have houtcome := override_of_minutes? (c := c) hminutes
      rcases h minutes hminutes with rfl | hok
      · exact ⟨fun _ _ => by rw [houtcome], fun hvalid => by rwa [houtcome]⟩
      · -- the new configuration is valid, so that nothing is refused
        have hvalid : { c with minutes }.validate = .ok () :=
          validate_eq_ok_iff.2 ⟨hok.1, hok.2⟩
        refine ⟨fun fault hfault => ?_, fun _ => by rwa [houtcome]⟩
        rw [houtcome, hvalid] at hfault
        cases hfault

/-- A valid configuration is harmed by the texts that denote zero or a negative integer of
sixty-four bits. -/
theorem harmless_withExpiry_iff (h : c.validate = .ok ()) :
    Harmless (withExpiry env text) c ↔
      ∀ z, Text.Denotes text z → -9223372036854775808 ≤ z → 0 < z := by
  obtain ⟨hvalid, hkinds⟩ := validate_eq_ok_iff.1 h
  rw [harmless_iff, minutes?_withExpiry]
  constructor
  · intro hminutes z hz hlow
    by_contra hnonpos
    obtain ⟨minutes, htext, rfl⟩ := exists_minutesOfText?_eq hz hlow (by omega)
    rcases hminutes minutes htext with rfl | ⟨hpos, -⟩ <;> omega
  · intro hpositive minutes hminutes
    have hz := minutesOfText?_eq_some_iff.1 hminutes
    exact .inr ⟨hpositive _ hz (toInt_bounds minutes).1, hkinds⟩

/-- **What an override leaves behind**, refused or not: the minutes that the environment sets if it
sets any, and everything else as it was. It does no harm just if these minutes are those of before,
or if they are positive and every provider has a type; for a valid configuration this means that the
text does not denote zero or a negative integer of sixty-four bits. -/
theorem leaves_behind (env : Environment) (c : Config) :
    (c.override env).2 = { c with minutes := env.minutes?.getD c.minutes } ∧
      (Harmless env c ↔ ∀ minutes, env.minutes? = some minutes →
        minutes = c.minutes ∨ 0 < minutes.toInt ∧ ∀ p ∈ c.providers, p.kind ≠ "") ∧
      (c.validate = .ok () → ∀ text, Harmless (withExpiry env text) c ↔
        ∀ z, Text.Denotes text z → -9223372036854775808 ≤ z → 0 < z) :=
  ⟨override_snd env c, harmless_iff, fun hvalid _ => harmless_withExpiry_iff hvalid⟩

/-- The override with `0` is refused, and the default configuration has no minutes any more. -/
theorem not_harmless_zero :
    ({} : Config).validate = .ok () ∧
      ({} : Config).override (withExpiry {} "0") = (.error .minutesNotPositive, { minutes := 0 }) ∧
      ¬ Harmless (withExpiry {} "0") {} := by
  have hzero : minutesOfText? "0" = some 0 := by decide
  have houtcome : ({} : Config).override (withExpiry {} "0")
      = (.error .minutesNotPositive, { minutes := 0 }) := by
    rw [override_of_minutes? (minutes?_withExpiry.trans hzero)]
    rfl
  refine ⟨rfl, houtcome, fun h => ?_⟩
  have hunchanged := h.unchanged .minutesNotPositive (congrArg Prod.fst houtcome)
  rw [houtcome] at hunchanged
  exact absurd (congrArg Config.minutes hunchanged) (by decide)

end Config

end SignIn
