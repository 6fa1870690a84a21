import SignIn.Command.Run
import SignIn.Proofs.Config.Document
import SignIn.Proofs.Config.Override

/-!
# Which source of a configuration counts

Three sources say something about a configuration: what stands at a path, the defaults, and the
override of the environment. `Config.Begins` and `Config.Settles` describe the two steps from them
to a configuration, and `Config.load_eq_ok_iff` says that it is loaded in these two steps. So the
providers come from the file and the minutes from the first source that has any (`Config.Resolves`).
What a file says is told by `Config.Describes`, and what the environment says by `Text.Denotes`.

What is there but is of no use makes the whole fail, with or without an override
(`Config.Unusable`). The path of the command line is treated as that of the environment, except that
a file has to be there.
-/

namespace SignIn

namespace Place

/-- The text that stands at a path: a file holds it, which the system opens, and it is UTF-8. -/
def text? : Place → Option String
  | .file content => String.fromUTF8? content
  | _ => none

/-- The members of the document that stands at a path. -/
def document? (place : Place) : Option (List (String × Toml.Value)) :=
  place.text?.bind Toml.parse?

/-- The minutes that the document at a path states. -/
def minutes? (place : Place) : Option Int64 :=
  match place.document?.bind fun members => Table.get? members "access_token_valid_minutes" with
  | some (.integer n) => some (Int64.ofInt n)
  | _ => none

variable {place : Place} {text : String} {members : List (String × Toml.Value)}

/-- A file that is read gives its text, and everything else a fault. -/
theorem text_eq_ok_iff : place.text = .ok text ↔ place.text? = some text := by
  cases place with
  | file content =>
    rw [Place.text, text?]
    cases String.fromUTF8? content <;> simp
  | missing | directory | notADirectory | nameTooLong | nameWithNul | closed _ | barred _ =>
    exact ⟨nofun, nofun⟩

private theorem isThere_of_text? (h : place.text? = some text) : place.isThere = true := by
  cases place with
  | file content => rfl
  | missing | directory | notADirectory | nameTooLong | nameWithNul | closed _ | barred _ => cases h

theorem document?_eq_some_iff : place.document? = some members ↔
    ∃ text, place.text? = some text ∧ Toml.parse? text = some members :=
  Option.bind_eq_some_iff

private theorem isThere_of_document? (h : place.document? = some members) :
    place.isThere = true := by
  obtain ⟨text, htext, -⟩ := document?_eq_some_iff.1 h
  exact isThere_of_text? htext

private theorem document?_of_not_isThere (h : place.isThere = false) : place.document? = none := by
  refine Option.eq_none_iff_forall_ne_some.2 fun members hmembers => ?_
  cases h.symm.trans (isThere_of_document? hmembers)

private theorem tidy_of_document? (h : place.document? = some members) :
    (Toml.Value.table members).Tidy := by
  obtain ⟨text, -, hparse⟩ := document?_eq_some_iff.1 h
  exact Toml.tidy_of_parse? hparse

end Place

namespace Config

variable {files : Files} {env : Environment} {place : Place} {c c' : Config}

/-! ### What the override is applied to -/

/-- A configuration that the override is applied to: the valid one of a file, or the default one
where nothing is. -/
inductive Begins (place : Place) (c : Config) : Prop
  | file {members : List (String × Toml.Value)} : place.document? = some members →
      Describes members c → c.IsValid → Begins place c
  | standard : place.isThere = false → c = {} → Begins place c

/-- There is something that is no file with a valid configuration: a directory, something that is
not opened or is no text, a text that is no document, or a document that describes no valid one. -/
inductive Unusable (place : Place) : Prop
  /-- It is no file, or is not opened, or is not UTF-8. -/
  | unreadable : place.isThere = true → place.text? = none → Unusable place
  /-- Its text is no document. -/
  | malformed {text : String} : place.text? = some text → Toml.parse? text = none → Unusable place
  /-- Its document describes no configuration. -/
  | shapeless {members : List (String × Toml.Value)} : place.document? = some members →
      (∀ c, ¬ Describes members c) → Unusable place
  /-- Its document describes one that is not valid. -/
  | invalid {members : List (String × Toml.Value)} {c : Config} :
      place.document? = some members → Describes members c → ¬ c.IsValid → Unusable place

/-- A place describes one configuration at most. -/
theorem Describes.eq {members : List (String × Toml.Value)}
    (hdocument : place.document? = some members) (h : Describes members c)
    (h' : Describes members c') : c' = c := by
  have htidy := Place.tidy_of_document? hdocument
  rw [← ofToml_eq_some_iff htidy] at h h'
  exact Option.some.inj (h'.symm.trans h)

/-- A place has one configuration to begin with at most. -/
theorem Begins.eq (h : Begins place c) (h' : Begins place c') : c' = c := by
  cases h with
  | file hdocument hdescribes _ =>
    cases h' with
    | file hdocument' hdescribes' _ =>
      cases hdocument.symm.trans hdocument'
      exact hdescribes.eq hdocument hdescribes'
    | standard hmissing _ =>
      cases hmissing.symm.trans (Place.isThere_of_document? hdocument)
  | standard hmissing hc =>
    cases h' with
    | file hdocument' _ _ => cases hmissing.symm.trans (Place.isThere_of_document? hdocument')
    | standard _ hc' => rw [hc, hc']

/-- Where there is something of no use, there is nothing to begin with. -/
private theorem Unusable.not_begins (h : Unusable place) : ¬ Begins place c := by
  rintro (⟨hdocument, hdescribes, hvalid⟩ | ⟨hmissing, -⟩)
  · obtain ⟨text, htext, hparse⟩ := Place.document?_eq_some_iff.1 hdocument
    cases h with
    | unreadable _ hnone => cases hnone.symm.trans htext
    | malformed htext' hnone =>
      cases htext.symm.trans htext'
      cases hnone.symm.trans hparse
    | shapeless hdocument' hnone =>
      cases hdocument.symm.trans hdocument'
      exact hnone c hdescribes
    | invalid hdocument' hdescribes' hinvalid =>
      cases hdocument.symm.trans hdocument'
      exact hinvalid (hdescribes.eq hdocument hdescribes' ▸ hvalid)
  · have hthere : place.isThere = true := by
      cases h with
      | unreadable hthere _ => exact hthere
      | malformed htext _ => exact Place.isThere_of_text? htext
      | shapeless hdocument _ | invalid hdocument _ _ =>
        exact Place.isThere_of_document? hdocument
    cases hmissing.symm.trans hthere

/-- What is there is of no use, or the override is applied to its configuration. -/
theorem unusable_iff : Unusable place ↔ ¬ ∃ c, Begins place c := by
  refine ⟨fun h ⟨c, hbegins⟩ => h.not_begins hbegins, fun h => ?_⟩
  cases hthere : place.isThere with
  | false => exact absurd ⟨{}, .standard hthere rfl⟩ h
  | true =>
    cases htext : place.text? with
    | none => exact .unreadable hthere htext
    | some text =>
      cases hparse : Toml.parse? text with
      | none => exact .malformed htext hparse
      | some members =>
        have hdocument := Place.document?_eq_some_iff.2 ⟨text, htext, hparse⟩
        by_cases hdescribed : ∃ c, Describes members c
        · obtain ⟨c, hc⟩ := hdescribed
          exact .invalid hdocument hc fun hvalid => h ⟨c, .file hdocument hc hvalid⟩
        · exact .shapeless hdocument fun c hc => hdescribed ⟨c, hc⟩

private theorem Begins.isValid (h : Begins place c) : c.IsValid := by
  cases h with
  | file _ _ hvalid => exact hvalid
  | standard _ hc =>
    rw [hc]
    exact validate_eq_ok_iff.1 rfl

/-- The minutes are those that the document at the path states, or the default ones. -/
private theorem Begins.minutes_eq (h : Begins place c) : c.minutes = place.minutes?.getD 30 := by
  cases h with
  | file hdocument hdescribes _ =>
    rw [Place.minutes?, hdocument, Option.bind_some]
    cases hdescribes.minutes with
    | stated hstated =>
      rw [hstated]
      exact (Int64.ofInt_toInt c.minutes).symm
    | absent hnone hminutes =>
      rw [hnone, hminutes]
      rfl
  | standard hmissing hc =>
    rw [Place.minutes?, Place.document?_of_not_isThere hmissing, hc]
    rfl

/-- The providers are those that the document at the path describes. -/
private theorem Begins.describesProviders (h : Begins place c) (hthere : place.isThere = true) :
    ∃ members, place.document? = some members ∧ DescribesProviders members c.providers := by
  cases h with
  | file hdocument hdescribes _ => exact ⟨_, hdocument, hdescribes.providers⟩
  | standard hmissing _ => cases hmissing.symm.trans hthere

private theorem Begins.providers_eq_nil (h : Begins place c) (hmissing : place.isThere = false) :
    c.providers = [] := by
  cases h with
  | file hdocument _ _ => cases hmissing.symm.trans (Place.isThere_of_document? hdocument)
  | standard _ hc => rw [hc]

theorem ofText_eq_ok_iff {text : String} : ofText text = .ok c ↔
    ∃ members, Toml.parse? text = some members ∧ Describes members c ∧ c.IsValid := by
  have hread : ∀ c, (Toml.parse? text).bind ofToml = some c ↔
      ∃ members, Toml.parse? text = some members ∧ Describes members c := by
    intro c
    rw [Option.bind_eq_some_iff]
    refine exists_congr fun members => and_congr_right fun hparse => ?_
    exact ofToml_eq_some_iff (Toml.tidy_of_parse? hparse)
  rw [ofText]
  constructor
  · intro h
    split at h
    · cases h
    · rename_i c' hsome
      obtain ⟨members, hparse, hdescribes⟩ := (hread c').1 hsome
      cases hvalid : c'.validate with
      | error fault =>
        rw [hvalid] at h
        cases h
      | ok =>
        rw [hvalid] at h
        cases h
        exact ⟨members, hparse, hdescribes, validate_eq_ok_iff.1 hvalid⟩
  · rintro ⟨members, hparse, hdescribes, hvalid⟩
    simp only [(hread c).2 ⟨members, hparse, hdescribes⟩, validate_eq_ok_iff.2 hvalid, Except.map]

theorem ofFile_eq_ok_iff {path : String} (hthere : (files path).isThere = true) :
    ofFile files path = .ok c ↔ Begins (files path) c := by
  rw [ofFile]
  constructor
  · intro h
    cases htext : (files path).text with
    | error fault =>
      rw [htext] at h
      cases h
    | ok text =>
      rw [htext] at h
      obtain ⟨members, hparse, hdescribes, hvalid⟩ := ofText_eq_ok_iff.1 h
      have htext? := Place.text_eq_ok_iff.1 htext
      exact .file (Place.document?_eq_some_iff.2 ⟨text, htext?, hparse⟩) hdescribes hvalid
  · rintro (⟨hdocument, hdescribes, hvalid⟩ | ⟨hmissing, -⟩)
    · obtain ⟨text, htext, hparse⟩ := Place.document?_eq_some_iff.1 hdocument
      rw [Place.text_eq_ok_iff.2 htext]
      exact ofText_eq_ok_iff.2 ⟨_, hparse, hdescribes, hvalid⟩
    · cases hmissing.symm.trans hthere

/-! ### The override -/

/-- The override takes one configuration to another, which is valid. -/
inductive Settles (env : Environment) (c c' : Config) : Prop
  | unset : variableText? env.expiryMinutes = none → c' = c → c'.IsValid → Settles env c c'
  | set {text : String} {minutes : Int64} : variableText? env.expiryMinutes = some text →
      Text.Denotes text minutes.toInt → c' = { c with minutes } → c'.IsValid → Settles env c c'

/-- The override leaves a valid configuration with the same providers, and with the minutes of the
environment if it sets any. -/
private theorem Settles.spec (h : Settles env c c') : c'.IsValid ∧
    c'.providers = c.providers ∧ c'.minutes = env.minutes?.getD c.minutes := by
  cases h with
  | unset htext hc hvalid =>
    rw [Environment.minutes?, htext]
    exact ⟨hvalid, congrArg providers hc, congrArg minutes hc⟩
  | set htext hdenotes hc hvalid =>
    rw [minutes?_eq_some_iff.2 ⟨_, htext, hdenotes⟩, hc]
    exact ⟨hc ▸ hvalid, rfl, rfl⟩

/-- The override of the environment is no number of sixty-four bits. -/
def NoNumber (env : Environment) : Prop :=
  ∃ text, variableText? env.expiryMinutes = some text ∧
    ∀ minutes : Int64, ¬ Text.Denotes text minutes.toInt

/-- The override takes a configuration to one that is not valid. -/
def Spoils (env : Environment) (c : Config) : Prop :=
  ∃ text, ∃ minutes : Int64, variableText? env.expiryMinutes = some text ∧
    Text.Denotes text minutes.toInt ∧ ¬ { c with minutes }.IsValid

/-- What the override does to a valid configuration: it is no number, it spoils the configuration,
or it settles it. -/
theorem not_settles_iff (h : c.IsValid) :
    (¬ ∃ c', Settles env c c') ↔ NoNumber env ∨ Spoils env c := by
  constructor
  · intro hnone
    cases htext : variableText? env.expiryMinutes with
    | none => exact absurd ⟨c, .unset htext rfl h⟩ hnone
    | some text =>
      by_cases hnumber : ∃ minutes : Int64, Text.Denotes text minutes.toInt
      · obtain ⟨minutes, hdenotes⟩ := hnumber
        refine .inr ⟨text, minutes, htext, hdenotes, fun hvalid => ?_⟩
        exact hnone ⟨_, .set htext hdenotes rfl hvalid⟩
      · exact .inl ⟨text, htext, fun minutes hdenotes => hnumber ⟨minutes, hdenotes⟩⟩
  · rintro (⟨text, htext, hnone⟩ | ⟨text, minutes, htext, hdenotes, hinvalid⟩) ⟨c', hsettles⟩
    · cases hsettles with
      | unset hunset _ _ => cases hunset.symm.trans htext
      | set htext' hdenotes _ _ =>
        cases htext.symm.trans htext'
        exact hnone _ hdenotes
    · cases hsettles with
      | unset hunset _ _ => cases hunset.symm.trans htext
      | set htext' hdenotes' hc hvalid =>
        cases htext.symm.trans htext'
        obtain rfl := Int64.toInt_inj.1 (hdenotes.unique hdenotes')
        exact hinvalid (hc ▸ hvalid)

theorem overridden_eq_ok_iff : c.overridden env = .ok c' ↔ Settles env c c' := by
  rw [overridden, override]
  constructor
  · intro h
    split at h
    · rename_i c₁ heq
      cases h
      split at heq
      · rename_i htext
        obtain ⟨hvalid, rfl⟩ := Prod.mk.inj heq
        exact .unset htext rfl (validate_eq_ok_iff.1 hvalid)
      · rename_i text htext
        split at heq
        · cases heq
        · rename_i minutes hnumber
          obtain ⟨hvalid, rfl⟩ := Prod.mk.inj heq
          exact .set htext (minutesOfText?_eq_some_iff.1 hnumber) rfl
            (validate_eq_ok_iff.1 hvalid)
    · cases h
  · rintro (⟨htext, rfl, hvalid⟩ | ⟨htext, hdenotes, rfl, hvalid⟩)
    · simp only [htext, validate_eq_ok_iff.2 hvalid]
    · simp only [htext, minutesOfText?_eq_some_iff.2 hdenotes, validate_eq_ok_iff.2 hvalid]

/-- **What is loaded**: that which the override makes of the configuration at the path. -/
theorem load_eq_ok_iff :
    load files env = .ok c' ↔ ∃ c, Begins (files (path env)) c ∧ Settles env c c' := by
  rw [load]
  cases hthere : (files (path env)).isThere with
  | false =>
    rw [if_neg Bool.false_ne_true, overridden_eq_ok_iff]
    constructor
    · exact fun h => ⟨_, .standard hthere rfl, h⟩
    · rintro ⟨c, hbegins, hsettles⟩
      rwa [hbegins.eq (.standard hthere rfl)]
  | true =>
    rw [if_pos rfl, ofFileOverridden]
    simp only [← ofFile_eq_ok_iff hthere, ← overridden_eq_ok_iff]
    cases ofFile files (path env) with
    | error fault => simp
    | ok c => simp

/-- What the environment has overridden is valid. -/
theorem validate_of_overridden (h : c.overridden env = .ok c') : c'.validate = .ok () :=
  validate_eq_ok_iff.2 (overridden_eq_ok_iff.1 h).spec.1

theorem validate_of_load (h : load files env = .ok c) : c.validate = .ok () := by
  obtain ⟨c₀, -, hsettles⟩ := load_eq_ok_iff.1 h
  exact validate_eq_ok_iff.2 hsettles.spec.1

/-- **What is not loaded**: what is of no use, and what an override makes invalid. An override that
is no number makes all fail. -/
theorem load_fails_iff : (∃ fault, load files env = .error fault) ↔
    Unusable (files (path env)) ∨ NoNumber env ∨
      ∃ c, Begins (files (path env)) c ∧ Spoils env c := by
  have hfails : (∃ fault, load files env = .error fault) ↔ ¬ ∃ c', load files env = .ok c' := by
    cases load files env <;> simp
  rw [hfails, unusable_iff]
  simp only [load_eq_ok_iff]
  -- either the one configuration to begin with is not settled, or there is none and the place is
  -- of no use, whatever the override
  by_cases hbegins : ∃ c, Begins (files (path env)) c
  · obtain ⟨c, hc⟩ := hbegins
    have honly : ∀ c₁, Begins (files (path env)) c₁ ↔ c₁ = c :=
      fun c₁ => ⟨hc.eq, fun h => h ▸ hc⟩
    simp only [honly, exists_eq_left, not_settles_iff hc.isValid]
    simp
  · have hnone : ∀ c, ¬ Begins (files (path env)) c := fun c hc => hbegins ⟨c, hc⟩
    simp [hnone]

/-- An override does not mend a file. -/
example : load (fun _ => .file "access_token_valid_minutes = 0".toUTF8)
    { expiryMinutes := some "5".toUTF8 } matches .error .minutesNotPositive := by decide +kernel

private theorem load_congr {env' : Environment}
    (hpath : variableText? env.configPath = variableText? env'.configPath)
    (hminutes : variableText? env.expiryMinutes = variableText? env'.expiryMinutes) :
    load files env = load files env' := by
  have hsource : path env = path env' := by rw [path, path, hpath]
  have hoverride : ∀ c : Config, c.overridden env = c.overridden env' := by
    intro c
    rw [overridden, overridden, override, override, hminutes]
  simp only [load, hsource, ofFileOverridden, hoverride]

/-! ### The path of the command line -/

/-- The environment with the path of a configuration file. -/
def withPath (env : Environment) (p : String) : Environment :=
  { env with configPath := some p.toUTF8 }

private theorem path_withPath (p : String) : path (withPath env p) = p := by
  rw [path, withPath, variableText?_toUTF8, Option.getD_some]

/-- A file that is there is loaded by its path. -/
private theorem load_withPath {p : String} (h : (files p).isThere = true) :
    load files (withPath env p) = ofFileOverridden files env p := by
  rw [load, path_withPath, if_pos h]
  rfl

private theorem load_withPath_of_missing {p : String} (h : (files p).isThere = false) :
    load files (withPath env p) = overridden env {} := by
  rw [load, path_withPath, h, if_neg Bool.false_ne_true]
  rfl

/-- Where nothing is, there is no file to read. -/
private theorem ofFileOverridden_of_missing {p : String} (h : (files p).isThere = false) :
    ∃ fault, ofFileOverridden files env p = .error (.unreadable p fault) := by
  rw [ofFileOverridden, ofFile]
  cases hplace : files p with
  | missing | notADirectory | nameTooLong | nameWithNul | barred _ => exact ⟨_, rfl⟩
  | directory | file _ | closed _ =>
    rw [hplace] at h
    cases h

/-! ### All sources together -/

/-- How files, the environment and the command line make a configuration. What a document says about
it is stated by what its tables describe, and not by the functions that take a configuration from
them. -/
structure Resolves (files : Files) (env : Environment) : Prop where
  /-- The file is that of the environment, or the standard one. -/
  source : path env = (env.configPath.bind String.fromUTF8?).getD "auth.toml"
  /-- What is loaded is valid, and passes the check. -/
  valid : ∀ c, load files env = .ok c → c.IsValid ∧ c.validate = .ok ()
  /-- Its providers are those that the file describes. -/
  providers : ∀ c, load files env = .ok c → (files (path env)).isThere = true →
    ∃ members, (files (path env)).document? = some members ∧
      DescribesProviders members c.providers
  /-- Without a file there are none. -/
  noProviders : ∀ c, load files env = .ok c → (files (path env)).isThere = false →
    c.providers = []
  /-- Its minutes are those of the environment, or else of the file, or else thirty. -/
  minutes : ∀ c, load files env = .ok c →
    c.minutes = (env.minutes?.or (files (path env)).minutes?).getD 30
  /-- The minutes of the environment are the integer that its text denotes. -/
  overriding : ∀ minutes : Int64, env.minutes? = some minutes ↔
    ∃ text, env.expiryMinutes.bind String.fromUTF8? = some text ∧
      Text.Denotes text minutes.toInt
  /-- Loading fails if what is there is of no use, whatever the override, and if the override is
  no number or leaves what is not valid. -/
  fails : (∃ fault, load files env = .error fault) ↔ Unusable (files (path env)) ∨
    NoNumber env ∨ ∃ c, Begins (files (path env)) c ∧ Spoils env c
  /-- A variable that is not UTF-8 counts as unset. -/
  notUtf8 : ∀ bytes, String.fromUTF8? bytes = none →
    load files { env with configPath := some bytes }
        = load files { env with configPath := none } ∧
      load files { env with expiryMinutes := some bytes }
        = load files { env with expiryMinutes := none }
  /-- Without a path of its own, a command works with what is loaded. -/
  command : ∀ c : Command, c.configPath = none → c.config files env = load files env
  /-- The path of a command makes the same as this path in the environment, if anything is there. -/
  commandPath : ∀ c : Command, ∀ p, c.configPath = some p → (files p).isThere = true →
    c.config files env = load files (withPath env p) ∧
      ∀ supply, c.execute files env supply
        = { c with configPath := none }.execute files (withPath env p) supply
  /-- Where nothing is, the command fails, but the defaults are loaded. -/
  commandPathMissing : ∀ c : Command, ∀ p, c.configPath = some p → (files p).isThere = false →
    (∃ fault, c.config files env = .error (.unreadable p fault) ∧ ∀ supply,
      c.execute files env supply
        = (.error (.service (.invalidConfig (.unreadable p fault))), {})) ∧
    load files (withPath env p) = overridden env {}

/-- **Sources have one precedence**, in the environment and on the command line: minutes of the
environment before those of the file, the file before the defaults, and the path of a command before
that of the environment. A source that is there and cannot be used is a failure, and no source takes
the place of it. -/
theorem resolves (files : Files) (env : Environment) : Resolves files env := by
  constructor
  case source => rfl
  case valid =>
    intro c h
    have hvalid := validate_of_load h
    exact ⟨validate_eq_ok_iff.1 hvalid, hvalid⟩
  case providers =>
    intro c' h hthere
    obtain ⟨c, hbegins, hsettles⟩ := load_eq_ok_iff.1 h
    rw [hsettles.spec.2.1]
    exact hbegins.describesProviders hthere
  case noProviders =>
    intro c' h hmissing
    obtain ⟨c, hbegins, hsettles⟩ := load_eq_ok_iff.1 h
    rw [hsettles.spec.2.1]
    exact hbegins.providers_eq_nil hmissing
  case minutes =>
    intro c' h
    obtain ⟨c, hbegins, hsettles⟩ := load_eq_ok_iff.1 h
    rw [hsettles.spec.2.2, hbegins.minutes_eq]
    cases env.minutes? <;> rfl
  case overriding => exact fun minutes => minutes?_eq_some_iff
  case fails => exact load_fails_iff
  case notUtf8 =>
    intro bytes h
    exact ⟨load_congr h rfl, load_congr rfl h⟩
  case command =>
    intro c h
    rw [Command.config, h]
  case commandPath =>
    intro c p hpath hthere
    have hconfig : c.config files env = load files (withPath env p) := by
      rw [Command.config, hpath, load_withPath hthere]
    refine ⟨hconfig, fun supply => ?_⟩
    rw [Command.execute, Command.execute, hconfig]
    rfl
  case commandPathMissing =>
    intro c p hpath hmissing
    obtain ⟨fault, hfault⟩ : ∃ fault, ofFileOverridden files env p = .error (.unreadable p fault) :=
      ofFileOverridden_of_missing hmissing
    have hconfig : c.config files env = .error (.unreadable p fault) := by
      rw [Command.config, hpath]
      exact hfault
    refine ⟨⟨fault, hconfig, fun supply => ?_⟩, load_withPath_of_missing hmissing⟩
    rw [Command.execute, hconfig]

/-- The type, the name and the id of each provider, and the keys of its own settings. -/
def outline (ps : List ProviderConfig) :
    List (String × Option String × Option String × List String) :=
  ps.map fun p => (p.kind, p.name, p.id, Table.keys p.extra)

/-- A file with two providers, whose minutes the environment overrides. -/
def stall : Files := fun path =>
  if path = "auth.toml" then
    .file ("access_token_valid_minutes = 45\n[[providers]]\ntype = \"demo\"\nname = \"Demo\"\n"
      ++ "[[providers]]\ntype = \"demo\"\nid = \"2\"\nusers = []\n").toUTF8
  else .missing

/-- It is the providers of the file that are loaded, in their order, with the minutes of the
environment. -/
theorem resolves_stall :
    let env : Environment := { expiryMinutes := some " 10\n".toUTF8 }
    Resolves stall env ∧ ∃ c, load stall env = .ok c ∧ c.minutes = 10 ∧
      outline c.providers
        = [("demo", some "Demo", none, []), ("demo", none, some "2", ["users"])] := by
  intro env
  have h : Resolves stall env := resolves stall env
  have hloads : (load stall env).isOk = true := by decide +kernel
  obtain ⟨c, hload⟩ : ∃ c, load stall env = .ok c := by
    cases hload : load stall env with
    | ok c => exact ⟨c, rfl⟩
    | error fault =>
      rw [hload] at hloads
      cases hloads
  have henv : env.minutes? = some 10 := by decide +kernel
  have hplace : (stall (path env)).isThere = true := by decide +kernel
  obtain ⟨members, hdocument, hproviders⟩ := h.providers c hload hplace
  have hread := (tomlProviders?_eq_some_iff (Place.tidy_of_document? hdocument)).2 hproviders
  have houtline : ((stall (path env)).document?.bind tomlProviders?).map outline
      = some [("demo", some "Demo", none, []), ("demo", none, some "2", ["users"])] := by
    decide +kernel
  rw [hdocument, Option.bind_some, hread] at houtline
  exact ⟨h, c, hload, by rw [h.minutes c hload, henv]; rfl, Option.some.inj houtline⟩

end Config

end SignIn
