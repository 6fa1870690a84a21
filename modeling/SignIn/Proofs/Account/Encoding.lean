import SignIn.Account.Directory
import SignIn.Proofs.Json.Records
import SignIn.Proofs.Json.Text
import SignIn.Proofs.Time.Timestamp

/-!
# What is saved is what was there

A directory is saved as JSON and read back when a store is opened again. Every record in it is
read field by field from the object that it was written as (`Fields.Reads`), so that each of them
comes back as it was: an optional field is there or not as before, credentials keep whatever data
the provider has put into them, and a token has its instants to the nanosecond.

`Directory.ofJson_toJson` puts this together. It asks of the instants only that they can be
written (`Instant.IsWritable`), which all can that are in no leap second. The text of a directory is
another matter, as it has to hold the data of the credentials: `Directory.parse?_render`.
-/

namespace SignIn

/-! ### Times -/

theorem Instant.ofJson_toJson {t : Instant} (h : t.IsWritable) : ofJson t.toJson = .ok t := by
  rw [toJson, ofJson, Timestamp.parse?_render h]

private theorem Instant.nullable_ofJson {t : Option Instant} (h : ∀ u ∈ t, u.IsWritable) :
    Decode.nullable ofJson (t.elim .null toJson) = .ok t := by
  cases t with
  | none => rfl
  | some u =>
    rw [Option.elim_some, Decode.nullable_of_ne (by rw [toJson]; exact nofun),
      ofJson_toJson (h u rfl), Except.map]

theorem Span.ofJson_toJson (s : Span) : ofJson s.toJson = .ok s := by
  have hsize := s.natAbs_le
  have hseconds : (Int64.ofInt s.seconds).toInt = s.seconds :=
    Int64.toInt_ofInt_of_le (by omega) (by omega)
  have hread : Decode.integer s.toJson = .ok (Int64.ofInt s.seconds) := by
    rw [toJson, Json.ofInt, Decode.integer, if_pos (by omega)]
  simp only [ofJson, bind, Except.bind, hread, hseconds, ofSeconds?_seconds]

/-! ### Records -/

/-- A token whose instants can be written. -/
structure Token.IsWritable (t : Token) : Prop where
  createdAt : t.createdAt.IsWritable
  lastRefreshed : ∀ u ∈ t.lastRefreshed, u.IsWritable

instance (t : Token) : Decidable t.IsWritable :=
  decidable_of_iff (t.createdAt.IsWritable ∧ ∀ u ∈ t.lastRefreshed, u.IsWritable)
    ⟨fun h => ⟨h.1, h.2⟩, fun h => ⟨h.createdAt, h.lastRefreshed⟩⟩

theorem Token.ofJson_toJson {t : Token} (h : t.IsWritable) : ofJson t.toJson = .ok t := by
  obtain ⟨userId, clientId, id, createdAt, lastRefreshed, validity⟩ := t
  refine Fields.Reads.decode ?_
  -- field by field, the last one first
  refine .entry (by simp) (Span.ofJson_toJson validity) ?_
  refine .entry (by simp) (Instant.nullable_ofJson h.lastRefreshed) ?_
  refine .entry (by simp) (Instant.ofJson_toJson h.createdAt) ?_
  refine .entry (by simp) (Decode.text_text id) ?_
  refine .entry (by simp) (Decode.text_text clientId) ?_
  refine .entry (by simp) (Decode.text_text userId) ?_
  exact .start (by simp [Table.keys])

theorem Credentials.ofJson_toJson (c : Credentials) : ofJson c.toJson = .ok c := by
  obtain ⟨providerKind, providerId, data, id, isNew⟩ := c
  refine Fields.Reads.decode ?_
  refine .entry (by simp) (Decode.bool_bool isNew) ?_
  refine .entry (by simp) (Decode.text_text id) ?_
  refine .entry (by simp) (Decode.any_eq data) ?_
  refine .entry (by simp) (Decode.nullable_ofOption providerId) ?_
  refine .entry (by simp) (Decode.text_text providerKind) ?_
  exact .start (by simp [Table.keys])

theorem Client.ofJson_toJson (c : Client) : ofJson c.toJson = .ok c := by
  obtain ⟨name, id, secret⟩ := c
  refine Fields.Reads.decode ?_
  refine .entry (by simp) (Decode.text_text secret) ?_
  refine .entry (by simp) (Decode.text_text id) ?_
  refine .entry (by simp) (Decode.text_text name) ?_
  exact .start (by simp [Table.keys])

theorem User.ofJson_toJson {u : User} (h : ∀ t ∈ u.tokens, t.IsWritable) :
    ofJson u.toJson = .ok u := by
  obtain ⟨id, isOwner, isActive, name, credentials, tokens⟩ := u
  have hcredentials := Decode.list_map fun c (_ : c ∈ credentials) => c.ofJson_toJson
  have htokens := Decode.list_map fun t ht => Token.ofJson_toJson (h t ht)
  refine Fields.Reads.decode ?_
  refine .entry (by simp) htokens ?_
  refine .entry (by simp) hcredentials ?_
  refine .entry (by simp) (Decode.nullable_ofOption name) ?_
  refine .entry (by simp) (Decode.bool_bool isActive) ?_
  refine .entry (by simp) (Decode.bool_bool isOwner) ?_
  refine .entry (by simp) (Decode.text_text id) ?_
  exact .start (by simp [Table.keys])

/-! ### Texts -/

theorem Token.fits_toJson (t : Token) {depth : Nat} : Json.Fits (depth + 1) t.toJson := by
  have hsize := t.validity.natAbs_le
  have hvalidity : Json.Fits depth t.validity.toJson := .integer (by omega) (by omega)
  have hlast : Json.Fits depth (t.lastRefreshed.elim .null Instant.toJson) := by
    cases t.lastRefreshed with
    | none => exact .null
    | some u => exact .text _
  exact .record (by simp [Instant.toJson, Json.Fits.text, hlast, hvalidity])

theorem Credentials.fits_toJson {c : Credentials} {depth : Nat} (h : Json.Fits depth c.data) :
    Json.Fits (depth + 1) c.toJson :=
  .record (by simp [Json.Fits.text, Json.Fits.bool, Json.Fits.ofOption, h])

theorem Client.fits_toJson (c : Client) {depth : Nat} : Json.Fits (depth + 1) c.toJson :=
  .record (by simp [Json.Fits.text])

theorem User.fits_toJson {u : User} {depth : Nat}
    (h : ∀ c ∈ u.credentials, Json.Fits depth c.data) : Json.Fits (depth + 3) u.toJson := by
  have hcredentials : Json.Fits (depth + 2) (.array (u.credentials.map Credentials.toJson)) :=
    .map fun c hc => Credentials.fits_toJson (h c hc)
  have htokens : Json.Fits (depth + 2) (.array (u.tokens.map Token.toJson)) :=
    .map fun t _ => t.fits_toJson
  exact .record (by
    simp [Json.Fits.text, Json.Fits.bool, Json.Fits.ofOption, hcredentials, htokens])

/-! ### The directory -/

namespace Directory

/-- A directory all of whose tokens can be written. -/
def IsWritable (d : Directory) : Prop := ∀ u ∈ d.users, ∀ t ∈ u.tokens, t.IsWritable

instance (d : Directory) : Decidable d.IsWritable :=
  inferInstanceAs (Decidable (∀ u ∈ d.users, ∀ t ∈ u.tokens, t.IsWritable))

/-- A directory is read back as it was. -/
theorem ofJson_toJson {d : Directory} (h : d.IsWritable) : ofJson d.toJson = .ok d := by
  obtain ⟨users, clients⟩ := d
  have husers := Decode.list_map fun u hu => User.ofJson_toJson (h u hu)
  have hclients := Decode.list_map fun c (_ : c ∈ clients) => c.ofJson_toJson
  refine Fields.Reads.decode ?_
  refine .entry (by simp) hclients ?_
  refine .entry (by simp) husers ?_
  exact .start (by simp [Table.keys])

/-- When the tokens of a directory expire, user by user. -/
def expiries (d : Directory) : List (List (Option Instant)) :=
  d.users.map fun u => u.tokens.map Token.expiresAt?

/-- The text of a directory holds it, if the data of the credentials fit a text. -/
theorem parse?_render {d : Directory}
    (h : ∀ u ∈ d.users, ∀ c ∈ u.credentials, Json.Fits 122 c.data) :
    Json.parse? d.toJson.render = some d.toJson := by
  have husers : Json.Fits 126 (.array (d.users.map User.toJson)) :=
    .map fun u hu => User.fits_toJson (h u hu)
  have hclients : Json.Fits 126 (.array (d.clients.map Client.toJson)) :=
    .map fun c _ => c.fits_toJson
  exact Json.parse?_render (.record (by simp [husers, hclients]))

/-- **What is saved is what was there.** A directory is read back from its JSON as it was: with
the same users, credentials, tokens and clients in the same order. Directories that are read alike
were written alike and are the same, and no token expires at another moment than before. The same
holds of the text, for data that fit one. -/
theorem survives_saving {d : Directory} (h : d.IsWritable) :
    ofJson d.toJson = .ok d ∧
      (∀ e : Directory, e.IsWritable → ofJson e.toJson = ofJson d.toJson →
        e.toJson = d.toJson ∧ e = d) ∧
      (ofJson d.toJson).map expiries = .ok d.expiries ∧
      ((∀ u ∈ d.users, ∀ c ∈ u.credentials, Json.Fits 122 c.data) →
        (Json.parse? d.toJson.render).map ofJson = some (.ok d)) := by
  refine ⟨ofJson_toJson h, fun e he halike => ?_, ?_, fun hdata => ?_⟩
  · rw [ofJson_toJson he, ofJson_toJson h] at halike
    have heq : e = d := Except.ok.inj halike
    exact ⟨congrArg toJson heq, heq⟩
  · rw [ofJson_toJson h, Except.map]
  · rw [parse?_render hdata, Option.map_some, ofJson_toJson h]

/-- A user whose credentials hold a `null` and an empty object, and who has a token that was created
in the year -1 and refreshed in the year 10000. -/
theorem survives_saving_household :
    let kept : Credentials := ⟨"insecure_example", some "", .record
      [("username", .text "ann"), ("seen", .array [.null, .record []])], "c", false⟩
    let created : Instant := ⟨-62198755200, 999999999, by decide, by decide, by decide⟩
    let refreshed : Instant := ⟨253402300800, 1000, by decide, by decide, by decide⟩
    let token : Token := ⟨"u", "app", "t", created, some refreshed, ⟨-1800, by decide⟩⟩
    let d : Directory :=
      ⟨[⟨"u", true, false, none, [kept], [token]⟩], [⟨"App", "app", "secret"⟩]⟩
    d.IsWritable ∧ ofJson d.toJson = .ok d ∧ (ofJson d.toJson).map expiries = .ok d.expiries ∧
      (Json.parse? d.toJson.render).map ofJson = some (.ok d) := by
  intro kept created refreshed token d
  obtain ⟨hback, -, hexpiries, htext⟩ := survives_saving (d := d) (by decide)
  refine ⟨by decide, hback, hexpiries, htext fun u hu c hc => ?_⟩
  obtain rfl := List.mem_singleton.1 hu
  obtain rfl := List.mem_singleton.1 hc
  have hnobody : Json.Fits 120 (.record []) := .record (List.forall_mem_nil _)
  have hseen : Json.Fits 121 (.array [.null, .record []]) :=
    .array (by simp [Json.Fits.null, hnobody])
  exact .record (by simp [Json.Fits.text, hseen])

end Directory

end SignIn
