import SignIn.Provider.PasswordList

/-!
# What the password form tells

The form of a list of passwords takes a JSON value of any shape. What it says under a key is the
text there, and the empty text where there is none (`Json.textAt_eq_iff`). The answer is an entry
or a refusal, as the list recognizes who is at the form or not (`PasswordList.answer_eq`).

As long as digests do not collide, those are recognized whose password is that of the first entry
with their username (`PasswordList.Admits`). All others get one and the same form: neither the list
nor what was submitted, now or before, can be told from a refusal.
-/

namespace SignIn

/-- What a value says under a key: the text of its member, and nothing where there is no text. -/
def Json.textAt (json : Json) (key : String) : String := (json.textMember? key).getD ""

/-- A value says a text if it is an object with the text under the key. Any other value, and an
object with anything else there, says nothing. -/
theorem Json.textAt_eq_iff {json : Json} {key s : String} : json.textAt key = s ↔
    json.member? key = some (.text s) ∨ s = "" ∧ ∀ t, json.member? key ≠ some (.text t) := by
  have hmember : ∀ t, json.textMember? key = some t ↔ json.member? key = some (.text t) := by
    intro t
    rw [textMember?]
    split
    · rename_i s' hs
      simp [hs]
    · rename_i hnone
      exact ⟨fun h => (nomatch h), fun h => absurd h (hnone t)⟩
  rw [textAt]
  cases htext : json.textMember? key with
  | some t =>
    have ht := (hmember t).1 htext
    simp [ht]
  | none =>
    have hnone : ∀ t, json.member? key ≠ some (.text t) := by
      intro t ht
      rw [(hmember t).2 ht] at htext
      cases htext
    simp [hnone, eq_comm]

namespace PasswordList

variable {users : PasswordList} {username password : String}

/-! ### Who is recognized -/

/-- Whether the entry that counts for the username has a password with the same digest. -/
def recognizes (users : PasswordList) (username password : String) : Bool :=
  (users.entry? username).any fun entry => sameDigestText entry.password password

/-- The first entry for the username has the password. -/
def Admits (users : PasswordList) (username password : String) : Prop :=
  ∃ before entry after, users = before ++ entry :: after ∧
    (∀ e ∈ before, e.username ≠ username) ∧ entry.username = username ∧ entry.password = password

/-- The password does not collide with that of the entry that counts for the username. -/
def Collisionless (users : PasswordList) (username password : String) : Prop :=
  ∀ entry, users.entry? username = some entry →
    Sha256.TellsApart (utf8 entry.password) (utf8 password)

/-- The entry that counts for a username is the first one. -/
theorem entry?_eq_some_iff {entry : PasswordEntry} :
    users.entry? username = some entry ↔ ∃ before after, users = before ++ entry :: after ∧
      (∀ e ∈ before, e.username ≠ username) ∧ entry.username = username := by
  rw [PasswordList.entry?, List.find?_eq_some_iff_append, beq_iff_eq]
  constructor
  · rintro ⟨hname, before, after, heq, hbefore⟩
    exact ⟨before, after, heq, fun e he => by simpa using hbefore e he, hname⟩
  · rintro ⟨before, after, heq, hbefore, hname⟩
    exact ⟨hname, before, after, heq, fun e he => by simpa using hbefore e he⟩

theorem recognizes_iff (h : users.Collisionless username password) :
    users.recognizes username password = true ↔ users.Admits username password := by
  rw [recognizes, Option.any_eq_true]
  constructor
  · rintro ⟨entry, hentry, hsame⟩
    have hpassword := (sameDigestText_iff (h entry hentry)).1 hsame
    obtain ⟨before, after, heq, hbefore, hname⟩ := entry?_eq_some_iff.1 hentry
    exact ⟨before, entry, after, heq, hbefore, hname, hpassword⟩
  · rintro ⟨before, entry, after, heq, hbefore, hname, hpassword⟩
    have hentry := entry?_eq_some_iff.2 ⟨before, after, heq, hbefore, hname⟩
    exact ⟨entry, hentry, (sameDigestText_iff (h entry hentry)).2 hpassword⟩

/-! ### Answers -/

/-- A check that fails for those who are not recognized fails as a login attempt. -/
private theorem check_eq (users : PasswordList) (username password : String) :
    users.check username password = if users.recognizes username password then .ok ()
      else .error (if (users.entry? username).isSome then .invalidPassword else .invalidUser) := by
  rw [check, recognizes]
  cases users.entry? username with
  | none => rfl
  | some entry => rfl

/-- The form is answered with an entry or with the refusal. -/
theorem answer_eq (users : PasswordList) (input : Json) :
    users.answer input = .ok (
      if users.recognizes (input.textAt "username") (input.textAt "password") then
        .createEntry (loginData (input.textAt "username"))
      else refusal) := by
  have hcheck := users.check_eq (input.textAt "username") (input.textAt "password")
  rw [Json.textAt, Json.textAt] at hcheck ⊢
  cases hknown : users.recognizes _ _ with
  | true =>
    rw [hknown, if_pos rfl] at hcheck
    simp only [answer, hcheck, if_true]
  | false =>
    rw [hknown, if_neg Bool.false_ne_true] at hcheck
    simp only [answer, hcheck]
    cases (users.entry? ((input.textMember? "username").getD "")).isSome <;> rfl

/-- A submission is refused if it is not answered with an entry. -/
def Refuses (users : PasswordList) (earlier : List Submission) (input : Json) : Prop :=
  ∀ data, users.flow.respond earlier ⟨"init", some input⟩ ≠ .ok (.createEntry data)

private theorem Refuses.respond_eq {earlier : List Submission} {input : Json}
    (h : users.Refuses earlier input) :
    users.flow.respond earlier ⟨"init", some input⟩
      = .ok (.form "init" [("base", "invalid_auth")]) := by
  have hanswer : users.flow.respond earlier ⟨"init", some input⟩ = _ := users.answer_eq input
  rw [hanswer]
  split
  · rename_i hknown
    rw [if_pos hknown] at hanswer
    exact absurd hanswer (h _)
  · rfl

/-- What the form of a list of passwords answers, after the submissions of the past. Whoever submits
something learns whether the password is right, and not what was wrong if it is not. -/
structure Discreet (users : PasswordList) (earlier : List Submission) : Prop where
  /-- An entry is created with the username, for those who are admitted and for nobody else. -/
  entry : ∀ input data, users.Collisionless (input.textAt "username") (input.textAt "password") →
    (users.flow.respond earlier ⟨"init", some input⟩ = .ok (.createEntry data) ↔
      data = .record [("username", .text (input.textAt "username"))] ∧
        users.Admits (input.textAt "username") (input.textAt "password"))
  /-- Those who are not admitted are refused by the form with one error. -/
  refusal : ∀ input, users.Collisionless (input.textAt "username") (input.textAt "password") →
    ¬ users.Admits (input.textAt "username") (input.textAt "password") →
    users.flow.respond earlier ⟨"init", some input⟩
      = .ok (.form "init" [("base", "invalid_auth")])
  /-- The form has an answer to everything. -/
  total : ∀ input, ∃ step, users.flow.respond earlier ⟨"init", input⟩ = .ok step
  /-- Without input the form is shown as it is. -/
  blank : users.flow.respond earlier ⟨"init", none⟩ = .ok (.form "init" [])
  /-- There is no other step. -/
  unknown : ∀ stepId input, stepId ≠ "init" →
    users.flow.respond earlier ⟨stepId, input⟩ = .error (.flow ("unknown step: " ++ stepId))

theorem discreet (users : PasswordList) (earlier : List Submission) : users.Discreet earlier := by
  have hsubmit : ∀ input : Json, users.flow.respond earlier ⟨"init", some input⟩ = _ :=
    fun input => users.answer_eq input
  constructor
  case entry =>
    intro input data h
    rw [← recognizes_iff h, hsubmit]
    cases users.recognizes (input.textAt "username") (input.textAt "password") with
    | true => simp [loginData, eq_comm]
    | false => simp [refusal]
  case refusal =>
    intro input h hrefused
    rw [← recognizes_iff h] at hrefused
    rw [hsubmit, if_neg hrefused]
    rfl
  case total =>
    intro input
    cases input with
    | none => exact ⟨_, rfl⟩
    | some input => exact ⟨_, hsubmit input⟩
  case blank => rfl
  case unknown =>
    intro stepId input h
    exact if_pos h

/-- **A refusal tells nothing.** The form of a list of passwords lets in those whose password is
that of the first entry for their username, and gives all others the same answer, whichever the
list, the input and the submissions of the past are. -/
theorem admits_or_refuses_alike :
    (∀ (users : PasswordList) (earlier : List Submission), users.Discreet earlier) ∧
      ∀ (users users' : PasswordList) (earlier earlier' : List Submission) (input input' : Json),
        users.Refuses earlier input → users'.Refuses earlier' input' →
        users.flow.respond earlier ⟨"init", some input⟩
          = users'.flow.respond earlier' ⟨"init", some input'⟩ :=
  ⟨discreet, fun _ _ _ _ _ _ h h' => h.respond_eq.trans h'.respond_eq.symm⟩

/-- A list with two entries for one username, and one for the empty username. -/
def household : PasswordList := [⟨"ann", "one", none⟩, ⟨"ann", "two", none⟩, ⟨"", "", none⟩]

/-- A form filled in with the password of the second entry. -/
def secondPassword : Json := .record [("username", .text "ann"), ("password", .text "two")]

/-- The first entry for a username counts; a submission that is no object is one with empty texts;
and an unknown username is refused elsewhere as the second password is here. -/
theorem admits_or_refuses_alike_household :
    household.Collisionless "ann" "two" ∧ ¬ household.Admits "ann" "two" ∧
      household.Collisionless "" "" ∧ household.Admits "" "" ∧
      household.flow.respond [] ⟨"init", some .null⟩
        = .ok (.createEntry (.record [("username", .text "")])) ∧
      household.Refuses [] secondPassword ∧ Refuses [] [] secondPassword ∧
      household.flow.respond [] ⟨"init", some secondPassword⟩
        = Flow.respond (flow []) [] ⟨"init", some secondPassword⟩ := by
  have hann : household.entry? "ann" = some ⟨"ann", "one", none⟩ := by decide
  have hempty : household.entry? "" = some ⟨"", "", none⟩ := by decide
  have htext : secondPassword.textAt "username" = "ann" ∧
      secondPassword.textAt "password" = "two" := by decide
  have happart : household.Collisionless "ann" "two" := by
    intro entry hentry
    rw [hann] at hentry
    cases hentry
    decide +kernel
  have hsame : household.Collisionless "" "" := by
    intro entry hentry
    rw [hempty] at hentry
    cases hentry
    exact fun _ => rfl
  have hunadmitted : ¬ household.Admits "ann" "two" := by
    rw [← recognizes_iff happart, recognizes, hann]
    decide +kernel
  have hadmitted : household.Admits "" "" := by
    rw [← recognizes_iff hsame, recognizes, hempty]
    decide +kernel
  obtain ⟨hform, halike⟩ := admits_or_refuses_alike
  have hentry := ((hform household []).entry .null _ hsame).2 ⟨rfl, hadmitted⟩
  have hrefused : household.Refuses [] secondPassword := by
    intro data hdata
    rw [(hform household []).entry, htext.1, htext.2] at hdata
    · exact hunadmitted hdata.2
    · rw [htext.1, htext.2]
      exact happart
  have hnobody : Refuses [] [] secondPassword := by
    intro data hdata
    rw [(hform [] []).entry] at hdata
    · obtain ⟨-, before, entry, after, heq, -⟩ := hdata
      simp at heq
    · rintro _ ⟨⟩
  exact ⟨happart, hunadmitted, hsame, hadmitted, hentry, hrefused, hnobody,
    halike _ _ _ _ _ _ hrefused hnobody⟩

end PasswordList

end SignIn
