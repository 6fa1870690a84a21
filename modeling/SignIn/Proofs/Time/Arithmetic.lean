import SignIn.Account.User
import SignIn.Proofs.Time.Calendar

/-!
# The arithmetic of expiry

A token that is valid for some time has a moment of expiry just if the second of its creation and
its span of validity together do not exceed the last second of all instants
(`Token.isSome_expiresAt?_issue_iff`). The part of a second does not matter, and neither does a leap
second, which the move to the moment of expiry passes in no time.

Outside of leap seconds an instant is a count of nanoseconds (`Instant.ofNanos?_eq_some_iff`), and
the order of instants is that of their counts (`Instant.le_iff_nanos_le`). A count belongs to an
instant if its day is of the years that instants lie in (`Instant.isDated_iff_isSome_ofNanos?`). So
the moment of expiry of a token is the sum of two counts, whenever the sum is a count of an instant
(`Token.expiresAt?_eq_some_iff`), and whether a token is expired is a comparison of two counts
(`Token.ExpiresExactly`).
-/

namespace SignIn

/-! ### Moments of expiry -/

namespace Instant

/-- The beginning of 1 January 1970, from which instants are counted. -/
def epoch : Instant := { second := 0, nano := 0 }

/-- Whether an instant lies in one of the years from one to another. -/
def LiesIn (first last : Int) (t : Instant) : Prop :=
  Date.days ⟨first, 1, 1⟩ * 86400 ≤ t.second ∧ t.second < Date.days ⟨last + 1, 1, 1⟩ * 86400

instance (first last : Int) (t : Instant) : Decidable (t.LiesIn first last) :=
  inferInstanceAs (Decidable (_ ∧ _))

/-- The years of four digits since the beginning of the count. -/
theorem liesIn_iff {t : Instant} : t.LiesIn 1970 9999 ↔ 0 ≤ t.second ∧ t.second ≤ 253402300799 := by
  have hfirst : Date.days ⟨1970, 1, 1⟩ = 0 := by decide
  have hlast : Date.days ⟨9999 + 1, 1, 1⟩ = 2932897 := by decide
  rw [LiesIn, hfirst, hlast]
  omega

/-- A count of nanoseconds belongs to an instant if its seconds lie within the bounds. -/
theorem isSome_ofNanos?_iff {n : Int} : (ofNanos? n).isSome = true ↔
    -8334601228800 ≤ n / 1000000000 ∧ n / 1000000000 ≤ 8210266876799 := by
  have hnano : (n % 1000000000).toNat < 2000000000 := by omega
  unfold ofNanos? ofParts? billion
  split
  · rename_i h
    exact ⟨fun _ => ⟨h.1, h.2.1⟩, fun _ => rfl⟩
  · rename_i h
    refine ⟨fun hsome => ?_, fun hbounds => ?_⟩
    · cases hsome
    · exact absurd ⟨hbounds.1, hbounds.2, hnano⟩ h

/-- An instant can be moved by a span into the future as far as the last second. -/
theorem isSome_shift?_iff {t : Instant} {s : Span} (hs : 0 < s.seconds) :
    (t.shift? s.nanos).isSome = true ↔ t.second + s.seconds ≤ 8210266876799 := by
  have hfirst := t.earliest_le
  have hnano := t.nano_lt
  have hwhole : (s.seconds * 1000000000).tdiv 1000000000 = s.seconds :=
    Int.mul_tdiv_cancel _ (by decide)
  unfold shift? Span.nanos nanos billion isLeap
  cases hleap : decide (1000000000 ≤ t.nano) with
  | true =>
    have hle : 1000000000 ≤ t.nano := of_decide_eq_true hleap
    simp only [if_true, hwhole, if_pos (Or.inl hs), isSome_ofNanos?_iff]
    omega
  | false =>
    have hlt : t.nano < 1000000000 := Nat.lt_of_not_le (of_decide_eq_false hleap)
    simp only [Bool.false_eq_true, if_false, isSome_ofNanos?_iff]
    omega

end Instant

namespace Token

/-- **When a token has a moment of expiry**, if it is valid for some time. -/
theorem isSome_expiresAt?_issue_iff {userId clientId tokenId : String} {now : Instant}
    {validity : Span} (h : 0 < validity.seconds) :
    (issue userId clientId tokenId now validity).expiresAt?.isSome = true ↔
      now.second + validity.seconds ≤ 8210266876799 :=
  Instant.isSome_shift?_iff h

/-- A token that has a moment of expiry can be compared with every instant. -/
theorem isExpired?_eq {t : Token} {expiry : Instant} (h : t.expiresAt? = some expiry)
    (now : Instant) : t.isExpired? now = some (decide (expiry ≤ now)) := by
  rw [isExpired?, h, Option.map_some]

end Token

/-! ### Counts and sums -/

namespace Instant

/-! ### Counts of nanoseconds -/

/-- The number of nanoseconds in a day. -/
def dayNanos : Int := 86400 * billion

/-- A count of nanoseconds since 1970 leads to a day of the years that instants lie in. -/
def IsDated (n : Int) : Prop :=
  -262143 ≤ (Date.ofDays (n / dayNanos)).year ∧ (Date.ofDays (n / dayNanos)).year ≤ 262142

instance (n : Int) : Decidable (IsDated n) := inferInstanceAs (Decidable (_ ∧ _))

variable {t u v : Instant} {n : Int}

/-- These are the counts that belong to instants. -/
theorem isDated_iff_isSome_ofNanos? : IsDated n ↔ (ofNanos? n).isSome = true := by
  have hday : n / dayNanos = n / 1000000000 / 86400 := by
    unfold dayNanos billion
    omega
  rw [isSome_ofNanos?_iff, IsDated, hday]
  constructor
  · rintro ⟨hfirst, hlast⟩
    have hbounds := Date.bounds_of_year_ofDays hfirst hlast
    omega
  · rintro ⟨hfirst, hlast⟩
    exact Date.year_ofDays_bounds (by omega) (by omega)

theorem isLeap_eq_false_iff : t.isLeap = false ↔ t.nano < 1000000000 := by
  rw [isLeap, decide_eq_false_iff_not, Nat.not_le]

/-- The instant at a count is the one with this count that lies in no leap second. -/
theorem ofNanos?_eq_some_iff : ofNanos? n = some t ↔ t.isLeap = false ∧ t.nanos = n := by
  have hfirst := t.earliest_le
  have hlast := t.le_latest
  rw [isLeap_eq_false_iff, ofNanos?, ofParts?, nanos]
  unfold billion
  constructor
  · intro h
    split at h
    · cases h
      dsimp only
      omega
    · cases h
  · rintro ⟨hnano, rfl⟩
    have hsecond : (t.second * 1000000000 + t.nano) / 1000000000 = t.second := by omega
    have hpart : ((t.second * 1000000000 + t.nano) % 1000000000).toNat = t.nano := by omega
    simp only [hsecond, hpart]
    rw [dif_pos ⟨hfirst, hlast, t.nano_lt⟩]

/-- A move that does not begin in a leap second leads to the sum. -/
theorem shift?_eq_some_iff (h : t.isLeap = false) :
    t.shift? n = some u ↔ u.isLeap = false ∧ u.nanos = t.nanos + n := by
  rw [shift?, h, if_neg Bool.false_ne_true, ofNanos?_eq_some_iff]

/-! ### The order of instants -/

private theorem le_trans (h : t ≤ u) (h' : u ≤ v) : t ≤ v := by
  rw [le_iff] at h h' ⊢
  omega

/-- Outside of leap seconds, instants are in the order of their counts. -/
theorem le_iff_nanos_le (ht : t.isLeap = false) (hu : u.isLeap = false) :
    t ≤ u ↔ t.nanos ≤ u.nanos := by
  rw [isLeap_eq_false_iff] at ht hu
  rw [le_iff, nanos, nanos]
  unfold billion
  omega

/-- An instant in a leap second comes after the last nanosecond of the second before it, and before
everything else that comes after that. -/
private theorem le_iff_nanos_le_of_isLeap (ht : t.isLeap = false) (hu : u.isLeap = true) :
    t ≤ u ↔ t.nanos ≤ u.second * billion + 999999999 := by
  rw [isLeap_eq_false_iff] at ht
  rw [isLeap, decide_eq_true_eq] at hu
  rw [le_iff, nanos]
  unfold billion
  omega

end Instant

namespace Token

variable {t : Token}

theorem isExpired?_eq_some_iff {now : Instant} {b : Bool} : t.isExpired? now = some b ↔
    ∃ expiry, t.expiresAt? = some expiry ∧ decide (expiry ≤ now) = b := by
  rw [isExpired?, Option.map_eq_some_iff]

/-- The moment of expiry is the sum of the base and the validity. -/
theorem expiresAt?_eq_some_iff (h : t.base.isLeap = false) {expiry : Instant} :
    t.expiresAt? = some expiry ↔
      expiry.isLeap = false ∧ expiry.nanos = t.base.nanos + t.validity.nanos :=
  Instant.shift?_eq_some_iff h

/-- The sum is reached just when the validity has passed since the base. -/
private theorem decide_expired_eq {base validity now : Int} :
    decide (base + validity ≤ now) = decide (validity ≤ now - base) := by
  rw [decide_eq_decide]
  omega

/-- The moment of expiry of a token, and when the token is expired, in nanoseconds. -/
structure ExpiresExactly (t : Token) : Prop where
  /-- There is a moment of expiry just if the sum falls into the years of instants. -/
  defined : (∃ expiry, t.expiresAt? = some expiry) ↔
    Instant.IsDated (t.base.nanos + t.validity.nanos)
  /-- The moment of expiry is the sum, to the nanosecond. -/
  exact : ∀ expiry, t.expiresAt? = some expiry →
    expiry.isLeap = false ∧ expiry.nanos = t.base.nanos + t.validity.nanos
  /-- The token is expired once its validity has passed since its base. -/
  expired : ∀ expiry, t.expiresAt? = some expiry → ∀ now, now.isLeap = false →
    t.isExpired? now = some (decide (t.validity.nanos ≤ now.nanos - t.base.nanos))
  /-- During a leap second the count stands still. -/
  expiredInLeap : ∀ expiry, t.expiresAt? = some expiry → ∀ now, now.isLeap = true →
    t.isExpired? now = some (decide
      (t.validity.nanos ≤ now.second * Instant.billion + 999999999 - t.base.nanos))
  /-- Without a moment of expiry, it cannot be told at any instant whether the token is expired. -/
  undefined : t.expiresAt? = none → ∀ now, t.isExpired? now = none
  /-- Once expired, the token stays expired. -/
  lasting : ∀ now later, now ≤ later → t.isExpired? now = some true →
    t.isExpired? later = some true
  /-- The token is expired at its own base just if its validity is not positive. -/
  atBase : ∀ expiry, t.expiresAt? = some expiry →
    (t.isExpired? t.base = some true ↔ t.validity.seconds ≤ 0)
  /-- A later refreshment with a moment of expiry does not make the token expire. -/
  refreshed : ∀ later, later.isLeap = false → t.base ≤ later →
    ∀ expiry, { t with lastRefreshed := some later }.expiresAt? = some expiry →
      ∀ now, t.isExpired? now = some false →
        { t with lastRefreshed := some later }.isExpired? now = some false

/-- **Expiry is exact**: every token whose base lies in no leap second expires when its validity has
passed, to the nanosecond. -/
theorem expiresExactly (h : t.base.isLeap = false) : t.ExpiresExactly := by
  have hexpired : ∀ expiry, t.expiresAt? = some expiry → ∀ now, now.isLeap = false →
      t.isExpired? now = some (decide (t.validity.nanos ≤ now.nanos - t.base.nanos)) := by
    intro expiry hexpiry now hnow
    obtain ⟨hplain, hsum⟩ := (expiresAt?_eq_some_iff h).1 hexpiry
    rw [isExpired?_eq hexpiry]
    simp only [Instant.le_iff_nanos_le hplain hnow, hsum, decide_expired_eq]
  constructor
  case defined =>
    rw [Instant.isDated_iff_isSome_ofNanos?, Option.isSome_iff_exists]
    simp only [expiresAt?_eq_some_iff h, Instant.ofNanos?_eq_some_iff]
  case exact => exact fun expiry => (expiresAt?_eq_some_iff h).1
  case expired => exact hexpired
  case expiredInLeap =>
    intro expiry hexpiry now hnow
    obtain ⟨hplain, hsum⟩ := (expiresAt?_eq_some_iff h).1 hexpiry
    rw [isExpired?_eq hexpiry]
    simp only [Instant.le_iff_nanos_le_of_isLeap hplain hnow, hsum, decide_expired_eq]
  case undefined =>
    intro hnone now
    rw [isExpired?, hnone, Option.map_none]
  case lasting =>
    intro now later hle hnow
    obtain ⟨expiry, hexpiry, hpast⟩ := isExpired?_eq_some_iff.1 hnow
    refine isExpired?_eq_some_iff.2 ⟨expiry, hexpiry, decide_eq_true ?_⟩
    exact Instant.le_trans (of_decide_eq_true hpast) hle
  case atBase =>
    intro expiry hexpiry
    rw [hexpired expiry hexpiry t.base h, Option.some.injEq, decide_eq_true_eq, Int.sub_self,
      Span.nanos]
    omega
  case refreshed =>
    intro later hlater hle expiry hexpiry now hnow
    obtain ⟨before, hbefore, hopen⟩ := isExpired?_eq_some_iff.1 hnow
    obtain ⟨hplain, hsum⟩ := (expiresAt?_eq_some_iff h).1 hbefore
    obtain ⟨hplain', hsum'⟩ :=
      (expiresAt?_eq_some_iff (t := { t with lastRefreshed := some later }) hlater).1 hexpiry
    -- the moment of expiry moves with the base, so it does not come earlier
    have hlate : before ≤ expiry := by
      rw [Instant.le_iff_nanos_le h hlater] at hle
      rw [Instant.le_iff_nanos_le hplain hplain', hsum, hsum']
      exact Int.add_le_add_right hle _
    refine isExpired?_eq_some_iff.2 ⟨expiry, hexpiry, decide_eq_false fun hpast => ?_⟩
    exact of_decide_eq_false hopen (Instant.le_trans hlate hpast)

/-- A token of a leap day, refreshed a nanosecond before its end and valid for two hours. -/
def onLeapDay : Token where
  userId := "u"
  clientId := "c"
  id := "t"
  createdAt := { second := 1709164800, nano := 1 }
  lastRefreshed := some { second := 1709251199, nano := 999999999 }
  validity := ⟨7200, by decide⟩

/-- The token expires on 1 March 2024, a nanosecond before two o'clock, and not a nanosecond
earlier. If it were valid for the longest span, it would have no moment of expiry. -/
theorem onLeapDay_expiresExactly :
    (onLeapDay.ExpiresExactly ∧
      onLeapDay.expiresAt?.map Timestamp.render = some "2024-03-01T01:59:59.999999999Z" ∧
      onLeapDay.isExpired? { second := 1709258399, nano := 999999999 } = some true ∧
      onLeapDay.isExpired? { second := 1709258399, nano := 999999998 } = some false) ∧
    { onLeapDay with validity := ⟨9223372036854775, by decide⟩ }.ExpiresExactly ∧
      { onLeapDay with validity := ⟨9223372036854775, by decide⟩ }.expiresAt? = none :=
  ⟨⟨expiresExactly (by decide), by decide +kernel, by decide +kernel, by decide +kernel⟩,
    expiresExactly (by decide), by decide +kernel⟩

end Token

end SignIn
