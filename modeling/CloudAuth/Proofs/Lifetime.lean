import CloudAuth.Proofs.Issuance

/-!
# How long a token lasts

The time at which a token expires when the response names a span and no time: the second in which the
response came, and as many seconds as the span denotes. A span is read from a number, a truth value or a
text, and a fraction of it is dropped, towards zero.
-/

namespace CloudAuth

/-- The whole part of a time that is not negative is its floor. -/
theorem wholeSeconds_of_nonneg {now : Rat} (hnow : 0 ≤ now) : wholeSeconds now = ⌊now⌋ := by
  rw [wholeSeconds, Int.tdiv_eq_ediv_of_nonneg (Rat.num_nonneg.mpr hnow)]
  exact (Rat.floor_def now).symm

/-- The whole part of the opposite is the opposite of the whole part. -/
theorem wholeSeconds_neg (now : Rat) : wholeSeconds (-now) = -wholeSeconds now := by
  rw [wholeSeconds, Rat.num_neg_eq_neg_num, Rat.den_neg_eq_den, Int.neg_tdiv]
  rfl

/-- The integer part of a number is the whole part of its exact value. -/
theorem Binary64.truncate?_eq (x : Binary64) : x.truncate? = x.toRat?.map wholeSeconds := by
  cases x with
  | nan => rfl
  | infinite negative => rfl
  | finite negative mantissa exponent =>
    have hmagnitude : wholeSeconds (if exponent ≥ 0 then (mantissa : Rat) * (2 : Rat) ^ exponent.toNat
        else (mantissa : Rat) / (2 : Rat) ^ (-exponent).toNat) =
          Int.ofNat (wholePart mantissa exponent) := by
      unfold wholePart
      split
      · rw [wholeSeconds_of_nonneg (by positivity)]
        exact_mod_cast Int.floor_natCast (mantissa * 2 ^ exponent.toNat)
      · rw [wholeSeconds_of_nonneg (by positivity)]
        have hfloor := Rat.floor_natCast_div_natCast mantissa (2 ^ (-exponent).toNat)
        rw [Nat.cast_pow, Nat.cast_ofNat] at hfloor
        exact hfloor
    cases negative with
    | false => exact congrArg some hmagnitude.symm
    | true => exact congrArg some ((wholeSeconds_neg _).trans (congrArg Neg.neg hmagnitude)).symm

/-- The integer that a JSON value denotes. -/
inductive Json.Denotes : Json → Int → Prop where
  /-- An integer denotes itself. -/
  | int (n : Int) : Denotes (.int n) n
  /-- A truth value denotes one or zero. -/
  | bool (b : Bool) : Denotes (.bool b) (if b then 1 else 0)
  /-- A text denotes the integer that it spells. -/
  | str {t : Text} {n : Int} (spelled : Literal.readInteger t = .ok n) : Denotes (.str t) n
  /-- Any other number denotes the whole part of its value. -/
  | float {x : Binary64} {value : Rat} (exact : x.toRat? = some value) :
      Denotes (.float x) (wholeSeconds value)

/-- The integer that is read from a number is its integer part. -/
private theorem integerOf_float_eq_ok_iff (x : Binary64) (n : Int) :
    integerOf (.float x) = .ok n ↔ x.truncate? = some n := by
  cases x <;> simp [integerOf, Binary64.truncate?]

/-- The integer that is read from a value is the one that the value denotes. -/
theorem integerOf_eq_ok_iff (v : Json) (n : Int) : integerOf v = .ok n ↔ v.Denotes n := by
  constructor
  · intro hread
    cases v with
    | int m =>
      cases hread
      exact .int _
    | bool b =>
      cases hread
      exact .bool b
    | str t =>
      change integerOfText t = .ok n at hread
      unfold integerOfText at hread
      split at hread
      · rename_i hspelled
        cases hread
        exact .str hspelled
      · contradiction
      · contradiction
    | float x =>
      rw [integerOf_float_eq_ok_iff, Binary64.truncate?_eq] at hread
      obtain ⟨value, hexact, rfl⟩ := Option.map_eq_some_iff.mp hread
      exact .float hexact
    | null => contradiction
    | arr items => contradiction
    | obj members => contradiction
  · rintro (m | b | hspelled | hexact)
    · rfl
    · rfl
    · change integerOfText _ = _
      rw [integerOfText, hspelled]
    · rw [integerOf_float_eq_ok_iff, Binary64.truncate?_eq, hexact]
      rfl

/-- The values that denote integers are those that can be read as such. -/
theorem Json.denotesInteger_iff (v : Json) : v.DenotesInteger ↔ ∃ n, v.Denotes n := by
  simp only [← integerOf_isOk_iff, integerOf_eq_ok_iff]

/-- A response names a span of `n` seconds and no time: its payload is an object in which the time of
expiry is left out or empty, and the span denotes `n`. A span that is left out counts as zero. -/
inductive HttpResponse.NamesSpan (response : HttpResponse) (n : Int) : Prop where
  /-- The members name the span. -/
  | named (members : List (Text × Json)) (payload : response.payload = .obj members)
      (untimed : ∀ time, Json.lookup? (Text.ofString "expires_on") members = some time →
        time.isTruthy = false)
      (span : ((Json.lookup? (Text.ofString "expires_in") members).getD (.int 0)).Denotes n)

/-- An outcome names a span of `n` seconds when it is a response that does. -/
def HttpOutcome.NamesSpan (outcome : HttpOutcome) (n : Int) : Prop :=
  ∃ response, outcome = .response response ∧ response.NamesSpan n

/-- A token for a span expires so many seconds after the second in which it was issued. -/
theorem HttpOutcome.Issues.expiresOn_eq {outcome : HttpOutcome} {now : Rat} {token : AccessToken}
    {n : Int} (hissues : outcome.Issues now token) (hspan : outcome.NamesSpan n) :
    token.expiresOn = wholeSeconds now + n := by
  obtain ⟨response, rfl, members, hpayload, huntimed, hspan⟩ := hspan
  obtain ⟨-, hobject, -, -, hexpiry⟩ := hissues
  cases hobject.symm.trans hpayload
  have hfrom : expiresOn.spanFrom members now = .ok token.expiresOn := by
    rw [← hexpiry, expiresOn]
    split
    · rename_i time htime
      rw [huntimed time htime]
      rfl
    · rfl
  rw [← integerOf_eq_ok_iff] at hspan
  rw [expiresOn.spanFrom] at hfrom
  split at hfrom
  · rename_i span hnamed
    rw [hnamed, Option.getD_some] at hspan
    rw [hspan] at hfrom
    exact (Except.ok.inj hfrom).symm
  · rename_i hnamed
    rw [hnamed, Option.getD_none] at hspan
    rw [← Except.ok.inj hspan, Int.add_zero]
    exact (Except.ok.inj hfrom).symm

end CloudAuth
