import Mathlib
import CloudAuth.ClientSource

/-!
# When an outcome issues a token

What it takes for the outcome of a request to issue a token, and what it takes for a response to be
unreadable. Both are said of the response alone, without the reader: `readOutcome_eq_ok_iff` and
`readResponse_eq_fault_iff` are the reader's side.

A response that neither issues a token nor is unreadable is refused with an error of its own.
-/

namespace CloudAuth

/-- The outcome of a request issues a token at a time: the status is none of an error, the payload is
an object with an access token that is not empty, and its expiry can be read. -/
inductive HttpOutcome.Issues (now : Rat) : HttpOutcome → AccessToken → Prop where
  /-- A response issues its access token with the expiry of the same payload. -/
  | response {response : HttpResponse} {members : List (Text × Json)} {token : AccessToken}
      (accepted : response.status < HttpResponse.errorStatus)
      (payload : response.payload = .obj members)
      (found : Json.lookup? (Text.ofString "access_token") members = some token.token)
      (given : token.token.isTruthy = true)
      (expiry : CloudAuth.expiresOn members now = .ok token.expiresOn) :
      Issues now (.response response) token

/-- The JSON values that are read as integers: numbers, truth values, and texts that spell one. -/
def Json.DenotesInteger : Json → Prop
  | .int _ | .bool _ | .float (.finite _ _ _) => True
  | .str t => ∃ n, Literal.readInteger t = .ok n
  | _ => False

/-- The member that the expiry is read from: the time if it is given, and otherwise the span. -/
def namedExpiry? (members : List (Text × Json)) : Option Json :=
  ((Json.lookup? (Text.ofString "expires_on") members).filter Json.isTruthy).or
    (Json.lookup? (Text.ofString "expires_in") members)

/-- A response that no token and no refusal is read from. -/
inductive HttpResponse.IsUnreadable (response : HttpResponse) : Prop where
  /-- The payload is no object. -/
  | notObject (h : ∀ members, response.payload ≠ .obj members)
  /-- The response holds an access token, but its expiry is no integer. -/
  | badExpiry {members : List (Text × Json)} {token expiry : Json}
      (accepted : response.status < HttpResponse.errorStatus)
      (payload : response.payload = .obj members)
      (found : Json.lookup? (Text.ofString "access_token") members = some token)
      (given : token.isTruthy = true)
      (named : namedExpiry? members = some expiry)
      (notInteger : ¬ expiry.DenotesInteger)

/-- Reading a text as an integer succeeds when the text spells one. -/
theorem integerOfText_isOk_iff (t : Text) :
    (∃ n, integerOfText t = .ok n) ↔ ∃ n, Literal.readInteger t = .ok n := by
  unfold integerOfText
  cases Literal.readInteger t with
  | ok n => simp
  | error e => cases e <;> simp

/-- Exactly the values that denote integers are read as such. -/
theorem integerOf_isOk_iff (v : Json) : (∃ n, integerOf v = .ok n) ↔ v.DenotesInteger := by
  cases v with
  | str t => exact integerOfText_isOk_iff t
  | float x => cases x <;> simp [integerOf, Json.DenotesInteger]
  | null => simp [integerOf, Json.DenotesInteger]
  | bool b => simp [integerOf, Json.DenotesInteger]
  | int n => simp [integerOf, Json.DenotesInteger]
  | arr items => simp [integerOf, Json.DenotesInteger]
  | obj members => simp [integerOf, Json.DenotesInteger]

/-- A span can be read when its member, if it is there, is an integer. -/
private theorem spanFrom_isOk_iff (members : List (Text × Json)) (now : Rat) :
    (∃ n, expiresOn.spanFrom members now = .ok n) ↔
      ∀ v, Json.lookup? (Text.ofString "expires_in") members = some v → v.DenotesInteger := by
  unfold expiresOn.spanFrom
  cases Json.lookup? (Text.ofString "expires_in") members with
  | none => simp
  | some v =>
    simp only [Option.some.injEq, forall_eq', ← integerOf_isOk_iff]
    cases integerOf v <;> simp [Except.map]

/-- The expiry can be read unless the member that names it is no integer; no such member will do. -/
theorem expiresOn_isOk_iff (members : List (Text × Json)) (now : Rat) :
    (∃ n, expiresOn members now = .ok n) ↔
      ∀ v, namedExpiry? members = some v → v.DenotesInteger := by
  unfold expiresOn namedExpiry?
  cases Json.lookup? (Text.ofString "expires_on") members with
  | none => simpa using spanFrom_isOk_iff members now
  | some v =>
    cases hgiven : v.isTruthy with
    | true => simp [Option.filter_some, hgiven, integerOf_isOk_iff]
    | false => simpa [Option.filter_some, hgiven] using spanFrom_isOk_iff members now

namespace ClientSource

/-- A payload that is no object is a fault, whatever the status. -/
theorem readResponse_of_not_object (url : Text) (response : HttpResponse) (now : Rat)
    (h : ∀ members, response.payload ≠ .obj members) :
    readResponse url response now = .error (.fault (.notAnObject response.payload)) := by
  have hmembers : payloadMembers response.payload = .error (.notAnObject response.payload) := by
    cases hpayload : response.payload with
    | obj members => exact absurd hpayload (h members)
    | _ => rfl
  unfold readResponse
  rw [hmembers]
  split <;> rfl

/-- A response with an error status and an object as payload is refused. -/
theorem readResponse_of_errorStatus (url : Text) (response : HttpResponse) (now : Rat)
    {members : List (Text × Json)} (hpayload : response.payload = .obj members)
    (hstatus : HttpResponse.errorStatus ≤ response.status) :
    readResponse url response now =
      .error (.token (.rejected url response.status (detail members response.reason))) := by
  unfold readResponse
  rw [if_pos hstatus, hpayload]
  rfl

/-- An accepted response with an object as payload holds no token, or its expiry decides. -/
theorem readResponse_of_accepted (url : Text) (response : HttpResponse) (now : Rat)
    {members : List (Text × Json)} (hpayload : response.payload = .obj members)
    (hstatus : response.status < HttpResponse.errorStatus) :
    readResponse url response now =
      match (Json.lookup? (Text.ofString "access_token") members).filter Json.isTruthy with
      | none => .error (.token (.noToken url))
      | some token => ((expiresOn members now).map (AccessToken.mk token)).mapError Error.fault := by
  unfold readResponse
  rw [if_neg (Int.not_le.mpr hstatus), hpayload]
  have hmembers : payloadMembers (.obj members) = .ok members := rfl
  rw [hmembers]
  dsimp only [Except.mapError, bind, Except.bind]
  cases Json.lookup? (Text.ofString "access_token") members with
  | none => rfl
  | some token =>
    cases hgiven : token.isTruthy with
    | false => simp [Option.filter_some, hgiven]
    | true =>
      simp only [Option.filter_some, hgiven, if_true]
      cases expiresOn members now <;> rfl

/-- A token is read exactly from the outcomes that issue it. -/
theorem readOutcome_eq_ok_iff (url : Text) (outcome : HttpOutcome) (now : Rat) (token : AccessToken) :
    readOutcome url outcome now = .ok token ↔ outcome.Issues now token := by
  constructor
  · intro hread
    cases outcome with
    | failure kind message => simp [readOutcome] at hread
    | broken kind message => simp [readOutcome] at hread
    | response response =>
      change readResponse url response now = .ok token at hread
      by_cases hobject : ∃ members, response.payload = .obj members
      · obtain ⟨members, hpayload⟩ := hobject
        rcases Int.lt_or_le response.status HttpResponse.errorStatus with hstatus | hstatus
        · rw [readResponse_of_accepted url response now hpayload hstatus] at hread
          split at hread
          · contradiction
          · rename_i value hfound
            obtain ⟨hfound, hgiven⟩ := Option.filter_eq_some_iff.mp hfound
            cases hexpiry : expiresOn members now with
            | error e => simp [hexpiry, Except.map, Except.mapError] at hread
            | ok n =>
              simp only [hexpiry, Except.map, Except.mapError, Except.ok.injEq] at hread
              subst hread
              exact .response hstatus hpayload hfound hgiven hexpiry
        · rw [readResponse_of_errorStatus url response now hpayload hstatus] at hread
          contradiction
      · rw [readResponse_of_not_object url response now (by simpa using hobject)] at hread
        contradiction
  · rintro ⟨hstatus, hpayload, hfound, hgiven, hexpiry⟩
    change readResponse url _ now = _
    rw [readResponse_of_accepted url _ now hpayload hstatus, hfound]
    simp [Option.filter_some, hgiven, hexpiry, Except.map, Except.mapError]

/-- A fault is read exactly from the unreadable responses and from the errors that are passed on. -/
theorem readResponse_eq_fault_iff (url : Text) (response : HttpResponse) (now : Rat) :
    (∃ fault, readResponse url response now = .error (.fault fault)) ↔ response.IsUnreadable := by
  constructor
  · rintro ⟨fault, hread⟩
    by_cases hobject : ∃ members, response.payload = .obj members
    · obtain ⟨members, hpayload⟩ := hobject
      rcases Int.lt_or_le response.status HttpResponse.errorStatus with hstatus | hstatus
      · rw [readResponse_of_accepted url response now hpayload hstatus] at hread
        split at hread
        · simp at hread
        · rename_i value hfound
          obtain ⟨hfound, hgiven⟩ := Option.filter_eq_some_iff.mp hfound
          have hexpiry : ¬ ∃ n, expiresOn members now = .ok n := by
            rintro ⟨n, hexpiry⟩
            simp [hexpiry, Except.map, Except.mapError] at hread
          rw [expiresOn_isOk_iff] at hexpiry
          obtain ⟨expiry, hexpiry⟩ := Classical.not_forall.mp hexpiry
          obtain ⟨hnamed, hinteger⟩ := Classical.not_imp.mp hexpiry
          exact .badExpiry hstatus hpayload hfound hgiven hnamed hinteger
      · rw [readResponse_of_errorStatus url response now hpayload hstatus] at hread
        simp at hread
    · exact .notObject (by simpa using hobject)
  · rintro (hobject | ⟨hstatus, hpayload, hfound, hgiven, hnamed, hinteger⟩)
    · exact ⟨_, readResponse_of_not_object url response now hobject⟩
    · rw [readResponse_of_accepted url response now hpayload hstatus, hfound]
      simp only [Option.filter_some, hgiven, if_true]
      cases hexpiry : expiresOn _ now with
      | error e => exact ⟨e, rfl⟩
      | ok n => exact absurd ((expiresOn_isOk_iff _ now).mp ⟨n, hexpiry⟩ _ hnamed) hinteger

/-- Reading a response gives a token, an error of its own, or a fault. -/
theorem readResponse_cases (url : Text) (response : HttpResponse) (now : Rat) :
    (∃ token, readResponse url response now = .ok token) ∨
      (∃ error, readResponse url response now = .error (.token error)) ∨
        ∃ fault, readResponse url response now = .error (.fault fault) := by
  by_cases hobject : ∃ members, response.payload = .obj members
  · obtain ⟨members, hpayload⟩ := hobject
    rcases Int.lt_or_le response.status HttpResponse.errorStatus with hstatus | hstatus
    · rw [readResponse_of_accepted url response now hpayload hstatus]
      split
      · exact .inr (.inl ⟨_, rfl⟩)
      · cases expiresOn members now with
        | error e => exact .inr (.inr ⟨_, rfl⟩)
        | ok n => exact .inl ⟨_, rfl⟩
    · exact .inr (.inl ⟨_, readResponse_of_errorStatus url response now hpayload hstatus⟩)
  · exact .inr (.inr ⟨_, readResponse_of_not_object url response now (by simpa using hobject)⟩)

/-- An outcome that gives no token is refused with an error of its own if it can be read, and with a
fault if it cannot. -/
theorem readOutcome_error_cases {url : Text} {outcome : HttpOutcome} {now : Rat} {error : Error}
    (houtcome : ∀ kind message, outcome ≠ .broken kind message)
    (hread : readOutcome url outcome now = .error error) :
    ((∃ e, error = .token e) ∧ ∀ response, outcome = .response response → ¬ response.IsUnreadable) ∨
      (∃ fault, error = .fault fault) ∧
        ∃ response, outcome = .response response ∧ response.IsUnreadable := by
  cases outcome with
  | broken kind message => exact absurd rfl (houtcome kind message)
  | failure kind message =>
    cases hread
    exact .inl ⟨⟨_, rfl⟩, nofun⟩
  | response response =>
    change readResponse url response now = .error error at hread
    have hfault := readResponse_eq_fault_iff url response now
    rcases readResponse_cases url response now with ⟨token, h⟩ | ⟨e, h⟩ | ⟨fault, h⟩
    · rw [h] at hread
      contradiction
    · refine .inl ⟨⟨e, Except.error.inj (hread.symm.trans h)⟩, ?_⟩
      rintro _ ⟨rfl⟩ hunreadable
      obtain ⟨fault, hother⟩ := hfault.mpr hunreadable
      cases h.symm.trans hother
    · exact .inr ⟨⟨fault, Except.error.inj (hread.symm.trans h)⟩, response, rfl, hfault.mp ⟨fault, h⟩⟩

/-- An outcome that gives a token can be read. -/
theorem not_isUnreadable_of_readOutcome {url : Text} {outcome : HttpOutcome} {now : Rat}
    {token : AccessToken} (hread : readOutcome url outcome now = .ok token) (response : HttpResponse)
    (houtcome : outcome = .response response) : ¬ response.IsUnreadable := by
  subst houtcome
  intro hunreadable
  obtain ⟨fault, hfault⟩ := (readResponse_eq_fault_iff url response now).mpr hunreadable
  cases hread.symm.trans hfault

end ClientSource

/-- An outcome issues at most one token. -/
theorem HttpOutcome.Issues.unique {outcome : HttpOutcome} {now : Rat} {first second : AccessToken}
    (hfirst : outcome.Issues now first) (hsecond : outcome.Issues now second) : first = second := by
  rw [← ClientSource.readOutcome_eq_ok_iff ""] at hfirst hsecond
  exact Except.ok.inj (hfirst.symm.trans hsecond)

/-- A response of the status for success with a text for its body. -/
def okResponse (text : String) : HttpResponse := ⟨200, some "OK", Unicode.utf8 text, false, text⟩

end CloudAuth
