import CloudAuth.Error

/-!
# Expiry

When a token expires: at the time that the payload names, or after the span that it names from now.
Both may be spelled as numbers or as texts. A token is given up some minutes before it expires.
-/

namespace CloudAuth

/-- How many seconds before it expires a token is given up. -/
def expiryMargin : Int := 300

/-- The whole part of a time, towards zero. -/
def wholeSeconds (now : Rat) : Int := Int.tdiv now.num now.den

/-- Reads a text as an integer. -/
def integerOfText (t : Text) : Except Fault Int :=
  match Literal.readInteger t with
  | .ok n => .ok n
  | .error .malformed => .error (.badLiteral t .malformed)
  | .error (.tooLong digits) => .error (.tooManyDigits digits)

/-- The integer that a JSON value stands for; a fraction is dropped. -/
def integerOf : Json → Except Fault Int
  | .int n => .ok n
  | .bool b => .ok (if b then 1 else 0)
  | .str t => integerOfText t
  | .float x =>
    match x with
    | .nan => .error .undefinedNumber
    | .infinite _ => .error .infiniteNumber
    | .finite negative mantissa exponent =>
      let whole := Binary64.wholePart mantissa exponent
      .ok (if negative then -Int.ofNat whole else Int.ofNat whole)
  | v => .error (.notANumber v)

/-- The time at which the token of a payload expires. -/
def expiresOn (members : List (Text × Json)) (now : Rat) : Except Fault Int :=
  match Json.lookup? (Text.ofString "expires_on") members with
  | some v =>
    if v.isTruthy then integerOf v else spanFrom members now
  | none => spanFrom members now
where
  /-- The time after the span of the payload. -/
  spanFrom (members : List (Text × Json)) (now : Rat) : Except Fault Int :=
    match Json.lookup? (Text.ofString "expires_in") members with
    | some v => (integerOf v).map (wholeSeconds now + ·)
    | none => .ok (wholeSeconds now)

/-- The members of a payload that is an object. -/
def payloadMembers : Json → Except Fault (List (Text × Json))
  | .obj members => .ok members
  | v => .error (.notAnObject v)

/-- Whether a token is to be given up. -/
def isExpiring (expiresOn : Int) (now : Rat) : Bool :=
  decide (((expiresOn - expiryMargin : Int) : Rat) ≤ now)

end CloudAuth
