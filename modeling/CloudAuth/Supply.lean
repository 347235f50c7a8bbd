import CloudAuth.Codec.Unicode
import CloudAuth.Json.Reader

/-!
# Supplies

What operations draw on: the clock, fresh identifiers, and the outcomes of requests and of calls of
the command line, each in the order in which they are used up.
-/

namespace CloudAuth

/-- A response to a request. -/
structure HttpResponse where
  /-- The status. -/
  status : Int
  /-- The words for the status. -/
  reason : Option Text
  /-- The body. -/
  body : Bytes
  /-- Whether the header fields tell how the body is encoded. -/
  declaresEncoding : Bool
  /-- The body as text, by the encoding that is declared or else by one that is guessed. What cannot be
  decoded is replaced. -/
  text : String
  deriving DecidableEq, Repr

namespace HttpResponse

/-- The first status that stands for an error. -/
def errorStatus : Int := 400

/-- The least size of a body whose encoding can be seen from its bytes. -/
def recognizableSize : Nat := 4

/-- The text that is read as JSON. If no encoding is declared it is the one that the bytes show, and the
text of the response where they show none or cannot be decoded. -/
def jsonText (response : HttpResponse) : List Char :=
  if response.declaresEncoding ∨ response.body.length < recognizableSize then response.text.toList
  else (Unicode.decodeBody response.body).getD response.text.toList

/-- The payload: the JSON value of the response, or an object without members if there is none. -/
def payload (response : HttpResponse) : Json := (Json.read response.jsonText).toOption.getD (.obj [])

end HttpResponse

/-- The outcome of a request. -/
inductive HttpOutcome where
  /-- A response. -/
  | response (r : HttpResponse)
  /-- A failure of the request, of this kind. -/
  | failure (kind : String) (message : Text)
  /-- Any other error, which is passed on. -/
  | broken (kind : String) (message : Text)
  deriving DecidableEq, Repr

/-- The outcome of a call of the command line. -/
inductive CommandLineOutcome where
  /-- A token with its time of expiry. -/
  | token (token : Text) (expiresOn : Int)
  /-- A failure to authenticate, of this kind. -/
  | failure (kind : String) (message : Text)
  /-- Any other error, which is passed on. -/
  | broken (kind : String) (message : Text)
  deriving DecidableEq, Repr

/-- What operations draw on. -/
structure Supply where
  /-- The time. -/
  now : Rat
  /-- The identifiers that have not been drawn. -/
  identifiers : Nat → String
  /-- The outcomes of the next requests. -/
  responses : List HttpOutcome
  /-- The outcomes of the next calls of the command line. -/
  replies : List CommandLineOutcome

namespace Supply

/-- The supply with the clock set. -/
def setClock (supply : Supply) (now : Rat) : Supply := { supply with now }

/-- The supply with one more outcome of a request, after those there are. -/
def addResponse (supply : Supply) (outcome : HttpOutcome) : Supply :=
  { supply with responses := supply.responses ++ [outcome] }

/-- The supply with one more outcome of a call of the command line, after those there are. -/
def addReply (supply : Supply) (outcome : CommandLineOutcome) : Supply :=
  { supply with replies := supply.replies ++ [outcome] }

/-- The next identifier. -/
def identifier (supply : Supply) : String := supply.identifiers 0

/-- The supply after the next identifier is drawn. -/
def afterIdentifier (supply : Supply) : Supply :=
  { supply with identifiers := fun n => supply.identifiers (n + 1) }

/-- What comes of a request when no outcome is left. -/
def noResponse : HttpOutcome := .broken "RuntimeError" "no response queued"

/-- The outcome of the next request. -/
def response (supply : Supply) : HttpOutcome := supply.responses.headD noResponse

/-- The supply after the next request. -/
def afterResponse (supply : Supply) : Supply := { supply with responses := supply.responses.tail }

/-- What the command line gives when no outcome is left. -/
def usualReply : CommandLineOutcome := .token "cli-token" 1700000000

/-- The outcome of the next call of the command line. -/
def reply (supply : Supply) : CommandLineOutcome := supply.replies.headD usualReply

/-- The supply after the next call of the command line. -/
def afterReply (supply : Supply) : Supply := { supply with replies := supply.replies.tail }

end Supply

end CloudAuth
