import CloudAuth.ClientSource

/-!
# Command line sources

A source that takes tokens from the session of the command line. It keeps nothing: every token comes
from a call of its own.
-/

namespace CloudAuth

/-- A source of tokens from the command line. -/
structure CommandLineSource where
  /-- The scopes of the tokens. -/
  scopes : List Text
  /-- The tenant, unless it is the one of the session. -/
  tenant : Option Text
  deriving DecidableEq, Repr

namespace CommandLineSource

/-- Whether a code point may stand in a tenant. -/
def isTenantChar : CodePoint → Bool
  | .scalar c =>
    ('a' ≤ c && c ≤ 'z') || ('A' ≤ c && c ≤ 'Z') || ('0' ≤ c && c ≤ '9') || c == '-' || c == '.'
  | .surrogate _ => false

/-- The tenant without blanks at its ends; a blank one is none. -/
def givenTenant (tenant : Option Text) : Option Text :=
  (tenant.map Text.strip).filter (!·.isEmpty)

/-- The source for a tenant, if the command line takes the tenant. -/
def make (scopes : List Text) (tenant : Option Text) : Except SetupError CommandLineSource :=
  match givenTenant tenant with
  | none => .ok ⟨scopes, none⟩
  | some name =>
    if name.all isTenantChar then .ok ⟨scopes, some name⟩ else .error (.invalidTenant name)

/-- What making the source does. -/
def opening (source : CommandLineSource) : Trace := [.commandLineOpened source.tenant]

/-- The token in a reply of the command line. -/
def readReply (scopes : List Text) : CommandLineOutcome → Except Error AccessToken
  | .token token expiresOn => .ok ⟨.str token, expiresOn⟩
  | .failure kind message => .error (.token (.commandLine scopes kind message))
  | .broken kind message => .error (.fault (.foreign kind message))

/-- Gives a token. -/
def token (source : CommandLineSource) (supply : Supply) :
    Except Error AccessToken × Supply × Trace :=
  (readReply source.scopes supply.reply, supply.afterReply, [.commandLineCall source.scopes])

end CommandLineSource

end CloudAuth
