import CloudAuth.CommandLineSource
import CloudAuth.Header

/-!
# Authorizers

Anything that gives tokens: a client source or a command line source. A run is a sequence of steps
with one authorizer. Each step has a result and a trace, and leaves a state for the next step.
-/

namespace CloudAuth

/-- A source of tokens. -/
inductive Authorizer where
  /-- A source for a client. -/
  | client (source : ClientSource)
  /-- A source from the command line. -/
  | commandLine (source : CommandLineSource)
  deriving Repr

/-- What making an authorizer does. -/
def Authorizer.opening : Authorizer → Trace
  | .client source => source.opening
  | .commandLine source => source.opening

/-- One step of a run. -/
inductive Step where
  /-- The clock is set. -/
  | clock (now : Rat)
  /-- A request more has this outcome. -/
  | respond (outcome : HttpOutcome)
  /-- A call of the command line more has this outcome. -/
  | reply (outcome : CommandLineOutcome)
  /-- A token is asked for. -/
  | token
  /-- The form of a request is asked for. -/
  | form
  /-- The source is closed. -/
  | close
  /-- A request with these header fields is authorized. -/
  | authorize (headers : HeaderSet)
  deriving Repr

/-- What a step gives. -/
inductive StepResult where
  /-- Nothing. -/
  | done
  /-- A token, and whether it is the very one that the last such step gave. -/
  | token (token : AccessToken) (same : Bool)
  /-- A form. -/
  | form (form : Form)
  /-- Header fields. -/
  | headers (headers : HeaderSet)
  deriving Repr

/-- The state between the steps of a run. -/
structure RunState where
  /-- What the source keeps. -/
  cache : TokenCache
  /-- What the steps draw on. -/
  supply : Supply
  /-- Which of the tokens obtained was last given by a step that asked for one. -/
  lastGiven : Option Nat

namespace RunState

/-- The state before the first step. -/
def start (supply : Supply) : RunState := ⟨TokenCache.empty, supply, none⟩

end RunState

namespace Authorizer

/-- Gives a token. -/
def token (authorizer : Authorizer) (cache : TokenCache) (supply : Supply) :
    Except Error AccessToken × TokenCache × Supply × Trace :=
  match authorizer with
  | client source => source.token cache supply
  | commandLine source =>
    let (result, rest, trace) := source.token supply
    (result, cache, rest, trace)

/-- Whether a token that was given belongs to the last one obtained and was given before. -/
def isSame (authorizer : Authorizer) (state : RunState) (cache : TokenCache) : Bool :=
  match authorizer with
  | client _ => state.lastGiven == some cache.obtained
  | commandLine _ => false

/-- One step that asks for a token. -/
def tokenStep (authorizer : Authorizer) (state : RunState) :
    Except Error StepResult × RunState × Trace :=
  match authorizer.token state.cache state.supply with
  | (.ok token, cache, supply, trace) =>
    (.ok (.token token (authorizer.isSame state cache)), ⟨cache, supply, some cache.obtained⟩, trace)
  | (.error e, cache, supply, trace) => (.error e, ⟨cache, supply, state.lastGiven⟩, trace)

/-- One step that authorizes a request: the token is set as a header field. -/
def authorizeStep (authorizer : Authorizer) (state : RunState) (headers : HeaderSet) :
    Except Error StepResult × RunState × Trace :=
  match authorizer.token state.cache state.supply with
  | (result, cache, supply, trace) =>
    (result.map fun token => .headers (headers.setBearer token.token.display),
      ⟨cache, supply, state.lastGiven⟩, trace)

/-- One step of a run. -/
def step (authorizer : Authorizer) (state : RunState) :
    Step → Except Error StepResult × RunState × Trace
  | .clock now => (.ok .done, { state with supply := state.supply.setClock now }, [])
  | .respond outcome => (.ok .done, { state with supply := state.supply.addResponse outcome }, [])
  | .reply outcome => (.ok .done, { state with supply := state.supply.addReply outcome }, [])
  | .token => authorizer.tokenStep state
  | .authorize headers => authorizer.authorizeStep state headers
  | .form =>
    match authorizer with
    | client source =>
      let (form, supply) := source.form state.supply
      ((form.map StepResult.form).mapError Error.fault, { state with supply }, [])
    | commandLine _ => (.error (.fault (.notOffered "request_body")), state, [])
  | .close =>
    match authorizer with
    | client source => (.ok .done, state, source.closing)
    | commandLine _ => (.error (.fault (.notOffered "close")), state, [])

/-- The results and the traces of the steps of a run. -/
def run (authorizer : Authorizer) : RunState → List Step → List (Except Error StepResult × Trace)
  | _, [] => []
  | state, step :: rest =>
    let (result, next, trace) := authorizer.step state step
    (result, trace) :: run authorizer next rest

end Authorizer

end CloudAuth
