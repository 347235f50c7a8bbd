import CloudAuth.Proofs.HeaderFrame
import CloudAuth.Proofs.Run

/-!
# Requests authorized through a hook

A hook asks an authorizer for a token and sets it in a request. What kind of authorizer that is does not
matter: a call for a token is any operation on any state, which may give a token or fail, and between the
calls anything may happen to the state. So a run in which calls for a token are made through the hook goes
as it would without the hook. Each step leaves the same state, does the same, and fails with the same
error, and what is new is the request: it holds the token, or is as it was before the call failed.

The runs of the two authorizers of this library are of that kind, which `run_eq_reports` says.
-/

namespace CloudAuth

/-- An operation on a state: what it gives, the state that it leaves, and what it does. -/
abbrev Operation (State Failure Value : Type) := State → Except Failure Value × State × Trace

namespace RequestHook

variable {State Failure Value : Type}

/-- Authorizes a request in its place. The token is asked for first, and the request is changed once it is
there. -/
def authorize (ask : Operation State Failure AccessToken) :
    Operation (HeaderSet × State) Failure HeaderSet := fun (request, state) =>
  match ask state with
  | (.ok token, next, trace) =>
    let authorized := request.setBearer token.token.display
    (.ok authorized, (authorized, next), trace)
  | (.error failure, next, trace) => (.error failure, (request, next), trace)

/-- The calls for a token with a record of what each call gave. -/
def recorded (ask : Operation State Failure AccessToken) :
    Operation (State × List (Except Failure AccessToken)) Failure AccessToken := fun (state, calls) =>
  match ask state with
  | (result, next, trace) => (result, (next, calls ++ [result]), trace)

/-- What may happen in a run. -/
inductive Move (State Failure Value : Type) where
  /-- A token is asked for. -/
  | token
  /-- The hook is called on a request. -/
  | hook (request : HeaderSet)
  /-- Anything else. -/
  | other (operation : Operation State Failure Value)

/-- What a move gives. -/
inductive Given (Value : Type) where
  /-- A token. -/
  | token (token : AccessToken)
  /-- A request that is authorized. -/
  | request (request : HeaderSet)
  /-- What anything else gives. -/
  | value (value : Value)

/-- What is seen of a move. -/
structure Report (Failure Value : Type) where
  /-- What the move gives. -/
  result : Except Failure (Given Value)
  /-- The request of a call of the hook, before the call and after it. -/
  request : Option (HeaderSet × HeaderSet)
  /-- What the move does. -/
  trace : Trace

/-- One move, and the state after it. -/
def perform (ask : Operation State Failure AccessToken) (state : State) :
    Move State Failure Value → Report Failure Value × State
  | .token =>
    match ask state with
    | (result, next, trace) => (⟨result.map .token, none, trace⟩, next)
  | .hook request =>
    match authorize ask (request, state) with
    | (result, (after, next), trace) => (⟨result.map .request, some (request, after), trace⟩, next)
  | .other operation =>
    match operation state with
    | (result, next, trace) => (⟨result.map .value, none, trace⟩, next)

/-- What is seen of the moves of a run. -/
def reports (ask : Operation State Failure AccessToken) :
    State → List (Move State Failure Value) → List (Report Failure Value)
  | _, [] => []
  | state, move :: rest => (perform ask state move).1 :: reports ask (perform ask state move).2 rest

/-- The state after the moves of a run. -/
def stateAfter (ask : Operation State Failure AccessToken) :
    State → List (Move State Failure Value) → State
  | state, [] => state
  | state, move :: rest => stateAfter ask (perform ask state move).2 rest

/-- A move that may stand for another: the same one, or a call of the hook for a call of its own. -/
inductive Move.StandsFor : Move State Failure Value → Move State Failure Value → Prop where
  /-- A move stands for itself. -/
  | same (move : Move State Failure Value) : StandsFor move move
  /-- A call of the hook stands for a call for a token. -/
  | hook (request : HeaderSet) : StandsFor (.hook request) .token

/-- What is seen of a move, beside what is seen of the one that it stands for. -/
inductive Report.Frames : Report Failure Value → Report Failure Value → Prop where
  /-- The same is seen of the same move. -/
  | same (report : Report Failure Value) : Frames report report
  /-- Where the call gives a token, the hook gives the request with the token set in it. -/
  | authorized {before after : HeaderSet} {token : AccessToken} (trace : Trace)
      (hset : before.SetsBearer token.token.display after) :
      Frames ⟨.ok (.request after), some (before, after), trace⟩ ⟨.ok (.token token), none, trace⟩
  /-- Where the call fails, the hook fails with the same error, and the request is as it was. -/
  | failed (request : HeaderSet) (failure : Failure) (trace : Trace) :
      Frames ⟨.error failure, some (request, request), trace⟩ ⟨.error failure, none, trace⟩

variable (ask : Operation State Failure AccessToken)

/-- The hook makes one call for a token, leaves the state that the call leaves, and does what it does. -/
theorem authorize_recorded (request : HeaderSet) (state : State)
    (calls : List (Except Failure AccessToken)) :
    ∃ result after, authorize (recorded ask) (request, state, calls) =
      (result, (after, (ask state).2.1, calls ++ [(ask state).1]), (ask state).2.2) := by
  simp only [authorize, recorded]
  rcases ask state with ⟨failure | token, next, trace⟩
  · exact ⟨.error failure, request, rfl⟩
  · exact ⟨.ok (request.setBearer token.token.display), _, rfl⟩

/-- A move leaves the state that the one leaves which it stands for, and is seen beside it. -/
theorem perform_of_standsFor {move other : Move State Failure Value} (hmove : move.StandsFor other)
    (state : State) :
    (perform ask state move).2 = (perform ask state other).2 ∧
      (perform ask state move).1.Frames (perform ask state other).1 := by
  cases hmove with
  | same => exact ⟨rfl, .same _⟩
  | hook request =>
    simp only [perform, authorize]
    rcases ask state with ⟨failure | token, next, trace⟩
    · exact ⟨rfl, .failed request failure trace⟩
    · exact ⟨rfl, .authorized trace (request.setsBearer_setBearer _)⟩

variable {hooked direct : List (Move State Failure Value)}

/-- A run leaves the state that the run leaves which it stands for. -/
theorem stateAfter_of_standsFor (hmoves : List.Forall₂ Move.StandsFor hooked direct) (state : State) :
    stateAfter ask state hooked = stateAfter ask state direct := by
  induction hmoves generalizing state with
  | nil => rfl
  | cons hmove hrest ih => rw [stateAfter, stateAfter, (perform_of_standsFor ask hmove state).1, ih]

/-- Every move of a run is seen beside the one that it stands for. -/
theorem reports_of_standsFor (hmoves : List.Forall₂ Move.StandsFor hooked direct) (state : State) :
    List.Forall₂ Report.Frames (reports ask state hooked) (reports ask state direct) := by
  induction hmoves generalizing state with
  | nil => exact .nil
  | cons hmove hrest ih =>
    obtain ⟨hnext, hframes⟩ := perform_of_standsFor ask hmove state
    rw [reports, reports, hnext]
    exact .cons hframes (ih _)

end RequestHook

namespace StepResult

/-- What a step gives, without the note whether the token was given before. -/
def unmarked : StepResult → StepResult
  | token given _ => token given false
  | result => result

end StepResult

/-- What the calls for a token read and change: the cache, and what they draw on. -/
def RunState.held (state : RunState) : TokenCache × Supply := (state.cache, state.supply)

namespace RequestHook

/-- What a move gives, as what a step gives. -/
def Given.shown : Given StepResult → StepResult
  | token given => .token given false
  | request fields => .headers fields
  | value result => result

/-- What is seen of a move, as what a run shows of a step. -/
def Report.shown (report : Report Error StepResult) : Except Error StepResult × Trace :=
  (report.result.map Given.shown, report.trace)

end RequestHook

namespace Authorizer

open RequestHook

/-- A call for a token as an operation on what a run holds. -/
def ask (authorizer : Authorizer) : Operation (TokenCache × Supply) Error AccessToken :=
  fun (cache, supply) =>
    match authorizer.token cache supply with
    | (result, cache, supply, trace) => (result, (cache, supply), trace)

/-- A step of a run as a move. -/
def move (authorizer : Authorizer) : Step → Move (TokenCache × Supply) Error StepResult
  | .token => .token
  | .authorize request => .hook request
  | step => .other fun (cache, supply) =>
    match authorizer.step ⟨cache, supply, none⟩ step with
    | (result, next, trace) => (result, next.held, trace)

/-- What a run shows of a step, without the note whether the token was given before. -/
def unmarked (seen : Except Error StepResult × Trace) : Except Error StepResult × Trace :=
  (seen.1.map StepResult.unmarked, seen.2)

variable (authorizer : Authorizer) (state : RunState)

/-- A step is a move on what the run holds. -/
theorem step_eq_perform (step : Step) :
    let moved := perform authorizer.ask state.held (authorizer.move step)
    unmarked ((authorizer.step state step).1, (authorizer.step state step).2.2) = moved.1.shown ∧
      (authorizer.step state step).2.1.held = moved.2 := by
  cases step with
  | token =>
    simp only [step, tokenStep, move, perform, ask, RunState.held]
    rcases authorizer.token state.cache state.supply with ⟨error | token, cache, supply, trace⟩
    · exact ⟨rfl, rfl⟩
    · exact ⟨rfl, rfl⟩
  | authorize request =>
    simp only [step, authorizeStep, move, perform, RequestHook.authorize, ask, RunState.held]
    rcases authorizer.token state.cache state.supply with ⟨error | token, cache, supply, trace⟩
    · exact ⟨rfl, rfl⟩
    · exact ⟨rfl, rfl⟩
  | form =>
    cases authorizer with
    | client source =>
      refine ⟨?_, rfl⟩
      simp only [step, move, perform, RunState.held]
      rcases source.form state.supply with ⟨fault | form, supply⟩
      · rfl
      · rfl
    | commandLine source => exact ⟨rfl, rfl⟩
  | close =>
    cases authorizer with
    | client source => exact ⟨rfl, rfl⟩
    | commandLine source => exact ⟨rfl, rfl⟩
  | clock now => exact ⟨rfl, rfl⟩
  | respond outcome => exact ⟨rfl, rfl⟩
  | reply outcome => exact ⟨rfl, rfl⟩

/-- A run is a run of moves on what it holds. -/
theorem run_eq_reports (steps : List Step) :
    (authorizer.run state steps).map unmarked =
        (reports authorizer.ask state.held (steps.map authorizer.move)).map Report.shown ∧
      (authorizer.stateAfter state steps).held =
        RequestHook.stateAfter authorizer.ask state.held (steps.map authorizer.move) := by
  induction steps generalizing state with
  | nil => exact ⟨rfl, rfl⟩
  | cons step rest ih =>
    obtain ⟨hseen, hnext⟩ := authorizer.step_eq_perform state step
    obtain ⟨hrun, hheld⟩ := ih (authorizer.step state step).2.1
    rw [hnext] at hrun hheld
    refine ⟨?_, hheld⟩
    rw [run, List.map_cons, List.map_cons, reports, List.map_cons, hrun, hseen]

end Authorizer

open RequestHook

/-- Whatever an authorizer is, a hook on it makes one call for a token. A run in which hooks stand for
calls leaves the same state after every move, and each move does the same and fails with the same error.
Where a call gives a token, the hook sets it in the request, in one field of the name for it, and leaves
the other fields. Where a call fails, the hook leaves the request. The runs of the authorizers of this
library are such runs, apart from the note whether a token was given before. -/
theorem hook_frames_token_calls :
    (∀ (State Failure Value : Type) (ask : Operation State Failure AccessToken) (state : State),
      (∀ request calls, ∃ result after, authorize (recorded ask) (request, state, calls) =
        (result, (after, (ask state).2.1, calls ++ [(ask state).1]), (ask state).2.2)) ∧
      ∀ hooked direct : List (Move State Failure Value), List.Forall₂ Move.StandsFor hooked direct →
        List.Forall₂ Report.Frames (reports ask state hooked) (reports ask state direct) ∧
          ∀ n, stateAfter ask state (hooked.take n) = stateAfter ask state (direct.take n)) ∧
    ∀ (authorizer : Authorizer) (state : RunState) (steps : List Step),
      let moves := steps.map authorizer.move
      (authorizer.run state steps).map Authorizer.unmarked =
          (reports authorizer.ask state.held moves).map Report.shown ∧
        (authorizer.stateAfter state steps).held = stateAfter authorizer.ask state.held moves := by
  constructor
  · intro State Failure Value ask state
    refine ⟨fun request calls => authorize_recorded ask request state calls, ?_⟩
    intro hooked direct hmoves
    refine ⟨reports_of_standsFor ask hmoves state, fun n => ?_⟩
    exact stateAfter_of_standsFor ask (List.forall₂_take n hmoves) state
  · intro authorizer state steps
    exact authorizer.run_eq_reports state steps

namespace RequestHook

/-- Calls for tokens that number the tokens, and of which the second fails. -/
def numberedTokens : Operation Nat String AccessToken := fun calls =>
  if calls = 1 then (.error "refused", 2, [])
  else (.ok ⟨.str (Text.ofString s!"token{calls}"), 0⟩, calls + 1, [])

/-- A request with an old token, under the name of its field in capital letters. -/
def requestWithOldToken : HeaderSet :=
  .ofFields [⟨"AUTHORIZATION", Text.ofString "Basic old"⟩, ⟨"Accept", Text.ofString "*/*"⟩]

end RequestHook

/-- A run of three calls, of which the first and the second are made through the hook. -/
theorem hook_frames_numberedTokens :
    let hooked : List (Move Nat String Unit) :=
      [.hook requestWithOldToken, .hook requestWithOldToken, .token]
    let after := (reports numberedTokens 0 hooked).map fun report =>
      report.request.map fun request => request.2.fields
    List.Forall₂ Move.StandsFor hooked [.token, .token, .token] ∧
      List.Forall₂ Report.Frames (reports numberedTokens 0 hooked)
        (reports numberedTokens 0 [.token, .token, .token]) ∧
      after = [
        some [⟨"Authorization", Text.ofString "Bearer token0"⟩, ⟨"Accept", Text.ofString "*/*"⟩],
        some requestWithOldToken.fields,
        none] := by
  have hmoves : List.Forall₂ Move.StandsFor
      [(.hook requestWithOldToken : Move Nat String Unit), .hook requestWithOldToken, .token]
      [.token, .token, .token] :=
    .cons (.hook _) (.cons (.hook _) (.cons (.same _) .nil))
  have hframes := (hook_frames_token_calls.1 Nat String Unit numberedTokens 0).2 _ _ hmoves
  exact ⟨hmoves, hframes.1, by decide +kernel⟩

end CloudAuth
