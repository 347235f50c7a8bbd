import CloudAuth.Authorizer
import CloudAuth.Proofs.TokenCall

/-!
# Runs and their exchanges

The state that a run reaches, and the exchanges of a run: each request that was sent, with the outcome
that it met and the time at which it did. The token that was issued last is read off the exchanges and
not off the cache.

Only a call for a token that is due has an exchange, and it has one at most. So the exchanges of a run are
those of some of its calls, in their order: `call_of_exchanges_eq` finds the call of each.
-/

namespace CloudAuth

/-- A request that was sent, with what came of it. -/
structure Exchange where
  /-- The request. -/
  post : Post
  /-- The outcome of the request. -/
  outcome : HttpOutcome
  /-- The time of the request. -/
  now : Rat

/-- An exchange issues a token when its outcome does at its time. -/
def Exchange.Issues (exchange : Exchange) (token : AccessToken) : Prop :=
  exchange.outcome.Issues exchange.now token

/-- A token was issued by an exchange after which no other issued one. -/
def LastIssued (exchanges : List Exchange) (token : AccessToken) : Prop :=
  ∃ earlier exchange later, exchanges = earlier ++ exchange :: later ∧ exchange.Issues token ∧
    ∀ other ∈ later, ∀ t, ¬ other.Issues t

/-- Nothing is issued without an exchange. -/
theorem not_lastIssued_nil (token : AccessToken) : ¬ LastIssued [] token := by
  rintro ⟨earlier, exchange, later, hsplit, -⟩
  simp at hsplit

/-- The token issued last after one more exchange is the one that this exchange issues, or the one from
before if it issues none. -/
theorem lastIssued_concat_iff (exchanges : List Exchange) (exchange : Exchange) (token : AccessToken) :
    LastIssued (exchanges ++ [exchange]) token ↔
      exchange.Issues token ∨ (∀ t, ¬ exchange.Issues t) ∧ LastIssued exchanges token := by
  constructor
  · rintro ⟨earlier, issuing, later, hsplit, hissues, hlater⟩
    rcases List.eq_nil_or_concat later with rfl | ⟨init, last, rfl⟩
    · obtain ⟨-, hlast⟩ := List.append_inj' hsplit rfl
      rw [List.singleton_inj.mp hlast]
      exact .inl hissues
    · rw [List.concat_eq_append, ← List.cons_append, ← List.append_assoc] at hsplit
      obtain ⟨hinit, hlast⟩ := List.append_inj' hsplit rfl
      rw [List.singleton_inj.mp hlast]
      refine .inr ⟨hlater last (by simp), earlier, issuing, init, hinit, hissues, ?_⟩
      intro other hother
      exact hlater other (by simp [hother])
  · rintro (hissues | ⟨hnone, earlier, issuing, later, rfl, hissues, hlater⟩)
    · exact ⟨exchanges, exchange, [], rfl, hissues, by simp⟩
    · refine ⟨earlier, issuing, later ++ [exchange], by simp, hissues, fun other hother => ?_⟩
      rcases List.mem_append.mp hother with hother | hother
      · exact hlater other hother
      · rw [List.mem_singleton.mp hother]
        exact hnone

namespace Authorizer

/-- The state after the steps of a run. -/
def stateAfter (authorizer : Authorizer) : RunState → List Step → RunState
  | state, [] => state
  | state, step :: rest => stateAfter authorizer (authorizer.step state step).2.1 rest

/-- The exchanges of one step: the requests in its trace, each with the next outcome. -/
def exchangesOf (state : RunState) (trace : Trace) : List Exchange :=
  trace.posts.map fun post => ⟨post, state.supply.response, state.supply.now⟩

/-- The exchanges of a run in their order. -/
def exchanges (authorizer : Authorizer) : RunState → List Step → List Exchange
  | _, [] => []
  | state, step :: rest =>
    exchangesOf state (authorizer.step state step).2.2 ++
      exchanges authorizer (authorizer.step state step).2.1 rest

/-- Setting the clock sends nothing. -/
theorem exchanges_clock (authorizer : Authorizer) (state : RunState) (now : Rat) (steps : List Step) :
    authorizer.exchanges state (.clock now :: steps) =
      authorizer.exchanges { state with supply := state.supply.setClock now } steps := rfl

/-- A run goes on from the state that its first part reaches. -/
theorem run_append (authorizer : Authorizer) (state : RunState) (before after : List Step) :
    authorizer.run state (before ++ after) =
      authorizer.run state before ++ authorizer.run (authorizer.stateAfter state before) after := by
  induction before generalizing state with
  | nil => rfl
  | cons step rest ih =>
    simp only [List.cons_append, run, stateAfter, ih]

/-- The state after two parts of a run is reached from the state after the first. -/
theorem stateAfter_append (authorizer : Authorizer) (state : RunState) (before after : List Step) :
    authorizer.stateAfter state (before ++ after) =
      authorizer.stateAfter (authorizer.stateAfter state before) after := by
  induction before generalizing state with
  | nil => rfl
  | cons step rest ih => exact ih _

/-- The exchanges of two parts of a run are those of the first, and then those of the second. -/
theorem exchanges_append (authorizer : Authorizer) (state : RunState) (before after : List Step) :
    authorizer.exchanges state (before ++ after) =
      authorizer.exchanges state before ++
        authorizer.exchanges (authorizer.stateAfter state before) after := by
  induction before generalizing state with
  | nil => rfl
  | cons step rest ih => rw [List.cons_append, exchanges, exchanges, ih, List.append_assoc, stateAfter]

/-- A run gives one result for each step. -/
theorem length_run (authorizer : Authorizer) (state : RunState) (steps : List Step) :
    (authorizer.run state steps).length = steps.length := by
  induction steps generalizing state with
  | nil => rfl
  | cons step rest ih => simp [run, ih]

end Authorizer

/-- The steps that ask a source for a token. -/
def Step.AsksToken : Step → Prop
  | .token | .authorize _ => True
  | _ => False

/-- What a step that asks for a token gives shows the token: itself, or set as a header field. -/
def StepResult.Shows (token : AccessToken) : Step → StepResult → Prop
  | .token, .token given _ => given = token
  | .authorize fields, .headers authorized => authorized = fields.setBearer token.token.display
  | _, _ => False

/-- A step that asks for a token is one call: it shows the token of the call or fails with its error,
and otherwise leaves and does what the call does. -/
theorem step_of_asksToken (source : ClientSource) (state : RunState) {call : Step}
    (hcall : call.AsksToken) :
    (∃ token value given, (source.token state.cache state.supply).1 = .ok token ∧
      StepResult.Shows token call value ∧
      (Authorizer.client source).step state call =
        (.ok value, ⟨(source.token state.cache state.supply).2.1,
          (source.token state.cache state.supply).2.2.1, given⟩,
          (source.token state.cache state.supply).2.2.2)) ∨
    (∃ error, (source.token state.cache state.supply).1 = .error error ∧
      (Authorizer.client source).step state call =
        (.error error, ⟨(source.token state.cache state.supply).2.1,
          (source.token state.cache state.supply).2.2.1, state.lastGiven⟩,
          (source.token state.cache state.supply).2.2.2)) := by
  cases call with
  | token =>
    simp only [Authorizer.step, Authorizer.tokenStep, Authorizer.token]
    rcases source.token state.cache state.supply with ⟨error | token, cache, supply, trace⟩
    · exact .inr ⟨error, rfl, rfl⟩
    · exact .inl ⟨token, .token token _, _, rfl, rfl, rfl⟩
  | authorize fields =>
    simp only [Authorizer.step, Authorizer.authorizeStep, Authorizer.token]
    rcases source.token state.cache state.supply with ⟨error | token, cache, supply, trace⟩
    · exact .inr ⟨error, rfl, rfl⟩
    · exact .inl ⟨token, .headers _, _, rfl, rfl, rfl⟩
  | _ => exact hcall.elim

namespace Authorizer

variable {source : ClientSource}

/-- A step that asks for a token does what the call does. -/
theorem trace_step_of_asksToken (state : RunState) (call : Step) (hcall : call.AsksToken) :
    ((client source).step state call).2.2 = (source.token state.cache state.supply).2.2.2 := by
  rcases step_of_asksToken source state hcall with ⟨_, _, _, _, _, hstep⟩ | ⟨_, _, hstep⟩
  · rw [hstep]
  · rw [hstep]

/-- A step that asks for a token leaves the supply that its call leaves. -/
theorem supply_step_of_asksToken (state : RunState) {call : Step} (hcall : call.AsksToken) :
    ((client source).step state call).2.1.supply =
      (source.token state.cache state.supply).2.2.1 := by
  rcases step_of_asksToken source state hcall with ⟨_, _, _, -, -, hstep⟩ | ⟨_, -, hstep⟩
  · rw [hstep]
  · rw [hstep]

/-- A token that is kept and not near its time is given without a request. -/
theorem step_of_reusable? (source : ClientSource) {state : RunState} {call : Step}
    (hcall : call.AsksToken) {token : AccessToken}
    (hkept : ClientSource.reusable? state.cache state.supply.now = some token) :
    ∃ value, ((client source).step state call).1 = .ok value ∧ StepResult.Shows token call value ∧
      ((client source).step state call).2.2.posts = [] := by
  have htoken : source.token state.cache state.supply = _ :=
    ClientSource.TokenCall.token_eq (.reused hkept)
  rcases step_of_asksToken source state hcall with
    ⟨given, value, _, hok, hshows, hstep⟩ | ⟨error, herror, -⟩
  · rw [htoken] at hok hstep
    cases hok
    exact ⟨value, congrArg Prod.fst hstep, hshows, congrArg (fun s => s.2.2.posts) hstep⟩
  · rw [htoken] at herror
    contradiction

/-- A token that is given without a request is one that was kept, and not near its time. -/
theorem reusable?_of_posts_eq_nil {state : RunState} {call : Step} (hcall : call.AsksToken)
    {value : StepResult} (hvalue : ((client source).step state call).1 = .ok value)
    (hposts : ((client source).step state call).2.2.posts = []) :
    ∃ token, ClientSource.reusable? state.cache state.supply.now = some token ∧
      StepResult.Shows token call value := by
  rw [trace_step_of_asksToken state call hcall] at hposts
  rcases step_of_asksToken source state hcall with
    ⟨token, given, _, hok, hshows, hstep⟩ | ⟨error, -, hstep⟩
  · rw [hstep] at hvalue
    cases hvalue
    rcases source.posts_token_of_ok hok with ⟨-, hkept⟩ | ⟨form, hpost, -⟩
    · exact ⟨token, hkept, hshows⟩
    · cases hpost.symm.trans hposts
  · rw [hstep] at hvalue
    contradiction

/-- What a call with an exchange gives is what the outcome of the exchange is read as. -/
theorem step_of_exchangesOf_eq {state : RunState} {call : Step} (hcall : call.AsksToken)
    {exchange : Exchange}
    (hone : exchangesOf state ((client source).step state call).2.2 = [exchange]) :
    (∃ token value, exchange.Issues token ∧ ((client source).step state call).1 = .ok value ∧
      StepResult.Shows token call value) ∨
    ∃ error, ClientSource.readOutcome source.request.tokenUrl exchange.outcome exchange.now =
        .error error ∧ ((client source).step state call).1 = .error error := by
  rw [exchangesOf, trace_step_of_asksToken state call hcall] at hone
  rcases step_of_asksToken source state hcall with
    ⟨token, value, _, hok, hshows, hstep⟩ | ⟨error, herror, hstep⟩
  · rcases source.posts_token_of_ok hok with ⟨hnone, -⟩ | ⟨form, hpost, hissues⟩
    · rw [hnone] at hone
      contradiction
    · rw [hpost] at hone
      cases hone
      exact .inl ⟨token, value, hissues, congrArg Prod.fst hstep, hshows⟩
  · rcases source.posts_token_of_error herror with hnone | hread
    · rw [hnone] at hone
      contradiction
    · obtain ⟨post, -, rfl⟩ := List.mem_map.mp (hone ▸ List.mem_singleton_self exchange)
      exact .inr ⟨error, hread, congrArg Prod.fst hstep⟩

/-- A step that asks for no token sends nothing. -/
theorem posts_step_of_not_asksToken (state : RunState) {step : Step} (hstep : ¬ step.AsksToken) :
    ((client source).step state step).2.2.posts = [] := by
  cases step with
  | token => exact absurd trivial hstep
  | authorize fields => exact absurd trivial hstep
  | close =>
    -- Closing a session is all that closing the source does.
    rw [Authorizer.step, ClientSource.closing]
    split <;> rfl
  | _ => rfl

/-- A step sends nothing, or it is a call that is due and has one exchange. -/
theorem exchangesOf_step (source : ClientSource) (state : RunState) (step : Step) :
    exchangesOf state ((client source).step state step).2.2 = [] ∨
      step.AsksToken ∧ ClientSource.reusable? state.cache state.supply.now = none ∧
        ∃ post, exchangesOf state ((client source).step state step).2.2 =
          [⟨post, state.supply.response, state.supply.now⟩] := by
  by_cases hcall : step.AsksToken
  · have hway := source.tokenCall_token state.cache state.supply
    rw [trace_step_of_asksToken state step hcall]
    generalize source.token state.cache state.supply = result at hway ⊢
    cases hway with
    | reused hkept => exact .inl rfl
    | unnamed hdue hname => exact .inl rfl
    | unsent hdue hname hform => exact .inl rfl
    | refused hdue hname hform hread => exact .inr ⟨hcall, hdue, _, rfl⟩
    | issued hdue hname hform hread => exact .inr ⟨hcall, hdue, _, rfl⟩
  · rw [exchangesOf, posts_step_of_not_asksToken state hcall]
    exact .inl rfl

/-- Every exchange of a run is the one exchange of a call that was due, and those before it are the
exchanges of the run up to the call. -/
theorem call_of_exchanges_eq {state : RunState} {steps : List Step} {earlier later : List Exchange}
    {exchange : Exchange}
    (hsplit : (client source).exchanges state steps = earlier ++ exchange :: later) :
    ∃ before call after, steps = before ++ call :: after ∧
      (client source).exchanges state before = earlier ∧ call.AsksToken ∧
      let reached := (client source).stateAfter state before
      ClientSource.reusable? reached.cache reached.supply.now = none ∧
        exchange.outcome = reached.supply.response ∧ exchange.now = reached.supply.now ∧
        exchangesOf reached ((client source).step reached call).2.2 = [exchange] := by
  induction steps generalizing state earlier with
  | nil => cases earlier <;> cases hsplit
  | cons step rest ih =>
    rw [exchanges] at hsplit
    rcases exchangesOf_step source state step with hnone | ⟨hcall, hdue, post, hone⟩
    · rw [hnone, List.nil_append] at hsplit
      obtain ⟨before, call, after, rfl, rfl, hfound⟩ := ih hsplit
      exact ⟨step :: before, call, after, rfl, by rw [exchanges, hnone, List.nil_append], hfound⟩
    · rw [hone, List.singleton_append] at hsplit
      cases earlier with
      | nil =>
        cases (List.cons.inj hsplit).1
        exact ⟨[], step, rest, rfl, rfl, hcall, hdue, rfl, rfl, hone⟩
      | cons first others =>
        obtain ⟨rfl, hrest⟩ := List.cons.inj hsplit
        obtain ⟨before, call, after, rfl, rfl, hfound⟩ := ih hrest
        exact ⟨step :: before, call, after, rfl, by rw [exchanges, hone, List.singleton_append],
          hfound⟩

/-- What one step of a run sends is the form of the source. -/
theorem form_of_mem_posts_step {state : RunState} {step : Step} {post : Post}
    (hpost : post ∈ ((client source).step state step).2.2.posts) :
    ∃ form, (source.form state.supply).1 = .ok form ∧ post = source.postOf form := by
  by_cases hcall : step.AsksToken
  · rw [trace_step_of_asksToken state step hcall] at hpost
    exact source.form_of_mem_posts hpost
  · rw [posts_step_of_not_asksToken state hcall] at hpost
    contradiction

/-- Every exchange of a run sends the form that the source makes at some point of the run. -/
theorem form_of_mem_exchanges {state : RunState} {steps : List Step} {exchange : Exchange}
    (hexchange : exchange ∈ (client source).exchanges state steps) :
    ∃ supply form, (source.form supply).1 = .ok form ∧ exchange.post = source.postOf form := by
  induction steps generalizing state with
  | nil => cases hexchange
  | cons step rest ih =>
    rcases List.mem_append.mp hexchange with hexchange | hexchange
    · obtain ⟨post, hpost, rfl⟩ := List.mem_map.mp hexchange
      exact ⟨state.supply, form_of_mem_posts_step hpost⟩
    · exact ih hexchange

end Authorizer

end CloudAuth
