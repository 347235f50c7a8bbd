import CloudAuth.Proofs.Run

/-!
# Tokens are reused safely

The cache of a client source holds exactly the token that was issued last, whatever happened in
between: failed requests, other steps, and a clock that moves either way. So a call gives that token
without a request while its time is not near, and otherwise gives a token that it obtained itself.

The expiry is compared with the clock of the call alone. Nothing is said about the time between calls.
-/

namespace CloudAuth

/-- The cache holds the token that was issued last, and none if none was issued. -/
def TokenCache.KeepsLastIssued (cache : TokenCache) (history : List Exchange) : Prop :=
  ∀ token, cache.token = some token ↔ LastIssued history token

/-- A new source holds no token and has no exchanges behind it. -/
theorem keepsLastIssued_empty : TokenCache.empty.KeepsLastIssued [] := by
  intro token
  simp [TokenCache.empty, not_lastIssued_nil]

/-- A call for a token keeps the cache in step with the exchanges. -/
theorem keepsLastIssued_token (source : ClientSource) (cache : TokenCache) (supply : Supply)
    (history : List Exchange) (hcache : cache.KeepsLastIssued history) :
    (source.token cache supply).2.1.KeepsLastIssued
      (history ++ (source.token cache supply).2.2.2.posts.map
        fun post => ⟨post, supply.response, supply.now⟩) := by
  have hcall := source.tokenCall_token cache supply
  revert hcall
  generalize source.token cache supply = call
  intro hcall
  cases hcall with
  | reused hkept => simpa using hcache
  | unnamed hdue hname => simpa using hcache
  | unsent hdue hname hform => simpa [ClientSource.exchangeRecord] using hcache
  | refused hdue hname hform hread =>
    -- The request is in the history now, but its outcome issues nothing.
    have hnone (token : AccessToken) : ¬ supply.response.Issues supply.now token := by
      rw [← ClientSource.readOutcome_eq_ok_iff source.request.tokenUrl, hread]
      simp
    intro token
    simp only [ClientSource.exchangeRecord, Trace.posts_log, Trace.posts_post, Trace.posts_nil,
      List.map_cons, List.map_nil, lastIssued_concat_iff, Exchange.Issues, hnone, hcache token]
    simp
  | @issued _ _ token hdue hname hform hread =>
    have hissues := (ClientSource.readOutcome_eq_ok_iff _ _ _ _).mp hread
    intro other
    simp only [ClientSource.exchangeRecord, Trace.posts_log, Trace.posts_post, Trace.posts_nil,
      List.map_cons, List.map_nil, lastIssued_concat_iff, Exchange.Issues, Option.some.injEq]
    constructor
    · rintro rfl
      exact .inl hissues
    · rintro (hother | ⟨hnone, -⟩)
      · exact hissues.unique hother
      · exact absurd hissues (hnone token)

/-- Every step keeps the cache in step with the exchanges. -/
theorem keepsLastIssued_step (source : ClientSource) (state : RunState) (step : Step)
    (history : List Exchange) (hcache : state.cache.KeepsLastIssued history) :
    ((Authorizer.client source).step state step).2.1.cache.KeepsLastIssued
      (history ++ Authorizer.exchangesOf state ((Authorizer.client source).step state step).2.2) := by
  have hcall := keepsLastIssued_token source state.cache state.supply history hcache
  cases step with
  | token =>
    rcases @step_of_asksToken source state .token trivial with
      ⟨token, value, given, -, -, hstep⟩ | ⟨error, -, hstep⟩ <;> rw [hstep] <;> exact hcall
  | authorize fields => exact hcall
  | close =>
    have hposts : source.closing.posts = [] := by
      unfold ClientSource.closing
      split <;> rfl
    simpa [Authorizer.step, Authorizer.exchangesOf, hposts] using hcache
  | clock now => simpa [Authorizer.step, Authorizer.exchangesOf] using hcache
  | respond outcome => simpa [Authorizer.step, Authorizer.exchangesOf] using hcache
  | reply outcome => simpa [Authorizer.step, Authorizer.exchangesOf] using hcache
  | form => simpa [Authorizer.step, Authorizer.exchangesOf] using hcache

/-- A whole run keeps the cache in step with the exchanges. -/
theorem keepsLastIssued_run (source : ClientSource) (state : RunState) (steps : List Step)
    (history : List Exchange) (hcache : state.cache.KeepsLastIssued history) :
    ((Authorizer.client source).stateAfter state steps).cache.KeepsLastIssued
      (history ++ (Authorizer.client source).exchanges state steps) := by
  induction steps generalizing state history with
  | nil => simpa [Authorizer.stateAfter, Authorizer.exchanges] using hcache
  | cons step rest ih =>
    have hnext := keepsLastIssued_step source state step history hcache
    rw [Authorizer.exchanges, ← List.append_assoc]
    exact ih _ _ hnext

/-- The cache of a new source is kept in step with the exchanges by a whole run. -/
theorem keepsLastIssued_start (source : ClientSource) (supply : Supply) (steps : List Step) :
    ((Authorizer.client source).stateAfter (.start supply) steps).cache.KeepsLastIssued
      ((Authorizer.client source).exchanges (.start supply) steps) := by
  simpa using keepsLastIssued_run source (.start supply) steps [] keepsLastIssued_empty

/-- In every run of a new source, a call that gives a token either gives the token that was issued last,
without a request and while its time is not near, or the one that the single request of the call
obtained. A token that was issued last is given as long as its time is not near, without a request. -/
theorem token_reused_or_exchanged (source : ClientSource) (supply : Supply) (steps : List Step)
    (call : Step) (hcall : call.AsksToken) :
    let authorizer := Authorizer.client source
    let state := authorizer.stateAfter (.start supply) steps
    let history := authorizer.exchanges (.start supply) steps
    let result := (authorizer.step state call).1
    let posts := (authorizer.step state call).2.2.posts
    (∀ value, result = .ok value → ∃ token, StepResult.Shows token call value ∧
      (posts = [] ∧ LastIssued history token ∧
          state.supply.now < ((token.expiresOn - 300 : Int) : Rat) ∨
        ∃ form, posts = [⟨source.request.tokenUrl, form, ClientSource.headers⟩] ∧
          state.supply.response.Issues state.supply.now token)) ∧
      ∀ token, LastIssued history token →
        state.supply.now < ((token.expiresOn - 300 : Int) : Rat) →
        ∃ value, result = .ok value ∧ StepResult.Shows token call value ∧ posts = [] := by
  intro authorizer state history result posts
  have hcache : state.cache.KeepsLastIssued history := by
    simpa using keepsLastIssued_run source (.start supply) steps [] keepsLastIssued_empty
  constructor
  · intro value hvalue
    rcases step_of_asksToken source state hcall with
      ⟨token, shown, given, hok, hshows, hstep⟩ | ⟨error, -, hstep⟩
    · have hresult : result = .ok shown := congrArg Prod.fst hstep
      have hposts : posts = (source.token state.cache state.supply).2.2.2.posts :=
        congrArg (fun s => s.2.2.posts) hstep
      rw [← Except.ok.inj (hresult.symm.trans hvalue), hposts]
      refine ⟨token, hshows, ?_⟩
      rcases source.posts_token_of_ok hok with ⟨hnone, hkept⟩ | ⟨form, hpost, hissues⟩
      · obtain ⟨hlast, hfresh⟩ := (ClientSource.reusable?_eq_some_iff _ _ _).mp hkept
        exact .inl ⟨hnone, (hcache token).mp hlast, hfresh⟩
      · exact .inr ⟨form, hpost, hissues⟩
    · have hresult : result = .error error := congrArg Prod.fst hstep
      rw [hresult] at hvalue
      contradiction
  · intro token hlast hfresh
    have hkept : ClientSource.reusable? state.cache state.supply.now = some token :=
      (ClientSource.reusable?_eq_some_iff _ _ _).mpr ⟨(hcache token).mpr hlast, hfresh⟩
    have htoken : source.token state.cache state.supply = (.ok token, state.cache, state.supply, []) :=
      (ClientSource.TokenCall.reused hkept).token_eq
    rcases step_of_asksToken source state hcall with
      ⟨other, value, given, hok, hshows, hstep⟩ | ⟨error, herror, -⟩
    · rw [htoken] at hok hstep
      rw [← Except.ok.inj hok] at hshows
      exact ⟨value, congrArg Prod.fst hstep, hshows, congrArg (fun s => s.2.2.posts) hstep⟩
    · rw [htoken] at herror
      contradiction

/-- A source that authenticates by a secret. -/
def sampleSource : ClientSource where
  request := {
    clientId := "client"
    tokenUrl := "https://login.test/tenant/oauth2/v2.0/token"
    scopes := ["https://graph.test/.default"]
    resource := none
    clientSecret := some "secret"
    privateKey := none
    certificate := none }
  authType := .secret
  ownsSession := true

/-- A response with a token for an hour. -/
def sampleResponse : HttpResponse := okResponse "\x7b\"access_token\":\"a\",\"expires_in\":3600\x7d"

/-- A supply with one answer and one failure, from the time zero on. -/
def sampleSupply : Supply where
  now := 0
  identifiers _ := "identifier"
  responses := [.response sampleResponse, .failure "ConnectionError" "refused"]
  replies := []

/-- The payload of the response is the object that its body spells. -/
theorem sampleResponse_payload : sampleResponse.payload =
    .obj [(Text.ofString "access_token", .ofString "a"), (Text.ofString "expires_in", .int 3600)] := by
  cbv

/-- The form that the source sends. -/
def sampleForm : Form :=
  ClientSource.commonFields sampleSource.request ++ [("client_secret", some (Text.ofString "secret"))]

/-- Steps that obtain a token, fail to refresh it, and turn the clock back. -/
def sampleSteps : List Step := [.token, .clock 3300, .token, .clock 3299]

/-- The response issues its token. -/
theorem sampleResponse_issues :
    (HttpOutcome.response sampleResponse).Issues 0 ⟨.ofString "a", 3600⟩ :=
  .response (by decide) sampleResponse_payload rfl rfl rfl

/-- The first call of the source obtains the token. -/
theorem sampleSource_token : sampleSource.token .empty sampleSupply =
    (.ok ⟨.ofString "a", 3600⟩, ⟨some ⟨.ofString "a", 3600⟩, 1⟩, sampleSupply.afterResponse,
      [sampleSource.exchangeRecord "secret", .post (sampleSource.postOf sampleForm)]) :=
  (ClientSource.TokenCall.issued rfl rfl rfl
    ((ClientSource.readOutcome_eq_ok_iff _ _ _ _).mpr sampleResponse_issues)).token_eq

/-- The token that was issued last is given after a failed refresh, once the clock is turned back. -/
theorem token_reused_after_failed_refresh :
    Step.AsksToken .token ∧
      ∃ value, ((Authorizer.client sampleSource).step
          ((Authorizer.client sampleSource).stateAfter (.start sampleSupply) sampleSteps) .token).1 =
            .ok value ∧ StepResult.Shows ⟨.ofString "a", 3600⟩ .token value := by
  have hexchanges : (Authorizer.client sampleSource).exchanges (.start sampleSupply) sampleSteps =
      [] ++ ⟨sampleSource.postOf sampleForm, .response sampleResponse, 0⟩ ::
        [⟨sampleSource.postOf sampleForm, .failure "ConnectionError" "refused", 3300⟩] := by
    simp only [sampleSteps, Authorizer.exchanges, Authorizer.step, Authorizer.tokenStep,
      Authorizer.token, RunState.start, sampleSource_token]
    rfl
  have hnow : ((Authorizer.client sampleSource).stateAfter (.start sampleSupply)
      sampleSteps).supply.now = 3299 := by
    simp only [sampleSteps, Authorizer.stateAfter, Authorizer.step, Authorizer.tokenStep,
      Authorizer.token, RunState.start, sampleSource_token]
    rfl
  have hlast : LastIssued ((Authorizer.client sampleSource).exchanges (.start sampleSupply)
      sampleSteps) ⟨.ofString "a", 3600⟩ := by
    refine ⟨_, _, _, hexchanges, sampleResponse_issues, fun other hother token hissues => ?_⟩
    rw [List.mem_singleton.mp hother] at hissues
    cases hissues
  obtain ⟨value, hvalue, hshows, -⟩ :=
    (token_reused_or_exchanged sampleSource sampleSupply sampleSteps .token trivial).2 _ hlast
      (by rw [hnow]; decide +kernel)
  exact ⟨trivial, value, hvalue, hshows⟩

end CloudAuth
