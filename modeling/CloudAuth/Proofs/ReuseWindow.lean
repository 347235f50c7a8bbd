import CloudAuth.Proofs.Lifetime
import CloudAuth.Proofs.TokenReuse

/-!
# How long a token is given again, and how far requests are apart

A token for a span of seconds is given again until five minutes before its time, and from then on not.
The next request after it is made no earlier, so requests for tokens of the same span are apart, and a
run cannot make many of them however often it asks.

The second in which a token is issued counts as a whole, so the bound on the distance is short of the span
by that second as well as by the margin.
-/

namespace CloudAuth

/-- The time that a step sets the clock to, if it does. -/
def Step.time? : Step → Option Rat
  | .clock now => some now
  | _ => none

/-- From a time on, the steps never set the clock back. -/
def Step.GoForward (now : Rat) (steps : List Step) : Prop :=
  (now :: steps.filterMap Step.time?).Pairwise (· ≤ ·)

/-- Steps go forward when the first does and the others do from the time after it. -/
theorem Step.goForward_cons_iff {now : Rat} {step : Step} {rest : List Step} :
    GoForward now (step :: rest) ↔
      now ≤ step.time?.getD now ∧ GoForward (step.time?.getD now) rest := by
  unfold GoForward
  cases htime : step.time? with
  | none =>
    rw [List.filterMap_cons_none htime, Option.getD_none]
    exact (and_iff_right le_rfl).symm
  | some later =>
    rw [List.filterMap_cons_some htime, Option.getD_some]
    exact List.pairwise_cons_cons_iff_of_trans

/-- Whether steps go forward can be decided. -/
instance (now : Rat) (steps : List Step) : Decidable (Step.GoForward now steps) :=
  inferInstanceAs (Decidable (List.Pairwise _ _))

/-- An exchange issues a token for a span of `n` seconds, at a time that is not negative. -/
structure Exchange.IssuesFor (exchange : Exchange) (token : AccessToken) (n : Int) : Prop where
  /-- The token is issued. -/
  issues : exchange.Issues token
  /-- The span is named. -/
  span : exchange.outcome.NamesSpan n
  /-- The time is not negative. -/
  nonneg : 0 ≤ exchange.now

/-- The token expires so many seconds after the second of the exchange. -/
theorem Exchange.IssuesFor.expiresOn_eq {exchange : Exchange} {token : AccessToken} {n : Int}
    (hissues : exchange.IssuesFor token n) : token.expiresOn = ⌊exchange.now⌋ + n := by
  rw [hissues.issues.expiresOn_eq hissues.span, wholeSeconds_of_nonneg hissues.nonneg]

namespace Authorizer

variable {source : ClientSource}

/-- A step leaves the clock as it is, unless it sets it. -/
theorem now_step (source : ClientSource) (state : RunState) (step : Step) :
    ((client source).step state step).2.1.supply.now = step.time?.getD state.supply.now := by
  by_cases hcall : step.AsksToken
  · have htime : step.time? = none := by
      cases step <;> first | rfl | exact hcall.elim
    have hway := source.tokenCall_token state.cache state.supply
    rw [supply_step_of_asksToken state hcall, htime, Option.getD_none]
    generalize source.token state.cache state.supply = result at hway ⊢
    cases hway with
    | reused hkept => rfl
    | unnamed hdue hname => rfl
    | unsent hdue hname hform => exact source.form_now _
    | refused hdue hname hform hread => exact source.form_now _
    | issued hdue hname hform hread => exact source.form_now _
  · cases step with
    | token => exact absurd trivial hcall
    | authorize fields => exact absurd trivial hcall
    | form => exact source.form_now _
    | _ => rfl

/-- If the clock is never set back, the times of the exchanges of a run are in order, from its start to
its end. -/
theorem pairwise_times (source : ClientSource) (state : RunState) {steps : List Step}
    (hforward : Step.GoForward state.supply.now steps) :
    (state.supply.now :: (((client source).exchanges state steps).map Exchange.now ++
      [((client source).stateAfter state steps).supply.now])).Pairwise (· ≤ ·) := by
  induction steps generalizing state with
  | nil => simp [exchanges, stateAfter]
  | cons step rest ih =>
    obtain ⟨hstep, hrest⟩ := Step.goForward_cons_iff.mp hforward
    rw [← now_step source state step] at hstep hrest
    have hlater := List.pairwise_cons.mp (ih _ hrest)
    -- Nothing later is before the next step, and so not before this one either.
    have hfrom := fun time htime => hstep.trans (hlater.1 time htime)
    rw [exchanges, stateAfter, List.map_append, List.append_assoc]
    rcases exchangesOf_step source state step with hnone | ⟨-, -, post, hone⟩
    · rw [hnone]
      exact List.pairwise_cons.mpr ⟨hfrom, hlater.2⟩
    · rw [hone]
      exact List.pairwise_cons_cons_iff_of_trans.mpr ⟨le_rfl, List.pairwise_cons.mpr ⟨hfrom, hlater.2⟩⟩

/-- If the clock is never set back, every exchange of a run lies between its start and its end. -/
theorem now_mem_of_mem_exchanges {state : RunState} {steps : List Step}
    (hforward : Step.GoForward state.supply.now steps) {exchange : Exchange}
    (hexchange : exchange ∈ (client source).exchanges state steps) :
    state.supply.now ≤ exchange.now ∧
      exchange.now ≤ ((client source).stateAfter state steps).supply.now := by
  obtain ⟨hstart, htimes⟩ := List.pairwise_cons.mp (pairwise_times source state hforward)
  have hmem : exchange.now ∈ ((client source).exchanges state steps).map Exchange.now :=
    List.mem_map_of_mem hexchange
  exact ⟨hstart _ (List.mem_append_left _ hmem),
    (List.pairwise_append.mp htimes).2.2 _ hmem _ (List.mem_singleton_self _)⟩

/-- A run sends its next request when the token that was issued last is near its time, and not before. -/
theorem due_of_exchanges_eq {supply : Supply} {steps : List Step} {earlier later : List Exchange}
    {next : Exchange} {token : AccessToken}
    (hsplit : (client source).exchanges (.start supply) steps = earlier ++ next :: later)
    (hlast : LastIssued earlier token) : ((token.expiresOn - 300 : Int) : Rat) ≤ next.now := by
  obtain ⟨before, call, after, rfl, rfl, hcall, hdue, -, hnow, -⟩ := call_of_exchanges_eq hsplit
  rw [hnow]
  by_contra hearly
  have hkept := (ClientSource.reusable?_eq_some_iff _ _ _).mpr
    ⟨(keepsLastIssued_start source supply before token).mpr hlast, not_le.mp hearly⟩
  cases hdue.symm.trans hkept

/-- A call gives a token without a request. -/
def GivesAgain (authorizer : Authorizer) (state : RunState) (call : Step) (value : StepResult) : Prop :=
  (authorizer.step state call).1 = .ok value ∧ (authorizer.step state call).2.2.posts = []

/-- The token that was issued last is given again until five minutes before its time, and no other is. -/
theorem givesAgain_iff (source : ClientSource) {supply : Supply} {steps : List Step}
    {token : AccessToken} (hlast : LastIssued ((client source).exchanges (.start supply) steps) token)
    {call : Step} (hcall : call.AsksToken) :
    let state := (client source).stateAfter (.start supply) steps
    ((∃ value, (client source).GivesAgain state call value) ↔
      state.supply.now < ((token.expiresOn - 300 : Int) : Rat)) ∧
    ∀ value, (client source).GivesAgain state call value → StepResult.Shows token call value := by
  intro state
  have hcache := keepsLastIssued_start source supply steps token
  -- What is kept is the token that was issued last.
  have hkept : ∀ value, (client source).GivesAgain state call value →
      ClientSource.reusable? state.cache state.supply.now = some token ∧
        StepResult.Shows token call value := by
    rintro value ⟨hvalue, hposts⟩
    obtain ⟨other, hother, hshows⟩ := reusable?_of_posts_eq_nil hcall hvalue hposts
    have hsame := ((ClientSource.reusable?_eq_some_iff _ _ _).mp hother).1.symm.trans (hcache.mpr hlast)
    cases hsame
    exact ⟨hother, hshows⟩
  refine ⟨⟨?_, fun hearly => ?_⟩, fun value hvalue => (hkept value hvalue).2⟩
  · rintro ⟨value, hvalue⟩
    exact ((ClientSource.reusable?_eq_some_iff _ _ _).mp (hkept value hvalue).1).2
  · obtain ⟨value, hvalue, -, hposts⟩ := step_of_reusable? source hcall
      ((ClientSource.reusable?_eq_some_iff _ _ _).mpr ⟨hcache.mpr hlast, hearly⟩)
    exact ⟨value, hvalue, hposts⟩

/-- After a token for a span, the next request is made when the token is not given again any more. -/
theorem apart_of_exchanges_eq {supply : Supply} {steps : List Step} {n : Int} {token : AccessToken}
    {earlier failed later : List Exchange} {exchange next : Exchange}
    (hsplit : (client source).exchanges (.start supply) steps =
      earlier ++ exchange :: (failed ++ next :: later))
    (hissues : exchange.IssuesFor token n) (hfailed : ∀ other ∈ failed, ∀ t, ¬ other.Issues t) :
    ((⌊exchange.now⌋ + n - 300 : Int) : Rat) ≤ next.now ∧
      ((n - 301 : Int) : Rat) < next.now - exchange.now := by
  have hdue : ((token.expiresOn - 300 : Int) : Rat) ≤ next.now := by
    rw [← List.cons_append, ← List.append_assoc] at hsplit
    exact due_of_exchanges_eq hsplit ⟨earlier, exchange, failed, rfl, hissues.issues, hfailed⟩
  rw [hissues.expiresOn_eq] at hdue
  refine ⟨hdue, ?_⟩
  have hsecond := Int.lt_floor_add_one exchange.now
  push_cast at hdue ⊢
  linarith

section Spacing

variable {supply : Supply} {steps : List Step} {n : Int}
  (hforward : Step.GoForward supply.now steps)
  (hissues : ∀ exchange ∈ (client source).exchanges (.start supply) steps,
    ∃ token, exchange.IssuesFor token n)

include hforward hissues

/-- If every exchange of a run issues a token for the same span, each is at least so much later than the
one before. -/
theorem le_now_getElem_exchanges (k : Nat)
    (hk : k < ((client source).exchanges (.start supply) steps).length) :
    supply.now + k * ((n - 301 : Int) : Rat) ≤
      ((client source).exchanges (.start supply) steps)[k].now := by
  induction k with
  | zero =>
    rw [Nat.cast_zero, zero_mul, add_zero]
    exact (now_mem_of_mem_exchanges hforward (List.getElem_mem hk)).1
  | succ k ih =>
    have hprevious := ih (Nat.lt_of_succ_lt hk)
    obtain ⟨token, htoken⟩ := hissues _ (List.getElem_mem (Nat.lt_of_succ_lt hk))
    generalize hhistory : (client source).exchanges (.start supply) steps = history at *
    have hsplit : history = history.take k ++ history[k] :: ([] ++ history[k + 1] ::
        history.drop (k + 2)) := by
      rw [List.nil_append, ← List.drop_eq_getElem_cons, ← List.drop_eq_getElem_cons,
        List.take_append_drop]
    have hapart := (apart_of_exchanges_eq (hhistory.trans hsplit) htoken (by simp)).2
    rw [Nat.cast_succ]
    linarith

/-- A run in which every exchange issues a token for the same span, longer than the margin, has few
exchanges for its length. -/
theorem length_exchanges_le (hspan : 301 < n) :
    (((client source).exchanges (.start supply) steps).length : Rat) ≤
      1 + (((client source).stateAfter (.start supply) steps).supply.now - supply.now) /
        ((n - 301 : Int) : Rat) := by
  have hpositive : 0 < ((n - 301 : Int) : Rat) := by exact_mod_cast Int.sub_pos.mpr hspan
  have htimes : supply.now ≤ ((client source).stateAfter (.start supply) steps).supply.now :=
    (List.pairwise_cons.mp (pairwise_times source (.start supply) hforward)).1 _
      (List.mem_append_right _ (List.mem_singleton_self _))
  rcases hlength : ((client source).exchanges (.start supply) steps).length with _ | last
  · rw [Nat.cast_zero]
    exact add_nonneg zero_le_one (div_nonneg (sub_nonneg.mpr htimes) hpositive.le)
  · have hk : last < ((client source).exchanges (.start supply) steps).length :=
      hlength.symm ▸ Nat.lt_succ_self last
    have hlast := le_now_getElem_exchanges hforward hissues last hk
    have hend := (now_mem_of_mem_exchanges hforward (List.getElem_mem hk)).2
    rw [Nat.cast_succ, add_comm, add_le_add_iff_left, le_div_iff₀ hpositive]
    linarith

end Spacing

end Authorizer

/-- In every run of a new source, a token that was issued for `n` seconds from a time on is given again
exactly until the clock shows the second of that time and `n - 300` more. If the clock is never set back,
a token for 300 seconds or less is thus never given again. The next request after it is made no earlier
than that, and so more than `n - 301` seconds later. So if the clock is never set back, every call gives a
token and every token is for the same `n` seconds, more than 301, the run makes one request and at most
one more for each `n - 301` seconds that it lasts. -/
theorem reuse_window (source : ClientSource) (supply : Supply) (steps : List Step) :
    let authorizer := Authorizer.client source
    let state := authorizer.stateAfter (.start supply) steps
    let history := authorizer.exchanges (.start supply) steps
    (∀ earlier exchange failed token n call, history = earlier ++ exchange :: failed →
      exchange.IssuesFor token n → (∀ other ∈ failed, ∀ t, ¬ other.Issues t) → call.AsksToken →
        ((∃ value, authorizer.GivesAgain state call value) ↔
          state.supply.now < ((⌊exchange.now⌋ + n - 300 : Int) : Rat)) ∧
        (∀ value, authorizer.GivesAgain state call value → StepResult.Shows token call value) ∧
        (Step.GoForward supply.now steps → n ≤ 300 →
          ∀ value, ¬ authorizer.GivesAgain state call value)) ∧
    (∀ earlier exchange failed next later token n,
      history = earlier ++ exchange :: (failed ++ next :: later) → exchange.IssuesFor token n →
      (∀ other ∈ failed, ∀ t, ¬ other.Issues t) →
        ((⌊exchange.now⌋ + n - 300 : Int) : Rat) ≤ next.now ∧
        ((n - 301 : Int) : Rat) < next.now - exchange.now) ∧
    ∀ n : Int, Step.GoForward supply.now steps → 0 ≤ supply.now → 301 < n →
      (∀ exchange ∈ history, exchange.outcome.NamesSpan n) →
      (∀ before call after, steps = before ++ call :: after → call.AsksToken →
        ∃ value, (authorizer.step (authorizer.stateAfter (.start supply) before) call).1 = .ok value) →
      (history.length : Rat) ≤ 1 + (state.supply.now - supply.now) / ((n - 301 : Int) : Rat) := by
  intro authorizer state history
  refine ⟨?_, fun _ _ _ _ _ _ _ hsplit => Authorizer.apart_of_exchanges_eq hsplit, ?_⟩
  · intro earlier exchange failed token n call hsplit hissues hfailed hcall
    obtain ⟨hiff, hshows⟩ := Authorizer.givesAgain_iff source
      (⟨earlier, exchange, failed, hsplit, hissues.issues, hfailed⟩ : LastIssued history token) hcall
    rw [hissues.expiresOn_eq] at hiff
    refine ⟨hiff, hshows, fun hforward hshort value hvalue => ?_⟩
    have hearly := hiff.mp ⟨value, hvalue⟩
    have hexchange : exchange ∈ history := by
      rw [hsplit]
      exact List.mem_append_right _ List.mem_cons_self
    have hafter : exchange.now ≤ state.supply.now :=
      (Authorizer.now_mem_of_mem_exchanges hforward hexchange).2
    have hfloor := Int.floor_le exchange.now
    have hspan : ((n : Int) : Rat) ≤ 300 := by exact_mod_cast hshort
    push_cast at hearly
    linarith
  · intro n hforward hstart hspan hnames hgives
    refine Authorizer.length_exchanges_le hforward (fun exchange hexchange => ?_) hspan
    obtain ⟨earlier, later, hsplit⟩ := List.append_of_mem hexchange
    obtain ⟨before, call, after, hsteps, -, hcall, -, -, -, hone⟩ :=
      Authorizer.call_of_exchanges_eq hsplit
    obtain ⟨value, hvalue⟩ := hgives before call after hsteps hcall
    rcases Authorizer.step_of_exchangesOf_eq hcall hone with ⟨token, -, hissues, -, -⟩ | ⟨error, -, herror⟩
    · exact ⟨token, hissues, hnames exchange hexchange,
        hstart.trans (Authorizer.now_mem_of_mem_exchanges hforward hexchange).1⟩
    · rw [herror] at hvalue
      contradiction

/-- A supply with two answers, from one and a half seconds on. -/
def hourlySupply : Supply where
  now := 3 / 2
  identifiers _ := "identifier"
  responses := List.replicate 2 (.response sampleResponse)
  replies := []

/-- The response names the span of an hour, and issues its token at any time. -/
theorem sampleResponse_issuesFor {now : Rat} (hnow : 0 ≤ now) (post : Post) :
    Exchange.IssuesFor ⟨post, .response sampleResponse, now⟩
      ⟨.ofString "a", wholeSeconds now + 3600⟩ 3600 :=
  ⟨.response (by decide) sampleResponse_payload rfl rfl rfl,
    ⟨sampleResponse, rfl, .named _ sampleResponse_payload nofun (.int 3600)⟩, hnow⟩

/-- A call that is due obtains the token. -/
theorem step_sampleSource (state : RunState) {second : Int}
    (hdue : ClientSource.reusable? state.cache state.supply.now = none)
    (hresponse : state.supply.response = .response sampleResponse) (hnow : 0 ≤ state.supply.now)
    (hsecond : wholeSeconds state.supply.now = second) :
    ∃ value, (Authorizer.client sampleSource).step state .token =
      (.ok value, ⟨⟨some ⟨.ofString "a", second + 3600⟩, state.cache.obtained + 1⟩,
          state.supply.afterResponse, some (state.cache.obtained + 1)⟩,
        [sampleSource.exchangeRecord "secret", .post (sampleSource.postOf sampleForm)]) := by
  have hissues := (sampleResponse_issuesFor hnow (sampleSource.postOf sampleForm)).issues
  rw [Exchange.Issues, hsecond, ← hresponse,
    ← ClientSource.readOutcome_eq_ok_iff sampleSource.request.tokenUrl] at hissues
  have htoken : sampleSource.token state.cache state.supply = _ :=
    ClientSource.TokenCall.token_eq (.issued hdue rfl rfl hissues)
  rw [Authorizer.step, Authorizer.tokenStep, Authorizer.token, htoken]
  exact ⟨_, rfl⟩

/-- An exchange of the source at a time. -/
def hourlyExchange (now : Rat) : Exchange :=
  ⟨sampleSource.postOf sampleForm, .response sampleResponse, now⟩

/-- The state of the source at a time, once its first token is issued. -/
def hourlyState (now : Rat) : RunState :=
  ⟨⟨some ⟨.ofString "a", 3601⟩, 1⟩, hourlySupply.afterResponse.setClock now, some 1⟩

/-- The first token is issued in the second `1`. -/
theorem hourlyExchange_issuesFor : (hourlyExchange (3 / 2)).IssuesFor ⟨.ofString "a", 3601⟩ 3600 := by
  have hsecond : wholeSeconds (3 / 2) = 1 := by decide +kernel
  have hissued := sampleResponse_issuesFor (by norm_num : (0 : Rat) ≤ 3 / 2)
    (sampleSource.postOf sampleForm)
  rw [hsecond] at hissued
  exact hissued

/-- The first call of a run obtains a token in one exchange, and the clock can be set to any time then. -/
theorem first_hourlyCall :
    (∃ value, ((Authorizer.client sampleSource).step (.start hourlySupply) .token).1 = .ok value) ∧
      ∀ now, (Authorizer.client sampleSource).stateAfter (.start hourlySupply) [.token, .clock now] =
          hourlyState now ∧
        (Authorizer.client sampleSource).exchanges (.start hourlySupply) [.token, .clock now] =
          [hourlyExchange (3 / 2)] := by
  obtain ⟨value, hstep⟩ := step_sampleSource (.start hourlySupply) rfl rfl (by decide +kernel)
    (by decide +kernel : wholeSeconds (3 / 2) = 1)
  refine ⟨⟨value, congrArg Prod.fst hstep⟩, fun now => ⟨?_, ?_⟩⟩
  · rw [Authorizer.stateAfter, hstep]
    rfl
  · rw [Authorizer.exchanges, hstep]
    rfl

/-- In the second `3301` the next call obtains a token in one exchange. -/
theorem next_hourlyCall :
    (∃ value, ((Authorizer.client sampleSource).step (hourlyState 3301) .token).1 = .ok value) ∧
      ((Authorizer.client sampleSource).stateAfter (hourlyState 3301) [.token]).supply.now = 3301 ∧
      (Authorizer.client sampleSource).exchanges (hourlyState 3301) [.token] = [hourlyExchange 3301] := by
  obtain ⟨value, hstep⟩ := step_sampleSource (hourlyState 3301) (by decide +kernel) rfl
    (by decide +kernel) rfl
  refine ⟨⟨value, congrArg Prod.fst hstep⟩, ?_, ?_⟩
  · rw [Authorizer.stateAfter, hstep]
    rfl
  · rw [Authorizer.exchanges, hstep]
    rfl

/-- A token for an hour that was issued in the second `1` is given again until the second `3301`. A run
from then to there makes two requests, and no more can be made in its time. -/
theorem sampleSource_refreshes_at_window_end :
    let authorizer := Authorizer.client sampleSource
    (hourlyExchange (3 / 2)).IssuesFor ⟨.ofString "a", 3601⟩ 3600 ∧
      Step.GoForward hourlySupply.now [.token, .clock 3301, .token] ∧
      (∃ value, authorizer.GivesAgain
        (authorizer.stateAfter (.start hourlySupply) [.token, .clock (3301 - 1 / 10)]) .token value) ∧
      (¬ ∃ value, authorizer.GivesAgain
        (authorizer.stateAfter (.start hourlySupply) [.token, .clock 3301]) .token value) ∧
      authorizer.exchanges (.start hourlySupply) [.token, .clock 3301, .token] =
        [hourlyExchange (3 / 2), hourlyExchange 3301] ∧
      ((authorizer.exchanges (.start hourlySupply) [.token, .clock 3301, .token]).length : Rat) ≤
        1 + (3301 - 3 / 2) / 3299 := by
  intro authorizer
  obtain ⟨⟨value, hvalue⟩, hfirst⟩ := first_hourlyCall
  obtain ⟨⟨other, hother⟩, hend, hnext⟩ := next_hourlyCall
  have hissues := hourlyExchange_issuesFor
  have hforward : Step.GoForward hourlySupply.now [.token, .clock 3301, .token] := by
    decide +kernel
  have hwindow (now : Rat) : (∃ value, authorizer.GivesAgain
      (authorizer.stateAfter (.start hourlySupply) [.token, .clock now]) .token value) ↔ now < 3301 := by
    have hiff := ((reuse_window sampleSource hourlySupply [.token, .clock now]).1 [] _ [] _ 3600
      .token (hfirst now).2 hissues nofun trivial).1
    have hnow : (authorizer.stateAfter (.start hourlySupply) [.token, .clock now]).supply.now = now := rfl
    have hclose : ((⌊(hourlyExchange (3 / 2)).now⌋ + 3600 - 300 : Int) : Rat) = 3301 := by
      rw [← hissues.expiresOn_eq]
      norm_num
    exact hiff.trans (by rw [hclose, hnow])
  have hsteps : [Step.token, .clock 3301, .token] = [.token, .clock 3301] ++ [.token] := rfl
  have hboth : authorizer.exchanges (.start hourlySupply) [.token, .clock 3301, .token] =
      [hourlyExchange (3 / 2), hourlyExchange 3301] := by
    rw [hsteps, Authorizer.exchanges_append, (hfirst 3301).1, (hfirst 3301).2, hnext]
    rfl
  have hgives : ∀ before call after, [.token, .clock 3301, .token] = before ++ call :: after →
      call.AsksToken → ∃ value,
        (authorizer.step (authorizer.stateAfter (.start hourlySupply) before) call).1 = .ok value := by
    rintro (_ | ⟨one, _ | ⟨two, _ | ⟨three, rest⟩⟩⟩) call after hsplit hcall
    · cases hsplit
      exact ⟨value, hvalue⟩
    · cases hsplit
      exact hcall.elim
    · cases hsplit
      exact ⟨other, by rw [(hfirst 3301).1, hother]⟩
    · simp at hsplit
  have hcount := (reuse_window sampleSource hourlySupply [.token, .clock 3301, .token]).2.2 3600 hforward
    (by decide +kernel) (by norm_num) (by
      rw [hboth]
      simp only [List.forall_mem_cons]
      exact ⟨hissues.span, hissues.span, nofun⟩) hgives
  refine ⟨hissues, hforward, (hwindow _).mpr (by norm_num), fun h => lt_irrefl _ ((hwindow _).mp h),
    hboth, hcount.trans_eq ?_⟩
  rw [hsteps, Authorizer.stateAfter_append, (hfirst 3301).1, hend]
  norm_num [hourlySupply]

end CloudAuth
