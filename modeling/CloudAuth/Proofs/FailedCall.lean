import CloudAuth.Proofs.TokenReuse
import CloudAuth.Proofs.Usage

/-!
# Failed calls leave no trace

A call for a token that fails keeps nothing but what it used up. Take the call out of the run, and the
outcome and the identifier that it used out of the streams: every other step then gives what it gave
before, with the same requests and the same records.
-/

namespace CloudAuth

/-- A call that fails leaves the cache as it was. -/
theorem token_of_error (source : ClientSource) (cache : TokenCache) (supply : Supply) {error : Error}
    (herror : (source.token cache supply).1 = .error error) :
    (source.token cache supply).2.1 = cache := by
  have hcall := source.tokenCall_token cache supply
  generalize source.token cache supply = call at hcall herror ⊢
  cases hcall with
  | reused hkept => contradiction
  | unnamed hdue hname => rfl
  | unsent hdue hname hform => rfl
  | refused hdue hname hform hread => rfl
  | issued hdue hname hform hread => contradiction

/-- A step that asks for a token uses up what its call does. -/
theorem usage_of_asksToken (source : ClientSource) (state : RunState) {call : Step}
    (hcall : call.AsksToken) :
    source.usage state call = source.callUsage state.cache state.supply := by
  cases call with
  | token => rfl
  | authorize fields => rfl
  | _ => exact hcall.elim

/-- A step whose call fails leaves all as it was but for what it used up. -/
theorem step_of_error (source : ClientSource) (state : RunState) {call : Step} {error : Error}
    (hcall : call.AsksToken)
    (herror : ((Authorizer.client source).step state call).1 = .error error) :
    ((Authorizer.client source).step state call).2.1 =
      { state with supply := state.supply.afterUse (source.usage state call) } := by
  rcases step_of_asksToken source state hcall with
    ⟨token, value, given, -, -, hstep⟩ | ⟨failure, hfailure, hstep⟩
  · rw [hstep] at herror
    contradiction
  · rw [hstep, usage_of_asksToken source state hcall, token_of_error source _ _ hfailure,
      source.token_afterUse]

/-- A source draws at most one identifier for a form. -/
theorem draws_le_one (source : ClientSource) : source.draws ≤ 1 := by
  unfold ClientSource.draws
  split
  · split <;> decide
  · decide

/-- A step that asks for a token uses up at most one outcome and one identifier. -/
theorem usage_le_one (source : ClientSource) (state : RunState) {call : Step} (hcall : call.AsksToken) :
    (source.usage state call).responses ≤ 1 ∧ (source.usage state call).identifiers ≤ 1 := by
  rw [usage_of_asksToken source state hcall]
  have hdraws := draws_le_one source
  have htoken := source.tokenCall_token state.cache state.supply
  unfold ClientSource.callUsage
  generalize source.token state.cache state.supply = result at htoken ⊢
  constructor
  · cases htoken with
    | reused hkept => exact Nat.zero_le 1
    | unnamed hdue hname => exact Nat.zero_le 1
    | unsent hdue hname hform => exact Nat.zero_le 1
    | refused hdue hname hform hread => exact Nat.le_refl 1
    | issued hdue hname hform hread => exact Nat.le_refl 1
  · dsimp only
    split
    · exact Nat.zero_le 1
    · exact hdraws

/-- In every run of a client source, a call that fails leaves the cached token as it was and uses up at
most one outcome and one identifier. The run without the call, on the streams without what the call used
up, gives for every other step the same result, the same requests and the same records. -/
theorem run_eq_without_failed_call (source : ClientSource) (state : RunState)
    (before after : List Step) (call : Step) (error : Error)
    (hbefore : ∀ step ∈ before, step.IsOperation) (hcall : call.AsksToken)
    (herror : ((Authorizer.client source).step
      ((Authorizer.client source).stateAfter state before) call).1 = .error error) :
    let authorizer := Authorizer.client source
    let reached := authorizer.stateAfter state before
    let left := authorizer.stateAfter state (before ++ [call])
    let passed := source.usageOf state before
    let used := source.usage reached call
    left.cache = reached.cache ∧
      (used.responses ≤ 1 ∧ used.identifiers ≤ 1) ∧
      reached.supply = (state.supply.afterUse passed).setClock reached.supply.now ∧
      left.supply = reached.supply.afterUse used ∧
      authorizer.run (state.cut passed used) (before ++ after) =
        (authorizer.run state (before ++ call :: after)).eraseIdx before.length := by
  intro authorizer reached left passed used
  have hnext : (authorizer.step reached call).2.1 =
      { reached with supply := reached.supply.afterUse used } :=
    step_of_error source reached hcall herror
  have hleft : left = { reached with supply := reached.supply.afterUse used } := by
    rw [← hnext]
    exact authorizer.stateAfter_append state before [call]
  refine ⟨by rw [hleft], usage_le_one source reached hcall,
    supply_stateAfter source state hbefore, by rw [hleft], ?_⟩
  -- Up to the call the cut is not noticed; from there on it is what the failed call used up.
  obtain ⟨hrun, hstate⟩ := run_cut source state 0 used hbefore
  rw [Usage.add_zero] at hrun hstate
  have hrest : (authorizer.stateAfter (state.cut passed used) before) =
      (authorizer.step reached call).2.1 := by
    rw [hnext, ← Supply.cut_zero]
    exact hstate
  rw [authorizer.run_append, hrest, authorizer.run_append, Authorizer.run,
    ← authorizer.length_run state before, List.eraseIdx_append_of_length_le (Nat.le_refl _),
    Nat.sub_self, List.eraseIdx_cons_zero]
  exact congrArg (· ++ _) hrun

/-- A refresh that fails can be taken out of a run: the token that is given before it and after it is
the same without it. -/
theorem run_eq_without_failed_refresh :
    (∀ step ∈ [Step.token, .clock 3300], step.IsOperation) ∧ Step.AsksToken .token ∧
      (Authorizer.client sampleSource).run
          ((RunState.start sampleSupply).cut ⟨1, 0⟩ ⟨1, 0⟩) [.token, .clock 3300, .clock 3299, .token] =
        ((Authorizer.client sampleSource).run (.start sampleSupply)
          [.token, .clock 3300, .token, .clock 3299, .token]).eraseIdx 2 := by
  have hoperations : ∀ step ∈ [Step.token, .clock 3300], step.IsOperation := by
    intro step hstep
    simp only [List.mem_cons, List.not_mem_nil, or_false] at hstep
    rcases hstep with rfl | rfl <;> trivial
  have hreached : (Authorizer.client sampleSource).stateAfter (.start sampleSupply)
      [.token, .clock 3300] =
        ⟨⟨some ⟨.ofString "a", 3600⟩, 1⟩, sampleSupply.afterResponse.setClock 3300, some 1⟩ := by
    simp only [Authorizer.stateAfter, Authorizer.step, Authorizer.tokenStep, Authorizer.token,
      RunState.start, sampleSource_token]
  obtain ⟨error, herror⟩ : ∃ error, ((Authorizer.client sampleSource).step
      ((Authorizer.client sampleSource).stateAfter (.start sampleSupply) [.token, .clock 3300])
      .token).1 = .error error := by
    rw [hreached]
    exact ⟨_, rfl⟩
  have hpassed : sampleSource.usageOf (.start sampleSupply) [.token, .clock 3300] = ⟨1, 0⟩ := by
    simp only [ClientSource.usageOf, ClientSource.usage, ClientSource.callUsage, RunState.start,
      sampleSource_token]
    rfl
  have hused : sampleSource.usage ((Authorizer.client sampleSource).stateAfter
      (.start sampleSupply) [.token, .clock 3300]) .token = ⟨1, 0⟩ := by
    rw [hreached]
    rfl
  have hrun := (run_eq_without_failed_call sampleSource (.start sampleSupply) [.token, .clock 3300]
    [.clock 3299, .token] .token error hoperations trivial herror).2.2.2.2
  rw [hpassed, hused] at hrun
  exact ⟨hoperations, trivial, hrun⟩

end CloudAuth
