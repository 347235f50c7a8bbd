import CloudAuth.Proofs.Run

/-!
# What steps use up

Each step of a client source uses up some outcomes of requests and some identifiers, and sees of these
streams only what it uses. So a part of the streams that lies behind can be cut out, and the step does
not notice: `step_cut` for one step, `run_cut` for a whole run.

Steps that add to the streams are left out here. They are no operations of a source.
-/

namespace CloudAuth

/-- How many outcomes of requests and how many identifiers are used up. -/
structure Usage where
  /-- The count of outcomes. -/
  responses : Nat
  /-- The count of identifiers. -/
  identifiers : Nat
  deriving DecidableEq, Repr

namespace Usage

/-- Nothing is used up. -/
instance : Zero Usage := ⟨⟨0, 0⟩⟩

/-- What is used up one after the other. -/
instance : Add Usage := ⟨fun a b => ⟨a.responses + b.responses, a.identifiers + b.identifiers⟩⟩

/-- What is used up in three parts can be counted from either end. -/
theorem add_assoc (a b c : Usage) : a + b + c = a + (b + c) := by
  change Usage.mk _ _ = Usage.mk _ _
  congr 1 <;> exact Nat.add_assoc _ _ _

/-- Nothing used up does not count. -/
theorem zero_add (a : Usage) : 0 + a = a := by
  change Usage.mk (0 + _) (0 + _) = a
  rw [Nat.zero_add, Nat.zero_add]

/-- Nothing used up afterwards does not count either. -/
theorem add_zero (a : Usage) : a + 0 = a := rfl

end Usage

namespace Supply

/-- The supply once something is used up. -/
def afterUse (supply : Supply) (used : Usage) : Supply :=
  { supply with
    responses := supply.responses.drop used.responses
    identifiers := fun n => supply.identifiers (n + used.identifiers) }

/-- The supply without a part of its streams: of what comes after `start`, as much as `used` is cut
out. -/
def cut (supply : Supply) (start used : Usage) : Supply :=
  { supply with
    responses := supply.responses.take start.responses ++
      supply.responses.drop (start.responses + used.responses)
    identifiers := fun n =>
      supply.identifiers (if n < start.identifiers then n else n + used.identifiers) }

/-- Cutting at the front is the same as using up. -/
theorem cut_zero (supply : Supply) (used : Usage) : supply.cut 0 used = supply.afterUse used := by
  have hresponses : (0 : Usage).responses = 0 := rfl
  have hidentifiers : (0 : Usage).identifiers = 0 := rfl
  simp [cut, afterUse, hresponses, hidentifiers]

/-- Using up twice is using up the sum. -/
theorem afterUse_afterUse (supply : Supply) (first second : Usage) :
    (supply.afterUse first).afterUse second = supply.afterUse (first + second) := by
  unfold afterUse
  simp only [List.drop_drop, Nat.add_assoc, Nat.add_comm second.identifiers]
  rfl

/-- An outcome that is used before the cut is the same with and without it. -/
theorem response_cut (supply : Supply) (k j : Nat) (used : Usage) :
    (supply.cut ⟨k + 1, j⟩ used).response = supply.response := by
  unfold response cut
  cases supply.responses with
  | nil => simp
  | cons outcome rest => rfl

/-- Once an outcome is used, the cut is one outcome nearer. -/
theorem afterResponse_cut (supply : Supply) (k j : Nat) (used : Usage) :
    (supply.cut ⟨k + 1, j⟩ used).afterResponse = supply.afterResponse.cut ⟨k, j⟩ used := by
  unfold afterResponse cut
  cases supply.responses with
  | nil => simp
  | cons outcome rest => simp [Nat.add_right_comm k 1]

/-- An identifier that is drawn before the cut is the same with and without it. -/
theorem identifier_cut (supply : Supply) (k j : Nat) (used : Usage) :
    (supply.cut ⟨k, j + 1⟩ used).identifier = supply.identifier := rfl

/-- Once an identifier is drawn, the cut is one identifier nearer. -/
theorem afterIdentifier_cut (supply : Supply) (k j : Nat) (used : Usage) :
    (supply.cut ⟨k, j + 1⟩ used).afterIdentifier = supply.afterIdentifier.cut ⟨k, j⟩ used := by
  unfold afterIdentifier cut
  simp only [Supply.mk.injEq, true_and, and_true]
  funext n
  by_cases hn : n < j
  · simp [hn]
  · simp only [hn, Nat.add_lt_add_iff_right, if_false]
    congr 1
    omega

end Supply

namespace ClientSource

/-- How many identifiers a form of the source draws: one as soon as its key is read. -/
def draws (source : ClientSource) : Nat :=
  match source.authType with
  | .assertion => if (loadKey source.request.privateKey).isOk then 1 else 0
  | _ => 0

/-- What a call for a token uses up: an outcome for each request, and the identifier of a form unless
the last token is given again. -/
def callUsage (source : ClientSource) (cache : TokenCache) (supply : Supply) : Usage where
  responses := (source.token cache supply).2.2.2.posts.length
  identifiers := if (reusable? cache supply.now).isSome then 0 else source.draws

/-- What a step uses up. -/
def usage (source : ClientSource) (state : RunState) : Step → Usage
  | .token | .authorize _ => source.callUsage state.cache state.supply
  | .form => ⟨0, source.draws⟩
  | _ => 0

/-- What a run uses up. -/
def usageOf (source : ClientSource) : RunState → List Step → Usage
  | _, [] => 0
  | state, step :: rest =>
    source.usage state step + source.usageOf ((Authorizer.client source).step state step).2.1 rest

/-- A form uses up the identifiers that it draws. -/
theorem form_afterUse (source : ClientSource) (supply : Supply) :
    (source.form supply).2 = supply.afterUse ⟨0, source.draws⟩ := by
  unfold form draws
  cases source.authType with
  | assertion =>
    unfold assertion
    cases loadKey source.request.privateKey with
    | error fault => rfl
    | ok key => rfl
  | secret => rfl
  | other v => rfl

/-- A form does not notice a cut behind the identifiers that it draws. -/
theorem form_cut (source : ClientSource) (supply : Supply) (k j : Nat) (used : Usage) :
    source.form (supply.cut ⟨k, source.draws + j⟩ used) =
      ((source.form supply).1, (source.form supply).2.cut ⟨k, j⟩ used) := by
  unfold form draws
  cases source.authType with
  | assertion =>
    unfold assertion
    cases loadKey source.request.privateKey with
    | error fault => simp [Except.isOk, Except.toBool]
    | ok key =>
      simp only [Except.isOk, Except.toBool, if_true, Nat.add_comm 1 j, claims,
        Supply.identifier_cut, Supply.afterIdentifier_cut]
      rfl
  | secret => simp
  | other v => simp

/-- A source whose way to authenticate has no name draws no identifiers. -/
theorem draws_of_unnamed {source : ClientSource} {fault : Fault}
    (hname : authName source.authType = .error fault) : source.draws = 0 := by
  unfold draws
  cases htype : source.authType with
  | assertion => simp [htype, authName] at hname
  | secret => rfl
  | other v => rfl

/-- A call for a token does not notice a cut behind what it uses up. -/
theorem token_cut (source : ClientSource) (cache : TokenCache) (supply : Supply) (start used : Usage) :
    source.token cache (supply.cut (source.callUsage cache supply + start) used) =
      ((source.token cache supply).1, (source.token cache supply).2.1,
        (source.token cache supply).2.2.1.cut start used, (source.token cache supply).2.2.2) := by
  have hcall := source.tokenCall_token cache supply
  unfold callUsage
  generalize source.token cache supply = call at hcall ⊢
  obtain ⟨k, j⟩ := start
  -- In each way in which the call can go, the same way is open to the call on the cut supply.
  cases hcall with
  | reused hkept =>
    have hway : TokenCall source cache (supply.cut ⟨k, j⟩ used) _ := .reused hkept
    rw [hkept]
    change source.token cache (supply.cut ⟨0 + k, 0 + j⟩ used) = _
    rw [Nat.zero_add, Nat.zero_add, hway.token_eq]
  | unnamed hdue hname =>
    have hway : TokenCall source cache (supply.cut ⟨k, j⟩ used) _ := .unnamed hdue hname
    rw [hdue, draws_of_unnamed hname]
    change source.token cache (supply.cut ⟨0 + k, 0 + j⟩ used) = _
    rw [Nat.zero_add, Nat.zero_add, hway.token_eq]
  | unsent hdue hname hform =>
    have hcut := source.form_cut supply k j used
    have hway : TokenCall source cache (supply.cut ⟨k, source.draws + j⟩ used) _ :=
      .unsent hdue hname ((congrArg Prod.fst hcut).trans hform)
    rw [hdue]
    change source.token cache (supply.cut ⟨0 + k, source.draws + j⟩ used) = _
    rw [Nat.zero_add, hway.token_eq, hcut]
  | @refused name form error hdue hname hform hread =>
    have hcut := source.form_cut supply (k + 1) j used
    have hway : TokenCall source cache (supply.cut ⟨k + 1, source.draws + j⟩ used) _ :=
      .refused hdue hname ((congrArg Prod.fst hcut).trans hform)
        ((congrArg (readOutcome source.request.tokenUrl · supply.now)
          (supply.response_cut k _ used)).trans hread)
    rw [hdue]
    change source.token cache (supply.cut ⟨1 + k, source.draws + j⟩ used) = _
    rw [Nat.add_comm 1 k, hway.token_eq, hcut, Supply.afterResponse_cut]
  | @issued name form token hdue hname hform hread =>
    have hcut := source.form_cut supply (k + 1) j used
    have hway : TokenCall source cache (supply.cut ⟨k + 1, source.draws + j⟩ used) _ :=
      .issued hdue hname ((congrArg Prod.fst hcut).trans hform)
        ((congrArg (readOutcome source.request.tokenUrl · supply.now)
          (supply.response_cut k _ used)).trans hread)
    rw [hdue]
    change source.token cache (supply.cut ⟨1 + k, source.draws + j⟩ used) = _
    rw [Nat.add_comm 1 k, hway.token_eq, hcut, Supply.afterResponse_cut]

/-- A call for a token uses up what is counted for it. -/
theorem token_afterUse (source : ClientSource) (cache : TokenCache) (supply : Supply) :
    (source.token cache supply).2.2.1 = supply.afterUse (source.callUsage cache supply) := by
  have hcall := source.tokenCall_token cache supply
  unfold callUsage
  generalize source.token cache supply = call at hcall ⊢
  cases hcall with
  | reused hkept => simp [hkept, Supply.afterUse]
  | unnamed hdue hname => simp [hdue, draws_of_unnamed hname, Supply.afterUse]
  | unsent hdue hname hform => simp [hdue, source.form_afterUse, exchangeRecord]
  | refused hdue hname hform hread =>
    simp [hdue, source.form_afterUse, exchangeRecord, Supply.afterResponse, Supply.afterUse]
  | issued hdue hname hform hread =>
    simp [hdue, source.form_afterUse, exchangeRecord, Supply.afterResponse, Supply.afterUse]

end ClientSource

/-- The operations of a source and the moves of the clock: all steps but those that add to the
streams. -/
def Step.IsOperation : Step → Prop
  | .respond _ | .reply _ => False
  | _ => True

/-- The state without a part of the streams of its supply. -/
def RunState.cut (state : RunState) (start used : Usage) : RunState :=
  { state with supply := state.supply.cut start used }

section Runs

variable (source : ClientSource) (state : RunState) (start used : Usage)

/-- A step does not notice a cut behind what it uses up. -/
theorem step_cut {step : Step} (hstep : step.IsOperation) :
    (Authorizer.client source).step (state.cut (source.usage state step + start) used) step =
      (((Authorizer.client source).step state step).1,
        ((Authorizer.client source).step state step).2.1.cut start used,
        ((Authorizer.client source).step state step).2.2) := by
  cases step with
  | token =>
    have hcall := source.token_cut state.cache state.supply start used
    simp only [Authorizer.step, Authorizer.tokenStep, Authorizer.token, ClientSource.usage,
      RunState.cut, hcall]
    rcases source.token state.cache state.supply with ⟨error | token, cache, supply, trace⟩ <;> rfl
  | authorize fields =>
    have hcall := source.token_cut state.cache state.supply start used
    simp only [Authorizer.step, Authorizer.authorizeStep, Authorizer.token, ClientSource.usage,
      RunState.cut, hcall]
  | form =>
    have hform := source.form_cut state.supply start.responses start.identifiers used
    have hstart : Usage.mk 0 source.draws + start =
        ⟨start.responses, source.draws + start.identifiers⟩ := by
      change Usage.mk (0 + start.responses) _ = _
      rw [Nat.zero_add]
    simp only [Authorizer.step, ClientSource.usage, RunState.cut, hstart, hform]
  | close => simp only [Authorizer.step, ClientSource.usage, Usage.zero_add]
  | clock now =>
    simp only [Authorizer.step, ClientSource.usage, Usage.zero_add]
    rfl
  | respond outcome => exact hstep.elim
  | reply outcome => exact hstep.elim

/-- A run does not notice a cut behind what it uses up. -/
theorem run_cut {steps : List Step} (hsteps : ∀ step ∈ steps, step.IsOperation) :
    (Authorizer.client source).run (state.cut (source.usageOf state steps + start) used) steps =
        (Authorizer.client source).run state steps ∧
      (Authorizer.client source).stateAfter (state.cut (source.usageOf state steps + start) used) steps =
        ((Authorizer.client source).stateAfter state steps).cut start used := by
  induction steps generalizing state with
  | nil =>
    simp only [ClientSource.usageOf, Usage.zero_add]
    exact ⟨rfl, rfl⟩
  | cons step rest ih =>
    have hstep := step_cut source state (source.usageOf
      ((Authorizer.client source).step state step).2.1 rest + start) used (hsteps step (by simp))
    have hrest := ih ((Authorizer.client source).step state step).2.1
      (fun other hother => hsteps other (by simp [hother]))
    simp only [ClientSource.usageOf, Usage.add_assoc, Authorizer.run, Authorizer.stateAfter, hstep]
    exact ⟨congrArg _ hrest.1, hrest.2⟩

/-- A step uses up what is counted for it, and may move the clock. -/
theorem supply_step {step : Step} (hstep : step.IsOperation) :
    ((Authorizer.client source).step state step).2.1.supply =
      (state.supply.afterUse (source.usage state step)).setClock
        ((Authorizer.client source).step state step).2.1.supply.now := by
  have hcall := source.token_afterUse state.cache state.supply
  cases step with
  | token =>
    rcases @step_of_asksToken source state .token trivial with
      ⟨token, value, given, -, -, h⟩ | ⟨error, -, h⟩ <;> rw [h, hcall] <;> rfl
  | authorize fields =>
    rcases @step_of_asksToken source state (.authorize fields) trivial with
      ⟨token, value, given, -, -, h⟩ | ⟨error, -, h⟩ <;> rw [h, hcall] <;> rfl
  | form =>
    simp only [Authorizer.step, ClientSource.usage, source.form_afterUse]
    rfl
  | close => rfl
  | clock now => rfl
  | respond outcome => exact hstep.elim
  | reply outcome => exact hstep.elim

/-- A run uses up what is counted for it. -/
theorem supply_stateAfter {steps : List Step} (hsteps : ∀ step ∈ steps, step.IsOperation) :
    ((Authorizer.client source).stateAfter state steps).supply =
      (state.supply.afterUse (source.usageOf state steps)).setClock
        ((Authorizer.client source).stateAfter state steps).supply.now := by
  induction steps generalizing state with
  | nil => rfl
  | cons step rest ih =>
    have hstep := supply_step source state (hsteps step (by simp))
    have hrest := ih ((Authorizer.client source).step state step).2.1
      (fun other hother => hsteps other (by simp [hother]))
    rw [Authorizer.stateAfter, ClientSource.usageOf, ← Supply.afterUse_afterUse]
    rw [hrest]
    rw [hstep]
    rfl

end Runs

end CloudAuth
