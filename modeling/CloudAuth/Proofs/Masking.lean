import Mathlib.Data.List.Basic
import CloudAuth.Authorizer

/-!
# Runs with the secret masked

Everything an authorizer gives and does, with the value of the field for the secret taken out. A run of
an authorizer whose secret is taken out is the run of the authorizer with the secret taken out of it: the
secret goes into that field of the forms, and nothing else comes to depend on it.
-/

namespace CloudAuth

/-- The name of the field that holds the secret. -/
def secretField : String := "client_secret"

/-- A form without the value of the secret. -/
def Form.masked (form : Form) : Form :=
  form.map fun field => if field.1 = secretField then (field.1, none) else field

/-- A request without the value of the secret in its form. -/
def Post.masked (post : Post) : Post := { post with form := post.form.masked }

/-- An event without the value of the secret in a form. -/
def Event.masked : Event → Event
  | post request => post request.masked
  | event => event

/-- A trace without the values of secrets. -/
def Trace.masked (trace : Trace) : Trace := trace.map Event.masked

/-- What a step gives, without the value of the secret in a form. -/
def StepResult.masked : StepResult → StepResult
  | form f => form f.masked
  | result => result

/-- A request without its secret. -/
def TokenRequest.masked (request : TokenRequest) : TokenRequest := { request with clientSecret := none }

/-- A source without its secret. -/
def ClientSource.masked (source : ClientSource) : ClientSource :=
  { source with request := source.request.masked }

namespace Authorizer

/-- An authorizer without its secret. -/
def masked : Authorizer → Authorizer
  | client source => client source.masked
  | commandLine source => commandLine source

/-- What is shown of the request of an authorizer that has one. -/
def shownRequest? : Authorizer → Option String
  | client source => some source.request.shown
  | commandLine _ => none

/-- What is shown of an authorizer is the same without its secret. -/
@[simp]
theorem shownRequest?_masked (authorizer : Authorizer) :
    authorizer.masked.shownRequest? = authorizer.shownRequest? := by
  cases authorizer <;> rfl

/-- A run without the values of secrets. -/
def maskedRun (calls : List (Except Error StepResult × Trace)) : List (Except Error StepResult × Trace) :=
  calls.map fun call => (call.1.map StepResult.masked, call.2.masked)

end Authorizer

/-- The log records of a trace are the same without the values of secrets. -/
@[simp]
theorem Trace.logs_masked (trace : Trace) : trace.masked.logs = trace.logs := by
  unfold masked logs
  rw [List.filterMap_map]
  refine List.filterMap_congr fun event _ => ?_
  cases event <;> rfl

namespace Form

/-- A form without the field of the secret stays as it is. -/
theorem masked_of_forall_ne {form : Form} (hnames : ∀ field ∈ form, field.1 ≠ secretField) :
    masked form = form :=
  calc
    masked form = form.map id := List.map_congr_left fun field hfield => if_neg (hnames field hfield)
    _ = form := List.map_id form

/-- Two forms one after the other without the values of secrets. -/
theorem masked_append (a b : Form) : masked (a ++ b) = masked a ++ masked b := List.map_append

end Form

namespace ClientSource

/-- The common fields of a request have other names than the secret. -/
theorem masked_commonFields (request : TokenRequest) :
    Form.masked (commonFields request) = commonFields request := by
  refine Form.masked_of_forall_ne ?_
  unfold commonFields targetFields
  split_ifs
  all_goals simp [secretField]

/-- The form of a source without its secret is the form without the value of the secret. -/
theorem form_masked (source : ClientSource) (supply : Supply) :
    source.masked.form supply =
      ((source.form supply).1.map Form.masked, (source.form supply).2) := by
  obtain ⟨request, authType, ownsSession⟩ := source
  have hcommon : Form.masked (commonFields request) = commonFields request.masked :=
    masked_commonFields request
  cases authType with
  | assertion =>
    have hassertion : assertion request.masked supply = assertion request supply := rfl
    simp only [masked, form, hassertion]
    cases (assertion request supply).1 with
    | error e => rfl
    | ok text =>
      simp only [Except.map, Form.masked_append, hcommon]
      rfl
  | secret =>
    simp only [masked, form, Except.map, Form.masked_append, hcommon]
    rfl
  | other v =>
    simp only [masked, form, Except.map, Form.masked_append, hcommon]
    rfl

/-- A request for a token without the secret meets the same outcome. -/
theorem exchange_masked (source : ClientSource) (supply : Supply) :
    source.masked.exchange supply =
      ((source.exchange supply).1, (source.exchange supply).2.1,
        (source.exchange supply).2.2.masked) := by
  have hform := source.form_masked supply
  have hauthType : source.masked.authType = source.authType := rfl
  have hurl : source.masked.request.tokenUrl = source.request.tokenUrl := rfl
  unfold exchange
  rw [hform, hauthType, hurl]
  cases authName source.authType with
  | error e => rfl
  | ok name =>
    cases source.form supply with
    | mk made rest =>
      cases made with
      | error e => rfl
      | ok form => rfl

/-- A call for a token without the secret gives the same token or the same error. -/
theorem token_masked (source : ClientSource) (cache : TokenCache) (supply : Supply) :
    source.masked.token cache supply =
      ((source.token cache supply).1, (source.token cache supply).2.1,
        (source.token cache supply).2.2.1, (source.token cache supply).2.2.2.masked) := by
  have hexchange := source.exchange_masked supply
  unfold token
  rw [hexchange]
  cases reusable? cache supply.now with
  | some token => rfl
  | none =>
    rcases source.exchange supply with ⟨exchanged, rest, trace⟩
    cases exchanged with
    | error e => rfl
    | ok token => rfl

end ClientSource

namespace Authorizer

/-- A call for a token without the secret gives the same token or the same error. -/
theorem token_masked (authorizer : Authorizer) (cache : TokenCache) (supply : Supply) :
    authorizer.masked.token cache supply =
      ((authorizer.token cache supply).1, (authorizer.token cache supply).2.1,
        (authorizer.token cache supply).2.2.1, (authorizer.token cache supply).2.2.2.masked) := by
  cases authorizer with
  | client source => exact source.token_masked cache supply
  | commandLine source => rfl

/-- Which token was given last is the same without the secret. -/
theorem isSame_masked (authorizer : Authorizer) (state : RunState) (cache : TokenCache) :
    authorizer.masked.isSame state cache = authorizer.isSame state cache := by
  cases authorizer <;> rfl

/-- A step without the secret gives and does the same, without the value of the secret in a form. -/
theorem step_masked (authorizer : Authorizer) (state : RunState) (step : Step) :
    authorizer.masked.step state step =
      ((authorizer.step state step).1.map StepResult.masked, (authorizer.step state step).2.1,
        (authorizer.step state step).2.2.masked) := by
  have htoken := authorizer.token_masked state.cache state.supply
  cases step with
  | clock now => rfl
  | respond outcome => rfl
  | reply outcome => rfl
  | token =>
    simp only [Authorizer.step, tokenStep, htoken, isSame_masked]
    rcases authorizer.token state.cache state.supply with ⟨result, cache, supply, trace⟩
    cases result with
    | error e => rfl
    | ok token => rfl
  | authorize headers =>
    simp only [Authorizer.step, authorizeStep, htoken]
    rcases authorizer.token state.cache state.supply with ⟨result, cache, supply, trace⟩
    cases result with
    | error e => rfl
    | ok token => rfl
  | form =>
    cases authorizer with
    | client source =>
      have hform := source.form_masked state.supply
      simp only [Authorizer.step, masked, hform]
      cases (source.form state.supply).1 with
      | error e => rfl
      | ok form => rfl
    | commandLine source => rfl
  | close =>
    cases authorizer with
    | client source =>
      obtain ⟨request, authType, ownsSession⟩ := source
      cases ownsSession <;> rfl
    | commandLine source => rfl

/-- A run without the secret is the run without the values of secrets. -/
theorem run_masked (authorizer : Authorizer) (state : RunState) (steps : List Step) :
    authorizer.masked.run state steps = maskedRun (authorizer.run state steps) := by
  induction steps generalizing state with
  | nil => rfl
  | cons step rest ih =>
    simp only [run, step_masked, ih]
    rfl

/-- Authorizers that differ in their secrets alone have runs that differ in the values of secrets
alone. -/
theorem maskedRun_eq_of_masked_eq {first second : Authorizer} (hmasked : first.masked = second.masked)
    (state : RunState) (steps : List Step) :
    maskedRun (first.run state steps) = maskedRun (second.run state steps) := by
  rw [← run_masked, hmasked, run_masked]

end Authorizer

end CloudAuth
