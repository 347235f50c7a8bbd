import CloudAuth.Proofs.TokenFailure
import CloudAuth.Proofs.TokenReuse

/-!
# Tokens that are texts

A token is meant to be a text that is set behind the scheme in a header field. Whether it is one is not
looked at: an access token is taken for given when it is not empty, be it a number, a truth value, a list
or an object. So the tokens of a run are texts, and everything else is refused, exactly if no response of
the run is misread in that way and the payload of each is an object.
-/

namespace CloudAuth

namespace HttpResponse

/-- The access token of a response, if its payload is an object that holds one. -/
def accessToken? (response : HttpResponse) : Option Json :=
  match response.payload with
  | .obj members => Json.lookup? (Text.ofString "access_token") members
  | _ => none

/-- A response bears a text: its access token is that text, and not empty. -/
def Bears (response : HttpResponse) (text : Text) : Prop :=
  response.accessToken? = some (.str text) ∧ text ≠ []

/-- A response that is taken for something else than it is. -/
inductive IsMisread (response : HttpResponse) : Prop where
  /-- The payload is no object, but members of it are asked for. -/
  | notObject (h : ∀ members, response.payload ≠ .obj members)
  /-- The access token is given, but is no text. -/
  | notText {value : Json} (accepted : response.status < errorStatus)
      (found : response.accessToken? = some value) (given : value.isTruthy = true)
      (notText : ∀ text, value ≠ .str text)

/-- The access token of a response whose payload is an object. -/
theorem accessToken?_eq {response : HttpResponse} {members : List (Text × Json)}
    (hpayload : response.payload = .obj members) :
    response.accessToken? = Json.lookup? (Text.ofString "access_token") members := by
  rw [accessToken?, hpayload]

/-- The token that a response issues is its access token. -/
theorem accessToken?_of_issues {response : HttpResponse} {now : Rat} {token : AccessToken}
    (hissues : (HttpOutcome.response response).Issues now token) :
    response.status < errorStatus ∧ response.accessToken? = some token.token ∧
      token.token.isTruthy = true := by
  obtain ⟨haccepted, hpayload, hfound, hgiven, -⟩ := hissues
  exact ⟨haccepted, (accessToken?_eq hpayload).trans hfound, hgiven⟩

/-- A text counts as given when it is not empty. -/
theorem isTruthy_str_iff (text : Text) : (Json.str text).isTruthy = true ↔ text ≠ [] := by
  cases text <;> simp [Json.isTruthy]

/-- A response that issues a token bears it as a text, unless it is misread. -/
theorem bears_of_issues {response : HttpResponse} {now : Rat} {token : AccessToken}
    (hissues : (HttpOutcome.response response).Issues now token) (hread : ¬ response.IsMisread) :
    ∃ text, response.Bears text ∧ token.token = .str text := by
  obtain ⟨haccepted, hfound, hgiven⟩ := accessToken?_of_issues hissues
  by_contra hnone
  refine hread (.notText haccepted hfound hgiven fun text htext => hnone ⟨text, ?_, htext⟩)
  rw [htext] at hfound hgiven
  exact ⟨hfound, (isTruthy_str_iff text).mp hgiven⟩

/-- A misread response bears no text. -/
theorem IsMisread.not_bears {response : HttpResponse} (hmisread : response.IsMisread) (text : Text) :
    ¬ response.Bears text := by
  rintro ⟨hfound, -⟩
  rcases hmisread with hobject | ⟨-, hvalue, -, hnotText⟩
  · unfold accessToken? at hfound
    split at hfound
    · rename_i members hpayload
      exact hobject members hpayload
    · contradiction
  · exact hnotText text (Option.some.inj (hvalue.symm.trans hfound))

/-- A response that bears no text is refused exactly if it is not misread. -/
theorem isRefused_iff (url : Text) (now : Rat) {response : HttpResponse}
    (hbare : ∀ text, ¬ response.Bears text) :
    (∃ error, ClientSource.readResponse url response now = .error (.token error)) ↔
      ¬ response.IsMisread := by
  by_cases hobject : ∃ members, response.payload = .obj members
  · obtain ⟨members, hpayload⟩ := hobject
    rcases Int.lt_or_le response.status errorStatus with hstatus | hstatus
    · rw [ClientSource.readResponse_of_accepted url response now hpayload hstatus,
        ← accessToken?_eq hpayload]
      cases hfilter : response.accessToken?.filter Json.isTruthy with
      | none =>
        refine iff_of_true ⟨_, rfl⟩ ?_
        rintro (hobject | ⟨-, hfound, hgiven, -⟩)
        · exact hobject members hpayload
        · cases hfilter.symm.trans (Option.filter_eq_some_iff.mpr ⟨hfound, hgiven⟩)
      | some value =>
        obtain ⟨hfound, hgiven⟩ := Option.filter_eq_some_iff.mp hfilter
        refine iff_of_false ?_ (not_not_intro (.notText hstatus hfound hgiven fun text htext => ?_))
        · rintro ⟨error, herror⟩
          cases hexpiry : expiresOn members now <;> rw [hexpiry] at herror <;> cases herror
        · rw [htext] at hfound hgiven
          exact hbare text ⟨hfound, (isTruthy_str_iff text).mp hgiven⟩
    · refine iff_of_true ⟨_, ClientSource.readResponse_of_errorStatus url response now hpayload hstatus⟩ ?_
      rintro (hobject | ⟨haccepted, -, -, -⟩)
      · exact hobject members hpayload
      · exact Int.not_le.mpr haccepted hstatus
  · have hnone := not_exists.mp hobject
    refine iff_of_false ?_ (not_not_intro (.notObject hnone))
    rintro ⟨error, herror⟩
    rw [ClientSource.readResponse_of_not_object url response now hnone] at herror
    cases herror

end HttpResponse

/-- What a call for a token gives carries a text: it is the token, or stands behind the scheme in a
field. -/
def StepResult.Carries (text : Text) : Step → StepResult → Prop
  | .token, .token given _ => given.token = .str text
  | .authorize _, .headers authorized =>
    ⟨"Authorization", Text.ofString "Bearer " ++ text⟩ ∈ authorized.fields
  | _, _ => False

/-- A field that is put into a list is in it. -/
theorem HeaderField.mem_put (mark : HeaderField → Text) (field : HeaderField)
    (fields : List HeaderField) : field ∈ put mark field fields := by
  induction fields with
  | nil => exact List.mem_singleton_self field
  | cons other rest ih =>
    unfold put
    split
    · exact List.mem_cons_self
    · exact List.mem_cons_of_mem _ ih

/-- What shows a token that is a text carries the text. -/
theorem StepResult.Shows.carries {token : AccessToken} {call : Step} {value : StepResult} {text : Text}
    (hshows : StepResult.Shows token call value) (htext : token.token = .str text) :
    value.Carries text call := by
  cases call with
  | token =>
    cases value with
    | token given same =>
      cases hshows
      exact htext
    | _ => exact hshows.elim
  | authorize fields =>
    cases value with
    | headers authorized =>
      cases hshows
      rw [htext]
      exact HeaderField.mem_put _ _ fields.fields
    | _ => exact hshows.elim
  | _ => exact hshows.elim

/-- A call after some exchanges is sound: if it gives something, that carries the text that a response of
its own or of one of those exchanges bears, and if its own response bears none, the call is refused. -/
structure Authorizer.GivesText (authorizer : Authorizer) (earlier : List Exchange) (state : RunState)
    (call : Step) : Prop where
  /-- What is given carries a text. -/
  given : ∀ value, (authorizer.step state call).1 = .ok value →
    ∃ exchange ∈ earlier ++ Authorizer.exchangesOf state (authorizer.step state call).2.2,
      ∃ response text, exchange.outcome = .response response ∧ response.Bears text ∧
        value.Carries text call
  /-- A response without a text is refused. -/
  refused : ∀ exchange ∈ Authorizer.exchangesOf state (authorizer.step state call).2.2,
    ∀ response, exchange.outcome = .response response → (∀ text, ¬ response.Bears text) →
      ∃ error, (authorizer.step state call).1 = .error (.token error)

/-- What a call of a run gives shows a token that was issued in the run, up to and with the call. -/
theorem Authorizer.exists_issues_of_step (source : ClientSource) (supply : Supply) (before : List Step)
    {call : Step} (hcall : call.AsksToken) {value : StepResult} :
    let authorizer := Authorizer.client source
    let reached := authorizer.stateAfter (.start supply) before
    (authorizer.step reached call).1 = .ok value →
      ∃ exchange ∈ authorizer.exchanges (.start supply) before ++
          exchangesOf reached (authorizer.step reached call).2.2,
        ∃ token, exchange.Issues token ∧ StepResult.Shows token call value := by
  intro authorizer reached hvalue
  rcases exchangesOf_step source reached call with hnone | ⟨-, -, post, hone⟩
  · obtain ⟨token, hkept, hshows⟩ :=
      reusable?_of_posts_eq_nil hcall hvalue (List.map_eq_nil_iff.mp hnone)
    have hcache := ((ClientSource.reusable?_eq_some_iff _ _ _).mp hkept).1
    obtain ⟨earlier, exchange, later, hsplit, hissues, -⟩ :=
      (keepsLastIssued_start source supply before token).mp hcache
    refine ⟨exchange, List.mem_append_left _ ?_, token, hissues, hshows⟩
    exact hsplit ▸ List.mem_append_right earlier List.mem_cons_self
  · rcases step_of_exchangesOf_eq hcall hone with ⟨token, given, hissues, hgiven, hshows⟩ | ⟨_, -, herror⟩
    · cases hvalue.symm.trans hgiven
      exact ⟨_, List.mem_append_right _ (hone ▸ List.mem_singleton_self _), token, hissues, hshows⟩
    · cases hvalue.symm.trans herror

/-- A token that an exchange issues is a text that its response bears, unless the response is misread. -/
theorem Exchange.Issues.bears {exchange : Exchange} {token : AccessToken} (hissues : exchange.Issues token)
    (hread : ∀ response, exchange.outcome = .response response → ¬ response.IsMisread) :
    ∃ response text, exchange.outcome = .response response ∧ response.Bears text ∧
      token.token = .str text := by
  obtain ⟨post, outcome, now⟩ := exchange
  cases outcome with
  | response response =>
    obtain ⟨text, hbears, htext⟩ := HttpResponse.bears_of_issues hissues (hread response rfl)
    exact ⟨response, text, rfl, hbears, htext⟩
  | _ => cases hissues

/-- A call whose response bears no text is refused exactly if the response is not misread. -/
theorem Authorizer.isRefused_step_iff {source : ClientSource} {state : RunState} {call : Step}
    (hcall : call.AsksToken) {exchange : Exchange}
    (hexchange : exchange ∈ exchangesOf state ((client source).step state call).2.2)
    {response : HttpResponse} (hresponse : exchange.outcome = .response response)
    (hbare : ∀ text, ¬ response.Bears text) :
    (∃ error, ((client source).step state call).1 = .error (.token error)) ↔ ¬ response.IsMisread := by
  have hone : exchangesOf state ((client source).step state call).2.2 = [exchange] := by
    rcases exchangesOf_step source state call with hnone | ⟨-, -, post, hone⟩
    · rw [hnone] at hexchange
      contradiction
    · rw [hone] at hexchange
      rw [hone, List.mem_singleton.mp hexchange]
  rcases step_of_exchangesOf_eq hcall hone with
    ⟨token, value, hissues, hvalue, -⟩ | ⟨error, hread, herror⟩
  · rw [hvalue]
    rw [Exchange.Issues, hresponse] at hissues
    have hgiven : ¬ ∃ error, Except.ok value = Except.error (Error.token error) := by
      rintro ⟨error, herror⟩
      cases herror
    refine iff_of_false hgiven fun hmisread => ?_
    obtain ⟨text, hbears, -⟩ := HttpResponse.bears_of_issues hissues hmisread
    exact hbare text hbears
  · rw [herror, ← HttpResponse.isRefused_iff source.request.tokenUrl exchange.now hbare]
    rw [hresponse] at hread
    change ClientSource.readResponse _ response _ = _ at hread
    rw [hread]
    simp only [Except.error.injEq]

/-- Every call of a run gives the text that a response bears, and refuses a response that bears none,
exactly if no response of the run is misread. -/
theorem givesText_iff (source : ClientSource) (supply : Supply) (steps : List Step) :
    let authorizer := Authorizer.client source
    (∀ before call after, steps = before ++ call :: after → call.AsksToken →
      authorizer.GivesText (authorizer.exchanges (.start supply) before)
        (authorizer.stateAfter (.start supply) before) call) ↔
      ∀ exchange ∈ authorizer.exchanges (.start supply) steps, ∀ response,
        exchange.outcome = .response response → ¬ response.IsMisread := by
  intro authorizer
  constructor
  · intro hsound exchange hexchange response hresponse hmisread
    obtain ⟨earlier, later, hsplit⟩ := List.append_of_mem hexchange
    obtain ⟨before, call, after, hsteps, -, hcall, -, -, -, hone⟩ :=
      Authorizer.call_of_exchanges_eq hsplit
    have hown := hone.symm ▸ List.mem_singleton_self exchange
    exact (Authorizer.isRefused_step_iff hcall hown hresponse hmisread.not_bears).mp
      ((hsound before call after hsteps hcall).refused exchange hown response hresponse
        hmisread.not_bears) hmisread
  · rintro hread before call after rfl hcall
    rw [Authorizer.exchanges_append, Authorizer.exchanges, ← List.append_assoc] at hread
    refine ⟨fun value hvalue => ?_, fun exchange hexchange response hresponse hbare => ?_⟩
    · obtain ⟨exchange, hexchange, token, hissues, hshows⟩ :=
        Authorizer.exists_issues_of_step source supply before hcall hvalue
      obtain ⟨response, text, hresponse, hbears, htext⟩ :=
        hissues.bears (hread exchange (List.mem_append_left _ hexchange))
      exact ⟨exchange, hexchange, response, text, hresponse, hbears, hshows.carries htext⟩
    · have hsound := hread exchange (List.mem_append_left _ (List.mem_append_right _ hexchange))
      exact (Authorizer.isRefused_step_iff hcall hexchange hresponse hbare).mpr
        (hsound response hresponse)

/-- The sample response bears the text of its token. -/
theorem givesText_of_sampleResponse :
    (Authorizer.client sampleSource).exchanges (.start sampleSupply) [.token] =
        [⟨sampleSource.postOf sampleForm, .response sampleResponse, 0⟩] ∧
      sampleResponse.Bears (Text.ofString "a") ∧
      (Authorizer.client sampleSource).GivesText [] (.start sampleSupply) .token := by
  have hbears : sampleResponse.Bears (Text.ofString "a") :=
    ⟨HttpResponse.accessToken?_eq sampleResponse_payload, by decide⟩
  have hexchanges : (Authorizer.client sampleSource).exchanges (.start sampleSupply) [.token] =
      [⟨sampleSource.postOf sampleForm, .response sampleResponse, 0⟩] := by
    simp only [Authorizer.exchanges, Authorizer.step, Authorizer.tokenStep, Authorizer.token,
      RunState.start, sampleSource_token]
    rfl
  refine ⟨hexchanges, hbears, (givesText_iff sampleSource sampleSupply [.token]).mpr ?_ [] _ [] rfl trivial⟩
  intro exchange hexchange response hresponse hmisread
  rw [hexchanges] at hexchange
  cases List.mem_singleton.mp hexchange
  cases hresponse
  exact hmisread.not_bears _ hbears

/-- A response that is accepted and holds a truth value as its access token. -/
def booleanResponse : HttpResponse := okResponse "\x7b\"access_token\":true,\"expires_in\":3600\x7d"

/-- The payload of the response is the object that its body spells. -/
theorem booleanResponse_payload : booleanResponse.payload =
    .obj [(Text.ofString "access_token", .bool true), (Text.ofString "expires_in", .int 3600)] := by
  cbv

/-- A truth value as the access token is given as a token, and is set behind the scheme. -/
theorem not_givesText_of_boolean_token :
    (Construction.withSecret worldwideRegistration (some "secret")).authorizer =
        .ok (.client worldwideSource) ∧
      ((Authorizer.client worldwideSource).step (.start (supplyOf (.response booleanResponse))) .token).1 =
        .ok (.token ⟨.bool true, 3600⟩ false) ∧
      ((Authorizer.client worldwideSource).step (.start (supplyOf (.response booleanResponse)))
          (.authorize .empty)).1 =
        .ok (.headers (HeaderSet.empty.set ⟨"Authorization", Text.ofString "Bearer True"⟩)) ∧
      ¬ (Authorizer.client worldwideSource).GivesText [] (.start (supplyOf (.response booleanResponse)))
        .token := by
  have hissues : (HttpOutcome.response booleanResponse).Issues 0 ⟨.bool true, 3600⟩ :=
    .response (by decide) booleanResponse_payload rfl rfl rfl
  rw [← ClientSource.readOutcome_eq_ok_iff worldwideSource.request.tokenUrl] at hissues
  have htoken : worldwideSource.token .empty (supplyOf (.response booleanResponse)) = _ :=
    ClientSource.TokenCall.token_eq (.issued rfl rfl rfl hissues)
  have hgiven : ((Authorizer.client worldwideSource).step
      (.start (supplyOf (.response booleanResponse))) .token).1 =
        .ok (.token ⟨.bool true, 3600⟩ false) := by
    simp only [Authorizer.step, Authorizer.tokenStep, Authorizer.token, RunState.start, htoken]
    rfl
  refine ⟨rfl, hgiven, ?_, fun hsound => ?_⟩
  · simp only [Authorizer.step, Authorizer.authorizeStep, Authorizer.token, RunState.start, htoken]
    rfl
  · obtain ⟨exchange, -, response, text, -, -, hcarries⟩ := hsound.given _ hgiven
    cases hcarries

end CloudAuth
