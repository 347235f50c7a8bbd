import CloudAuth.Proofs.AssertionCheck
import CloudAuth.Proofs.Usage

/-!
# No assertion is made twice

Every assertion that a source makes in a run draws the next identifier of its supply, whether the form is
sent or asked for, and nothing else in a run draws one. The identifier can be told from the text of the
assertion, so with identifiers that are all different no text is sent twice.

The signature plays no part in this. Two assertions differ in their claims already.
-/

namespace CloudAuth

namespace Json

/-- What is written for a string tells the string and where it ends. -/
theorem stringChars_append_injective {first second : String} {rest other : List Char}
    (h : stringChars (Text.ofString first) ++ rest = stringChars (Text.ofString second) ++ other) :
    first = second ∧ rest = other := by
  obtain ⟨body, hbody, hfirst⟩ := readString_stringChars (Text.isWhole_ofString first) rest
  obtain ⟨body', hbody', hsecond⟩ := readString_stringChars (Text.isWhole_ofString second) other
  rw [hbody, hbody'] at h
  rw [(List.cons.inj h).2, hsecond] at hfirst
  have hread := Option.some.inj hfirst
  exact ⟨Text.ofString_injective (congrArg Prod.fst hread).symm, (congrArg Prod.snd hread).symm⟩

/-- What is written for members of which the first is a string tells the string. -/
theorem string_eq_of_membersChars_eq {name : Text} {first second : String}
    {next next' : Text × Json} {others others' : List (Text × Json)}
    (h : membersChars ((name, .ofString first) :: next :: others) =
      membersChars ((name, .ofString second) :: next' :: others')) : first = second := by
  rw [membersChars_cons_cons, membersChars_cons_cons, List.append_cancel_left_eq,
    List.cons_inj_right] at h
  exact (stringChars_append_injective h).1

/-- What is written for members of which the first are the same tells what is written for the others. -/
theorem membersChars_cons_cancel {member next next' : Text × Json} {others others' : List (Text × Json)}
    (h : membersChars (member :: next :: others) = membersChars (member :: next' :: others')) :
    membersChars (next :: others) = membersChars (next' :: others') := by
  rw [membersChars_cons_cons, membersChars_cons_cons, List.append_cancel_left_eq,
    List.cons_inj_right, List.append_cancel_left_eq, List.cons_inj_right] at h
  exact h

end Json

namespace Claims

/-- Claims are written in ASCII. -/
theorem isAscii_chars (claims : Claims) : Json.IsAscii claims.toJson.chars := by
  refine Json.isAscii_obj ?_
  simp only [List.forall_mem_cons, List.not_mem_nil, false_imp_iff, implies_true, and_true]
  exact ⟨Json.isAscii_stringChars _, Json.isAscii_stringChars _, Json.isAscii_stringChars _,
    Json.isAscii_stringChars _, Json.isAscii_intChars _, Json.isAscii_intChars _⟩

/-- What is written for claims of one client at one address tells their identifier. -/
theorem identifier_eq_of_chars_eq {first second : Claims} (haudience : first.audience = second.audience)
    (hclient : first.client = second.client) (h : first.toJson.chars = second.toJson.chars) :
    first.identifier = second.identifier := by
  have hmembers := List.append_cancel_right (List.cons.inj h).2
  rw [haudience, hclient] at hmembers
  -- The identifier is the fourth member.
  exact Json.string_eq_of_membersChars_eq <| Json.membersChars_cons_cancel <|
    Json.membersChars_cons_cancel <| Json.membersChars_cons_cancel hmembers

end Claims

namespace Assertion

/-- The part of an assertion that holds the claims. -/
def payload? (text : String) : Option (List Char) :=
  match parts text.toList with
  | [_, payload, _] => some payload
  | _ => none

/-- An assertion carries claims: its payload is what is written for them. -/
def Carries (text : String) (claims : Claims) : Prop :=
  ∃ payload, payload? text = some payload ∧
    Base64.decodeBare? .urlSafe payload = some (Bytes.ofChars claims.toJson.chars)

/-- A signed assertion carries the claims that it was signed for. -/
theorem carries_of_sign? {key : RsaPrivateKey} {thumbprint chars : List Char} {claims : Claims}
    (hsign : sign? key thumbprint claims = some chars) : Carries (String.ofList chars) claims := by
  obtain ⟨signature, -, rfl⟩ := Option.map_eq_some_iff.mp hsign
  refine ⟨jsonSegment claims.toJson, ?_, Base64.decodeBare?_encodeBare .urlSafe _⟩
  rw [payload?, String.toList_ofList, parts_signed]

/-- An assertion of one client for one address carries no two identifiers. -/
theorem Carries.identifier_eq {text : String} {first second : Claims} (hfirst : Carries text first)
    (hsecond : Carries text second) (haudience : first.audience = second.audience)
    (hclient : first.client = second.client) : first.identifier = second.identifier := by
  obtain ⟨payload, hpayload, hbytes⟩ := hfirst
  obtain ⟨payload', hpayload', hbytes'⟩ := hsecond
  cases hpayload.symm.trans hpayload'
  have hdecoded := congrArg Unicode.decodeUtf8 (Option.some.inj (hbytes.symm.trans hbytes'))
  rw [Unicode.decodeUtf8_ofChars first.isAscii_chars,
    Unicode.decodeUtf8_ofChars second.isAscii_chars] at hdecoded
  exact Claims.identifier_eq_of_chars_eq haudience hclient (Option.some.inj hdecoded)

/-- The claims that an assertion carries are read from it, if address and client consist of characters
proper and the numerals are not too long. -/
theorem Carries.readSegment? {text : String} {claims : Claims} (hcarries : Carries text claims)
    (haudience : claims.audience.IsWhole) (hclient : claims.client.IsWhole)
    (hnumerals : claims.notBefore.natAbs + assertionLifetime.natAbs < 10 ^ Decimal.maxDigits) :
    (payload? text).bind Assertion.readSegment? = some claims.toJson := by
  obtain ⟨payload, hpayload, hbytes⟩ := hcarries
  rw [hpayload, Option.bind_some, Assertion.readSegment?, hbytes]
  dsimp only [bind, Option.bind]
  rw [Unicode.decodeUtf8_ofChars claims.isAscii_chars]
  dsimp only
  rw [Json.read_chars (Claims.isPortable_toJson haudience hclient hnumerals)]
  rfl

end Assertion

/-- A form that was made, with the time at which it was. -/
structure MadeForm where
  /-- The form. -/
  form : Form
  /-- The time. -/
  now : Rat

/-- The assertion in a form. -/
def MadeForm.assertion? (made : MadeForm) : Option (Option Text) :=
  made.form.lookup "client_assertion"

/-- The form that was sent in an exchange. -/
def Exchange.madeForm (exchange : Exchange) : MadeForm := ⟨exchange.post.form, exchange.now⟩

/-- The form that a step gives, if it gives one. -/
def StepResult.form? : StepResult → Option Form
  | .form f => some f
  | _ => none

namespace Authorizer

/-- The forms that one step makes at a time: the one that it gives, and those that it sends. -/
def formsOf (now : Rat) (call : Except Error StepResult × RunState × Trace) : List MadeForm :=
  ((call.1.toOption.bind StepResult.form?).toList ++ call.2.2.posts.map Post.form).map (⟨·, now⟩)

/-- The forms that are made in a run, in their order. -/
def forms (authorizer : Authorizer) : RunState → List Step → List MadeForm
  | _, [] => []
  | state, step :: rest =>
    formsOf state.supply.now (authorizer.step state step) ++
      forms authorizer (authorizer.step state step).2.1 rest

/-- The forms that are sent in a run are among those that are made in it. -/
theorem madeForms_exchanges_sublist (authorizer : Authorizer) (state : RunState) (steps : List Step) :
    ((authorizer.exchanges state steps).map Exchange.madeForm).Sublist
      (authorizer.forms state steps) := by
  induction steps generalizing state with
  | nil => exact List.Sublist.refl _
  | cons step rest ih =>
    rw [exchanges, forms, List.map_append]
    refine List.Sublist.append ?_ (ih _)
    rw [exchangesOf, formsOf, List.map_map, List.map_append, List.map_map]
    exact List.sublist_append_right _ _

/-- A step that asks for a token makes the forms that its call sends. -/
theorem formsOf_of_asksToken (source : ClientSource) (state : RunState) {call : Step}
    (hcall : call.AsksToken) :
    formsOf state.supply.now ((client source).step state call) =
      (source.token state.cache state.supply).2.2.2.posts.map
        fun post => ⟨post.form, state.supply.now⟩ := by
  rcases step_of_asksToken source state hcall with
    ⟨token, value, given, -, hshows, hstep⟩ | ⟨error, -, hstep⟩
  · have hnone : value.form? = none := by
      cases call <;> cases value <;> first | rfl | exact hshows.elim
    rw [hstep, formsOf, Except.toOption, Option.bind_some, hnone]
    exact List.map_map
  · rw [hstep]
    exact List.map_map

section Runs

variable {source : ClientSource} (hforms : ∀ supply, ∃ form, (source.form supply).1 = .ok form)

include hforms

/-- A step makes no form and draws no identifier, or it makes the form of the source and draws what the
form does. -/
theorem formsOf_step (state : RunState) (step : Step) :
    (formsOf state.supply.now ((client source).step state step) = [] ∧
        ((client source).step state step).2.1.supply.identifiers = state.supply.identifiers) ∨
      ∃ form, (source.form state.supply).1 = .ok form ∧
        formsOf state.supply.now ((client source).step state step) = [⟨form, state.supply.now⟩] ∧
        ((client source).step state step).2.1.supply.identifiers =
          (source.form state.supply).2.identifiers := by
  by_cases hcall : step.AsksToken
  · rw [formsOf_of_asksToken source state hcall, supply_step_of_asksToken state hcall]
    have hway := source.tokenCall_token state.cache state.supply
    generalize source.token state.cache state.supply = result at hway ⊢
    cases hway with
    | reused hkept => exact .inl ⟨rfl, rfl⟩
    | unnamed hdue hname => exact .inl ⟨rfl, rfl⟩
    | unsent hdue hname hform =>
      obtain ⟨form, hmade⟩ := hforms state.supply
      cases hform.symm.trans hmade
    | refused hdue hname hform hread => exact .inr ⟨_, hform, rfl, rfl⟩
    | issued hdue hname hform hread => exact .inr ⟨_, hform, rfl, rfl⟩
  · cases step with
    | token => exact absurd trivial hcall
    | authorize fields => exact absurd trivial hcall
    | form =>
      obtain ⟨form, hform⟩ := hforms state.supply
      have hstep : (client source).step state .form =
          (((source.form state.supply).1.map StepResult.form).mapError Error.fault,
            { state with supply := (source.form state.supply).2 }, []) := rfl
      rw [hstep, hform]
      exact .inr ⟨form, rfl, rfl, rfl⟩
    | close =>
      refine .inl ⟨?_, rfl⟩
      rw [Authorizer.step, ClientSource.closing]
      split <;> rfl
    | clock now => exact .inl ⟨rfl, rfl⟩
    | respond outcome => exact .inl ⟨rfl, rfl⟩
    | reply outcome => exact .inl ⟨rfl, rfl⟩

variable (hdraws : source.draws = 1)

include hdraws

/-- In a run of a source that draws an identifier for each form, the forms draw the identifiers of the
supply one after the other, and nothing else draws any. -/
theorem forms_draw_in_turn (state : RunState) (steps : List Step) :
    (∀ k made, ((client source).forms state steps)[k]? = some made →
      ∃ supply, (source.form supply).1 = .ok made.form ∧ supply.now = made.now ∧
        supply.identifier = state.supply.identifiers k) ∧
    ((client source).stateAfter state steps).supply.identifiers =
      fun n => state.supply.identifiers (n + ((client source).forms state steps).length) := by
  induction steps generalizing state with
  | nil => exact ⟨nofun, rfl⟩
  | cons step rest ih =>
    obtain ⟨hrest, hafter⟩ := ih ((client source).step state step).2.1
    rw [forms, stateAfter]
    rcases formsOf_step hforms state step with ⟨hnone, hkept⟩ | ⟨form, hform, hone, hdrawn⟩
    · rw [hnone, List.nil_append, hafter, hkept]
      rw [hkept] at hrest
      exact ⟨hrest, rfl⟩
    · have hshift : ((client source).step state step).2.1.supply.identifiers =
          fun n => state.supply.identifiers (n + 1) := by
        rw [hdrawn, source.form_afterUse, hdraws]
        rfl
      rw [hone, List.singleton_append, hafter, hshift]
      rw [hshift] at hrest
      constructor
      · intro k made hmade
        cases k with
        | zero =>
          cases hmade
          exact ⟨state.supply, hform, rfl, rfl⟩
        | succ k => exact hrest k made hmade
      · rfl

end Runs

/-- A call that gives a token without a request draws nothing. -/
theorem supply_of_no_posts (source : ClientSource) (state : RunState) {call : Step}
    (hcall : call.AsksToken) {value : StepResult}
    (hvalue : ((client source).step state call).1 = .ok value)
    (hposts : ((client source).step state call).2.2.posts = []) :
    ((client source).step state call).2.1.supply = state.supply := by
  obtain ⟨token, hkept, -⟩ := reusable?_of_posts_eq_nil hcall hvalue hposts
  rw [supply_step_of_asksToken state hcall, (ClientSource.TokenCall.reused hkept).token_eq]

end Authorizer

/-- A source whose forms hold assertions draws one identifier for each. -/
theorem ClientSource.draws_of_assertion {source : ClientSource} (htype : source.authType = .assertion)
    {supply : Supply} {form : Form} (hform : (source.form supply).1 = .ok form) : source.draws = 1 := by
  obtain ⟨key, -, -, hkey, -, -, -⟩ := form_eq_of_assertion htype hform
  rw [draws, htype, hkey]
  rfl

/-- In every run of a source of a bundle whose key has room for a signature, the assertions draw the
identifiers of the supply one after the other, and each states the time at which it is made. A call that
gives a token again draws none. So if the identifiers are all different, no assertion is made twice, and
none is sent twice. -/
theorem assertions_never_repeat {files : FileSystem} {registration : Registration} {path : GivenPath}
    {password : Option Text} {source : ClientSource}
    (hsource : (Construction.fromBundle files registration path password).authorizer =
      .ok (.client source))
    (hroom : (Construction.fromBundle files registration path password).HasRoom)
    (state : RunState) (hdistinct : Function.Injective state.supply.identifiers) (steps : List Step) :
    let authorizer := Authorizer.client source
    let made := authorizer.forms state steps
    let reached := authorizer.stateAfter state steps
    (∀ k form, made[k]? = some form →
      ∃ text : String, form.assertion? = some (some (Text.ofString text)) ∧
        Assertion.Carries text ⟨source.request.tokenUrl, source.request.clientId,
          state.supply.identifiers k, wholeSeconds form.now⟩ ∧
        (source.request.tokenUrl.IsWhole → source.request.clientId.IsWhole → IsReadableTime form.now →
          (Assertion.payload? text).bind Assertion.readSegment? =
            some (.object [("aud", .str source.request.tokenUrl),
              ("iss", .str source.request.clientId), ("sub", .str source.request.clientId),
              ("jti", .ofString (state.supply.identifiers k)), ("nbf", .int (wholeSeconds form.now)),
              ("exp", .int (wholeSeconds form.now + 3600))]))) ∧
    reached.supply.identifiers = (fun n => state.supply.identifiers (n + made.length)) ∧
    (∀ call value, call.AsksToken → (authorizer.step reached call).1 = .ok value →
      (authorizer.step reached call).2.2.posts = [] →
        (authorizer.step reached call).2.1.supply = reached.supply) ∧
    (made.map MadeForm.assertion?).Nodup ∧
    ((authorizer.exchanges state steps).map Exchange.madeForm).Sublist made ∧
    ((authorizer.exchanges state steps).map fun exchange =>
      exchange.post.form.lookup "client_assertion").Nodup := by
  intro authorizer made reached
  have hforms := fun supply => (Construction.form_isOk_iff hsource supply).mpr hroom
  obtain ⟨credential, -, rfl⟩ := Authorizer.ofBundle_eq_ok registration hsource
  obtain ⟨_, hform⟩ := hforms state.supply
  obtain ⟨hturns, hdrawn⟩ :=
    Authorizer.forms_draw_in_turn hforms (ClientSource.draws_of_assertion rfl hform) state steps
  have hcarries : ∀ k form, made[k]? = some form →
      ∃ text : String, form.assertion? = some (some (Text.ofString text)) ∧
        Assertion.Carries text ⟨registration.endpoint.url, registration.clientId,
          state.supply.identifiers k, wholeSeconds form.now⟩ := by
    intro k form hmade
    obtain ⟨supply, hform, hnow, hidentifier⟩ := hturns k form hmade
    obtain ⟨key, thumbprint, chars, -, -, hsign, hfields⟩ := ClientSource.form_eq_of_assertion rfl hform
    have hclaims := Assertion.carries_of_sign? hsign
    rw [ClientSource.claims, hnow, hidentifier] at hclaims
    refine ⟨String.ofList chars, ?_, hclaims⟩
    rw [MadeForm.assertion?, hfields]
    exact ClientSource.lookup_assertion _ _
  have hnodup : (made.map MadeForm.assertion?).Nodup := by
    rw [List.nodup_iff_getElem?_ne_getElem?]
    intro i j hij hj heq
    rw [List.length_map] at hj
    obtain ⟨text, htext, hfirst⟩ := hcarries i made[i] (List.getElem?_eq_getElem (hij.trans hj))
    obtain ⟨text', htext', hsecond⟩ := hcarries j made[j] (List.getElem?_eq_getElem hj)
    rw [List.getElem?_map, List.getElem?_map, List.getElem?_eq_getElem (hij.trans hj),
      List.getElem?_eq_getElem hj, Option.map_some, Option.map_some, htext, htext'] at heq
    cases Text.ofString_injective (Option.some.inj (Option.some.inj (Option.some.inj heq)))
    exact hij.ne (hdistinct (hfirst.identifier_eq hsecond rfl rfl))
  have hsublist := authorizer.madeForms_exchanges_sublist state steps
  refine ⟨fun k form hmade => ?_, hdrawn,
    fun call value hcall hvalue hposts => Authorizer.supply_of_no_posts _ reached hcall hvalue hposts,
    hnodup, hsublist, ?_⟩
  · obtain ⟨text, htext, hclaims⟩ := hcarries k form hmade
    exact ⟨text, htext, hclaims, fun hurl hclient hnow => hclaims.readSegment? hurl hclient hnow⟩
  · have hsent := (hsublist.map MadeForm.assertion?).nodup hnodup
    rwa [List.map_map] at hsent

/-- The source of the bundle makes its form with everything that it draws on. -/
theorem form_signingSource (supply : Supply) : ∃ form, (signingSource.form supply).1 = .ok form :=
  worldwideRegistration.form_isOk_of_reads reads_signingCredential.1 reads_signingCredential.2
    (by decide +kernel) supply

/-- A supply whose identifiers are all different, each longer by one letter than the last, and whose
requests fail. -/
def timeoutSupply : Supply where
  now := 0
  identifiers n := String.ofList (List.replicate n 'a')
  responses := List.replicate 2 (.failure "Timeout" "timed out")
  replies := []

/-- A call of the source of the bundle sends its form, and nothing comes of it if the request fails. -/
theorem exchanges_signingSource (state : RunState) (form : Form)
    (hdue : ClientSource.reusable? state.cache state.supply.now = none)
    (hform : (signingSource.form state.supply).1 = .ok form)
    (hresponse : state.supply.response = .failure "Timeout" "timed out") (steps : List Step) :
    (Authorizer.client signingSource).exchanges state (.token :: steps) =
      ⟨signingSource.postOf form, .failure "Timeout" "timed out", state.supply.now⟩ ::
        (Authorizer.client signingSource).exchanges
          { state with supply := (signingSource.form state.supply).2.afterResponse } steps := by
  obtain ⟨error, hread⟩ : ∃ error, ClientSource.readOutcome signingSource.request.tokenUrl
      state.supply.response state.supply.now = .error error := by
    rw [hresponse]
    exact ⟨_, rfl⟩
  have htoken := (ClientSource.TokenCall.refused hdue rfl hform hread).token_eq
  rw [Authorizer.exchanges, Authorizer.step, Authorizer.tokenStep, Authorizer.token]
  simp only [htoken, Authorizer.exchangesOf, hresponse]
  rfl

/-- A request that fails is made again later with another assertion. -/
theorem signingSource_retries_with_another_assertion :
    (Construction.fromBundle signingFiles worldwideRegistration signingPath none).authorizer =
        .ok (.client signingSource) ∧
      (Construction.fromBundle signingFiles worldwideRegistration signingPath none).HasRoom ∧
      Function.Injective timeoutSupply.identifiers ∧
      ∃ first second, (Authorizer.client signingSource).exchanges (.start timeoutSupply)
          [.token, .clock 3, .token] =
            [⟨signingSource.postOf first, .failure "Timeout" "timed out", 0⟩,
              ⟨signingSource.postOf second, .failure "Timeout" "timed out", 3⟩] ∧
        first.lookup "client_assertion" ≠ second.lookup "client_assertion" := by
  obtain ⟨first, hfirst⟩ := form_signingSource timeoutSupply
  obtain ⟨second, hsecond⟩ :=
    form_signingSource ((signingSource.form timeoutSupply).2.afterResponse.setClock 3)
  have hroom := (Construction.form_isOk_iff signingSource_authorizer timeoutSupply).mp ⟨first, hfirst⟩
  have hdistinct : Function.Injective timeoutSupply.identifiers := fun n m heq =>
    (List.replicate_inj.mp (String.ofList_injective heq)).1
  have hexchanges : (Authorizer.client signingSource).exchanges (.start timeoutSupply)
      [.token, .clock 3, .token] =
        [⟨signingSource.postOf first, .failure "Timeout" "timed out", 0⟩,
          ⟨signingSource.postOf second, .failure "Timeout" "timed out", 3⟩] := by
    have hnext : ((signingSource.form timeoutSupply).2.afterResponse.setClock 3).response =
        .failure "Timeout" "timed out" := by
      rcases signingSource.form_supply timeoutSupply with h | h <;> rw [h] <;> rfl
    rw [exchanges_signingSource (.start timeoutSupply) first rfl hfirst rfl,
      Authorizer.exchanges_clock, exchanges_signingSource _ second]
    · rfl
    · rfl
    · exact hsecond
    · exact hnext
  obtain ⟨-, -, -, -, -, hsent⟩ := assertions_never_repeat signingSource_authorizer hroom
    (.start timeoutSupply) hdistinct [.token, .clock 3, .token]
  rw [hexchanges] at hsent
  refine ⟨signingSource_authorizer, hroom, hdistinct, first, second, hexchanges, fun hsame => ?_⟩
  exact (List.nodup_cons.mp hsent).1 (List.mem_singleton.mpr hsame)

end CloudAuth
