import CloudAuth.Proofs.Issuance

/-!
# What a token call can do

`TokenCall` lists the ways in which a call for a token can go, each with its result, the cache and the
supply that it leaves, and its trace. `tokenCall_token` says that the list is complete. Later proofs open a
call through it alone.
-/

namespace CloudAuth

namespace ClientSource

/-- A token can be given again exactly when it is the last one and its time is not near. -/
theorem reusable?_eq_some_iff (cache : TokenCache) (now : Rat) (token : AccessToken) :
    reusable? cache now = some token ↔
      cache.token = some token ∧ now < ((token.expiresOn - 300 : Int) : Rat) := by
  rw [reusable?, Option.filter_eq_some_iff]
  unfold isExpiring expiryMargin
  rw [Bool.not_eq_true', decide_eq_false_iff_not, Rat.not_le]

/-- The record that begins an exchange of a source. -/
def exchangeRecord (source : ClientSource) (name : String) : Event :=
  .log (requestRecord name source.request.tokenUrl)

/-- The request that sends a form of a source. -/
def postOf (source : ClientSource) (form : Form) : Post := ⟨source.request.tokenUrl, form, headers⟩

/-- The ways in which a call for a token can go. -/
inductive TokenCall (source : ClientSource) (cache : TokenCache) (supply : Supply) :
    Except Error AccessToken × TokenCache × Supply × Trace → Prop where
  /-- The last token is given again. -/
  | reused {token : AccessToken} (hkept : reusable? cache supply.now = some token) :
      TokenCall source cache supply (.ok token, cache, supply, [])
  /-- The way to authenticate has no name. -/
  | unnamed {fault : Fault} (hdue : reusable? cache supply.now = none)
      (hname : authName source.authType = .error fault) :
      TokenCall source cache supply (.error (.fault fault), cache, supply, [])
  /-- No form can be made, so nothing is sent. -/
  | unsent {name : String} {fault : Fault} (hdue : reusable? cache supply.now = none)
      (hname : authName source.authType = .ok name)
      (hform : (source.form supply).1 = .error fault) :
      TokenCall source cache supply
        (.error (.fault fault), cache, (source.form supply).2, [source.exchangeRecord name])
  /-- A form is sent, and no token comes of it. -/
  | refused {name : String} {form : Form} {error : Error} (hdue : reusable? cache supply.now = none)
      (hname : authName source.authType = .ok name) (hform : (source.form supply).1 = .ok form)
      (hread : readOutcome source.request.tokenUrl supply.response supply.now = .error error) :
      TokenCall source cache supply
        (.error error, cache, (source.form supply).2.afterResponse,
          [source.exchangeRecord name, .post (source.postOf form)])
  /-- A form is sent, and a token comes of it. -/
  | issued {name : String} {form : Form} {token : AccessToken}
      (hdue : reusable? cache supply.now = none)
      (hname : authName source.authType = .ok name) (hform : (source.form supply).1 = .ok form)
      (hread : readOutcome source.request.tokenUrl supply.response supply.now = .ok token) :
      TokenCall source cache supply
        (.ok token, ⟨some token, cache.obtained + 1⟩, (source.form supply).2.afterResponse,
          [source.exchangeRecord name, .post (source.postOf form)])

/-- A form draws nothing but an identifier. -/
theorem form_supply (source : ClientSource) (supply : Supply) :
    (source.form supply).2 = supply ∨ (source.form supply).2 = supply.afterIdentifier := by
  cases htype : source.authType with
  | assertion =>
    cases hkey : loadKey source.request.privateKey with
    | error fault => exact .inl (by simp [form, htype, assertion, hkey])
    | ok key => exact .inr (by simp [form, htype, assertion, hkey])
  | secret => exact .inl (by simp [form, htype])
  | other v => exact .inl (by simp [form, htype])

/-- Making a form leaves the outcome of the next request as it is. -/
theorem form_response (source : ClientSource) (supply : Supply) :
    (source.form supply).2.response = supply.response := by
  rcases form_supply source supply with h | h <;> rw [h]
  rfl

/-- Making a form leaves the clock as it is. -/
theorem form_now (source : ClientSource) (supply : Supply) :
    (source.form supply).2.now = supply.now := by
  rcases form_supply source supply with h | h <;> rw [h]
  rfl

/-- Every call for a token goes in one of the listed ways. -/
theorem tokenCall_token (source : ClientSource) (cache : TokenCache) (supply : Supply) :
    TokenCall source cache supply (source.token cache supply) := by
  unfold token
  cases hkept : reusable? cache supply.now with
  | some token => exact .reused hkept
  | none =>
    unfold exchange
    cases hname : authName source.authType with
    | error fault => exact .unnamed hkept hname
    | ok name =>
      have hresponse := form_response source supply
      have hnow := form_now source supply
      cases hform : (source.form supply).1 with
      | error fault =>
        have hpair : source.form supply = (.error fault, (source.form supply).2) := by rw [← hform]
        rw [hpair]
        exact .unsent hkept hname hform
      | ok form =>
        have hpair : source.form supply = (.ok form, (source.form supply).2) := by rw [← hform]
        rw [hpair]
        simp only [hresponse, hnow]
        cases hread : readOutcome source.request.tokenUrl supply.response supply.now with
        | error error => exact .refused hkept hname hform hread
        | ok token => exact .issued hkept hname hform hread

/-- A way in which a call can go is the way in which it goes. -/
theorem TokenCall.token_eq {source : ClientSource} {cache : TokenCache} {supply : Supply}
    {call : Except Error AccessToken × TokenCache × Supply × Trace}
    (hcall : TokenCall source cache supply call) : source.token cache supply = call := by
  cases hcall with
  | reused hkept =>
    unfold ClientSource.token
    rw [hkept]
  | unnamed hdue hname =>
    unfold ClientSource.token exchange
    rw [hdue, hname]
  | @unsent name fault hdue hname hform =>
    have hpair : source.form supply = (.error fault, (source.form supply).2) := by rw [← hform]
    unfold ClientSource.token exchange
    rw [hdue, hname, hpair]
    rfl
  | @refused name form error hdue hname hform hread =>
    have hpair : source.form supply = (.ok form, (source.form supply).2) := by rw [← hform]
    unfold ClientSource.token exchange
    rw [hdue, hname, hpair]
    simp only [form_response, form_now, hread]
    rfl
  | @issued name form token hdue hname hform hread =>
    have hpair : source.form supply = (.ok form, (source.form supply).2) := by rw [← hform]
    unfold ClientSource.token exchange
    rw [hdue, hname, hpair]
    simp only [form_response, form_now, hread]
    rfl

/-- What a call sends is the form of the source. -/
theorem form_of_mem_posts (source : ClientSource) {cache : TokenCache} {supply : Supply} {post : Post}
    (hpost : post ∈ (source.token cache supply).2.2.2.posts) :
    ∃ form, (source.form supply).1 = .ok form ∧ post = source.postOf form := by
  have hcall := source.tokenCall_token cache supply
  revert hcall hpost
  generalize source.token cache supply = call
  intro hpost hcall
  cases hcall with
  | reused hkept => cases hpost
  | unnamed hdue hname => cases hpost
  | unsent hdue hname hform => cases hpost
  | refused hdue hname hform hread => exact ⟨_, hform, List.mem_singleton.mp hpost⟩
  | issued hdue hname hform hread => exact ⟨_, hform, List.mem_singleton.mp hpost⟩

/-- A call that is due sends the form of the source, if there is one. -/
theorem posts_token_of_form {source : ClientSource} {cache : TokenCache} {supply : Supply}
    {name : String} {form : Form} (hdue : reusable? cache supply.now = none)
    (hname : authName source.authType = .ok name) (hform : (source.form supply).1 = .ok form) :
    (source.token cache supply).2.2.2.posts = [source.postOf form] := by
  have hcall := source.tokenCall_token cache supply
  generalize source.token cache supply = call at hcall ⊢
  cases hcall with
  | reused hkept => cases hdue.symm.trans hkept
  | unnamed _ hunnamed => cases hname.symm.trans hunnamed
  | unsent _ _ hunmade => cases hform.symm.trans hunmade
  | refused _ _ hmade _ =>
    cases hform.symm.trans hmade
    rfl
  | issued _ _ hmade _ =>
    cases hform.symm.trans hmade
    rfl

/-- A token that a call gives was kept, or was issued to the one request of the call. -/
theorem posts_token_of_ok (source : ClientSource) {cache : TokenCache} {supply : Supply}
    {token : AccessToken} (hok : (source.token cache supply).1 = .ok token) :
    ((source.token cache supply).2.2.2.posts = [] ∧ reusable? cache supply.now = some token) ∨
      ∃ form, (source.token cache supply).2.2.2.posts = [source.postOf form] ∧
        supply.response.Issues supply.now token := by
  have hcall := source.tokenCall_token cache supply
  revert hcall hok
  generalize source.token cache supply = call
  intro hok hcall
  cases hcall with
  | reused hkept =>
    rw [Except.ok.inj hok] at hkept
    exact .inl ⟨rfl, hkept⟩
  | unnamed hdue hname => contradiction
  | unsent hdue hname hform => contradiction
  | refused hdue hname hform hread => contradiction
  | issued hdue hname hform hread =>
    rw [Except.ok.inj hok] at hread
    exact .inr ⟨_, rfl, (readOutcome_eq_ok_iff _ _ _ _).mp hread⟩

/-- A call that fails although it sends a request fails with what its outcome is read as. -/
theorem posts_token_of_error (source : ClientSource) {cache : TokenCache} {supply : Supply} {error : Error}
    (herror : (source.token cache supply).1 = .error error) :
    (source.token cache supply).2.2.2.posts = [] ∨
      readOutcome source.request.tokenUrl supply.response supply.now = .error error := by
  have hcall := source.tokenCall_token cache supply
  generalize source.token cache supply = call at hcall herror ⊢
  cases hcall with
  | reused hkept => contradiction
  | unnamed hdue hname => exact .inl rfl
  | unsent hdue hname hform => exact .inl rfl
  | refused hdue hname hform hread =>
    rw [Except.error.inj herror] at hread
    exact .inr hread
  | issued hdue hname hform hread => contradiction

end ClientSource

end CloudAuth
