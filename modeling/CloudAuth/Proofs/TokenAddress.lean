import CloudAuth.Proofs.RequestForm
import CloudAuth.Proofs.TenantNormalization

/-!
# What an address tells

The tenant stands in an address as it is, between the authority and the end that belongs to the version,
and may imitate either of them. It passes for neither: no authority with the slash after it starts like
another one of the registry, and neither of the two ends is at the end of the other. So the address tells
the authority, the tenant and the version, although it marks the places of none of them.
-/

namespace CloudAuth

/-- The tenant that a token is requested for: what is left between the blanks, or `common` if nothing
is. -/
def requestedTenant (tenant : Option Text) : Text :=
  if bareTenant tenant = [] then Text.ofString "common" else bareTenant tenant

/-- The end of the addresses of a version. -/
def addressEnd : TokenVersion → Text
  | .v1 => v1Suffix
  | .v2 => v2Suffix

/-- An address consists of the authority and a slash, the tenant, and the end of the version. -/
theorem tokenUrl_eq (authority : Text) (tenant : Option Text) (version : TokenVersion) :
    tokenUrl authority tenant (some version) =
      (authority ++ "/") ++ (requestedTenant tenant ++ addressEnd version) := by
  have hend : Text.ofString "/oauth2" ++ versionSegment (some version) ++ "/token" = addressEnd version := by
    cases version <;> decide
  rw [tokenUrl, normalTenant_eq, ← hend, requestedTenant]
  simp only [List.append_assoc]

/-- An address ends like those of one version only. -/
theorem version_eq_of_addressEnd {v w : TokenVersion} {url : Text} (hv : addressEnd v <:+ url)
    (hw : addressEnd w <:+ url) : v = w := by
  have hends : ∀ v w : TokenVersion, addressEnd v <:+ addressEnd w → v = w := by
    intro v w
    cases v <;> cases w <;> decide
  rcases List.suffix_or_suffix_of_suffix hv hw with hvw | hwv
  · exact hends v w hvw
  · exact (hends w v hwv).symm

/-- An address starts like those of one authority of the registry only. -/
theorem Cloud.authority_eq_of_prefix {first second : Cloud} (hfirst : first ∈ registry)
    (hsecond : second ∈ registry) {url : Text} (hurl : first.authority ++ Text.ofString "/" <+: url)
    (hother : second.authority ++ Text.ofString "/" <+: url) : first.authority = second.authority := by
  have hstarts : ∀ first ∈ registry, ∀ second ∈ registry,
      first.authority ++ Text.ofString "/" <+: second.authority ++ Text.ofString "/" →
        first.authority = second.authority := by
    decide +kernel
  rcases List.prefix_or_prefix_of_prefix hurl hother with hprefix | hprefix
  · exact hstarts first hfirst second hsecond hprefix
  · exact (hstarts second hsecond first hfirst hprefix).symm

/-- Addresses of one authority are the same exactly when their versions and their tenants are. -/
theorem tokenUrl_eq_iff (authority : Text) (a b : Option Text) (v w : TokenVersion) :
    tokenUrl authority a (some v) = tokenUrl authority b (some w) ↔
      v = w ∧ requestedTenant a = requestedTenant b := by
  rw [tokenUrl_eq, tokenUrl_eq, List.append_cancel_left_eq]
  constructor
  · intro hurl
    have hend : addressEnd w <:+ requestedTenant a ++ addressEnd v := by
      rw [hurl]
      exact List.suffix_append _ _
    obtain rfl : v = w := version_eq_of_addressEnd (List.suffix_append _ _) hend
    exact ⟨rfl, List.append_cancel_right hurl⟩
  · rintro ⟨rfl, htenant⟩
    rw [htenant]

/-- An address tells the version and the tenant that it is for, and the authority too if that is one of
the registry: whatever the tenants are, requests for different ones, in different versions or at different
authorities, go to different addresses. -/
theorem address_tells_tenant_and_version :
    (∀ authority a b v w, tokenUrl authority a (some v) = tokenUrl authority b (some w) ↔
      v = w ∧ requestedTenant a = requestedTenant b) ∧
    ∀ first ∈ Cloud.registry, ∀ second ∈ Cloud.registry, ∀ a b v w,
      tokenUrl first.authority a (some v) = tokenUrl second.authority b (some w) →
        first.authority = second.authority ∧ requestedTenant a = requestedTenant b ∧ v = w := by
  refine ⟨tokenUrl_eq_iff, fun first hfirst second hsecond a b v w hurl => ?_⟩
  have hstart (cloud : Cloud) (tenant : Option Text) (version : TokenVersion) :
      cloud.authority ++ Text.ofString "/" <+: tokenUrl cloud.authority tenant (some version) := by
    rw [tokenUrl_eq]
    exact List.prefix_append _ _
  have hauthority : first.authority = second.authority :=
    Cloud.authority_eq_of_prefix hfirst hsecond (hurl ▸ hstart first a v) (hstart second b w)
  rw [hauthority] at hurl
  obtain ⟨hversion, htenant⟩ := (tokenUrl_eq_iff second.authority a b v w).mp hurl
  exact ⟨hauthority, htenant, hversion⟩

/-- A tenant that imitates the end of the second version is told from that version, and a blank tenant has
the address of the tenant `common`, in another cloud of the same authority too. -/
theorem address_of_imitating_tenant :
    tokenUrl "https://login.microsoftonline.com" (some "t/oauth2/v2.0/token") (some .v1) ≠
        tokenUrl "https://login.microsoftonline.com" (some "t") (some .v2) ∧
      tokenUrl Cloud.worldwide.authority none (some .v2) =
        tokenUrl Cloud.canary.authority (some " common\n") (some .v2) ∧
      Cloud.worldwide.authority = Cloud.canary.authority ∧
      requestedTenant none = requestedTenant (some " common\n") := by
  obtain ⟨hsame, hregistry⟩ := address_tells_tenant_and_version
  have hurl : tokenUrl Cloud.worldwide.authority none (some .v2) =
      tokenUrl Cloud.canary.authority (some " common\n") (some .v2) := by
    decide +kernel
  obtain ⟨hauthority, htenant, -⟩ :=
    hregistry .worldwide (by simp [Cloud.registry]) .canary (by simp [Cloud.registry]) _ _ _ _ hurl
  refine ⟨fun h => ?_, hurl, hauthority, htenant⟩
  obtain ⟨hversion, -⟩ := (hsame _ _ _ _ _).mp h
  cases hversion

end CloudAuth
