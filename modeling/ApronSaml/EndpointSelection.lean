import ApronSaml.MetadataErrors

/-!
# Which endpoint is selected, and which should be

The descriptor demands more of its single sign-on URL than the selection asks of a
location: no credentials, and of course a location that can be parsed at all. An endpoint
that is usable by the descriptor's standard is selected as it should be unless one before
it is taken by the weaker standard or raises; both are described by the same condition on
the advertised locations.
-/

namespace ApronSaml

open Raising Whitespace

/-- The location of an endpoint is what the descriptor demands of its single sign-on URL. -/
def Usable (tables : Url.Tables) (service : SingleSignOnService) : Prop :=
  requireWebUrl tables service.strippedLocation "sso_url must be an absolute http or https URL"
    "sso_url must not contain userinfo (credentials)" = .ok ()

instance (tables : Url.Tables) (service : SingleSignOnService) : Decidable (Usable tables service) :=
  inferInstanceAs (Decidable (requireWebUrl tables service.strippedLocation _ _ = .ok ()))

/-- The location of the first endpoint of a binding that is usable. -/
def firstOfBinding (tables : Url.Tables) (services : List SingleSignOnService) (binding : String) : Option String :=
  (services.find? fun service => decide (service.binding = some binding ∧ Usable tables service)).map
    SingleSignOnService.strippedLocation

/-- The URL to select: the first usable Redirect location, or else the first usable POST location. -/
def urlToSelect (tables : Url.Tables) (services : List SingleSignOnService) : Option String :=
  (firstOfBinding tables services bindingHttpRedirect).or (firstOfBinding tables services bindingHttpPost)

/-- A usable endpoint of one of the two web bindings. -/
def IsWebEndpoint (tables : Url.Tables) (service : SingleSignOnService) : Prop :=
  (service.binding = some bindingHttpRedirect ∨ service.binding = some bindingHttpPost) ∧ Usable tables service

instance (tables : Url.Tables) (service : SingleSignOnService) : Decidable (IsWebEndpoint tables service) :=
  inferInstanceAs (Decidable ((_ ∨ _) ∧ _))

/-- Nothing shadows a usable endpoint: no location that the selection looks at is malformed, and the one it
prefers, by its own standard, carries no credentials. -/
def NothingShadows (tables : Url.Tables) (services : List SingleSignOnService) : Prop :=
  ¬ ReachesMalformed tables services ∧
    ∀ location, preferredUsable tables services = some location → HasNoUserinfo tables location

variable {tables : Url.Tables} {services : List SingleSignOnService}

/-- What the descriptor accepts is a web URL by the selection's standard that carries no credentials. -/
theorem requireWebUrl_ok_iff {location notWeb userinfo : String} :
    requireWebUrl tables location notWeb userinfo = .ok () ↔
      isHttpUrl tables location = .ok true ∧ HasNoUserinfo tables location := by
  constructor
  · intro h
    obtain ⟨parts, hparts, hrest⟩ := bind_ok_iff.mp h
    rw [raiseIf_bind_ok_iff, raiseIf_ok_iff] at hrest
    refine ⟨?_, parts, hparts, by simpa using hrest.2⟩
    simpa [isHttpUrl, hparts] using hrest.1
  · intro h
    rcases requireWebUrl_of_isHttpUrl h.1 with ⟨_, hok⟩ | ⟨hnot, _⟩
    · exact hok
    · exact absurd h.2 hnot

/-- A first hit of a weaker test that passes a stronger one is the first hit of the stronger one. -/
theorem find?_of_imp {A : Type} {p q : A → Bool} {items : List A} {a : A} (himp : ∀ b, q b = true → p b = true)
    (hfind : items.find? p = some a) (hq : q a = true) : items.find? q = some a := by
  obtain ⟨_, before, after, rfl, hbefore⟩ := List.find?_eq_some_iff_append.mp hfind
  refine List.find?_eq_some_iff_append.mpr ⟨hq, before, after, rfl, fun b hb => ?_⟩
  have hnot := hbefore b hb
  cases hqb : q b with
  | false => rfl
  | true => simp [himp b hqb] at hnot

/-- Where the selection's first location of a binding carries no credentials, it is the first usable one. -/
theorem firstOfBinding_eq {binding : String}
    (h : ∀ location, firstUsable tables services binding = some location → HasNoUserinfo tables location) :
    firstOfBinding tables services binding = firstUsable tables services binding := by
  have himp (service : SingleSignOnService)
      (hstrict : decide (service.binding = some binding ∧ Usable tables service) = true) :
      (decide (service.binding = some binding) &&
        decide (isHttpUrl tables service.strippedLocation = .ok true)) = true := by
    rw [decide_eq_true_eq] at hstrict
    simp [hstrict.1, (requireWebUrl_ok_iff.mp hstrict.2).1]
  rw [firstOfBinding]
  cases hfirst : firstUsable tables services binding with
  | none =>
    rw [firstUsable, Option.map_eq_none_iff, List.find?_eq_none] at hfirst
    rw [Option.map_eq_none_iff, List.find?_eq_none]
    exact fun service hservice hstrict => hfirst service hservice (himp service hstrict)
  | some location =>
    have huserinfo := h location hfirst
    obtain ⟨service, hfind, rfl⟩ := Option.map_eq_some_iff.mp hfirst
    have hfound := List.find?_some hfind
    simp only [Bool.and_eq_true, decide_eq_true_eq] at hfound
    rw [find?_of_imp himp hfind (decide_eq_true ⟨hfound.1, requireWebUrl_ok_iff.mpr ⟨hfound.2, huserinfo⟩⟩)]
    rfl

/-- Where nothing shadows a usable endpoint, the selection prefers the URL to select. -/
theorem NothingShadows.preferredUsable_eq (h : NothingShadows tables services) :
    preferredUsable tables services = urlToSelect tables services := by
  have hredirect : firstOfBinding tables services bindingHttpRedirect =
      firstUsable tables services bindingHttpRedirect := by
    refine firstOfBinding_eq fun location hlocation => h.2 location ?_
    rw [preferredUsable, hlocation, Option.some_or]
  rw [preferredUsable, urlToSelect, hredirect]
  cases hfirst : firstUsable tables services bindingHttpRedirect with
  | some location => simp only [Option.some_or]
  | none =>
    simp only [Option.none_or]
    refine (firstOfBinding_eq fun location hlocation => h.2 location ?_).symm
    rw [preferredUsable, hfirst, Option.none_or, hlocation]

/-- The URL to select depends on the usable endpoints of the web bindings alone. -/
theorem urlToSelect_congr {services' : List SingleSignOnService}
    (h : services'.filter (fun service => decide (IsWebEndpoint tables service)) =
      services.filter fun service => decide (IsWebEndpoint tables service)) :
    urlToSelect tables services' = urlToSelect tables services := by
  have hbinding (services : List SingleSignOnService) {binding : String}
      (hweb : binding = bindingHttpRedirect ∨ binding = bindingHttpPost) :
      firstOfBinding tables services binding =
        ((services.filter fun service => decide (IsWebEndpoint tables service)).find? fun service =>
          decide (service.binding = some binding)).map SingleSignOnService.strippedLocation := by
    rw [firstOfBinding, List.find?_filter]
    congr 2
    funext service
    rw [decide_eq_decide, decide_eq_true_eq, decide_eq_true_eq, IsWebEndpoint]
    constructor
    · intro hservice
      rw [hservice.1, Option.some.injEq, Option.some.injEq]
      exact ⟨⟨hweb, hservice.2⟩, rfl⟩
    · intro hservice
      exact ⟨hservice.2, hservice.1.2⟩
  simp only [urlToSelect, hbinding services' (Or.inl rfl), hbinding services' (Or.inr rfl),
    hbinding services (Or.inl rfl), hbinding services (Or.inr rfl), h]

section Metadata

variable {env : Environment} {xml : String} {entity : EntityDescriptor} {root : ElementTree.Element}

/-- The entry point selects as it should: it returns with the URL to select, or raises a `MetadataError` where
there is none. -/
structure SelectsUsable (env : Environment) (xml : String) (entity : EntityDescriptor) : Prop where
  returns : ∀ url, urlToSelect env.tables (endpoints entity.idpssoDescriptor) = some url →
    ∃ idp, parseIdpMetadata env xml = .ok idp ∧ idp.ssoUrl = url
  refuses : urlToSelect env.tables (endpoints entity.idpssoDescriptor) = none →
    ∃ message, parseIdpMetadata env xml = .error (.metadata message)

/-- Where nothing shadows a usable endpoint, the outcome is the URL to select. -/
theorem map_ssoUrl_of_nothingShadows (hdescribes : DescribesIdp env xml entity)
    (hroot : env.parseSafeXml false xml = .ok root)
    (h : NothingShadows env.tables (endpoints entity.idpssoDescriptor)) :
    (parseIdpMetadata env xml).map IdPDescriptor.ssoUrl =
      required (urlToSelect env.tables (endpoints entity.idpssoDescriptor)) noSsoEndpoint := by
  rw [hdescribes.parseIdpMetadata_eq, ← h.preferredUsable_eq]
  rcases selectSsoUrl_cases env.tables entity.idpssoDescriptor with
    ⟨hmalformed, _⟩ | ⟨_, ⟨location, hlocation, hselect⟩ | ⟨hnone, hselect⟩⟩
  · exact absurd hmalformed h.1
  · obtain ⟨_, htest⟩ := (requireWebUrl_of_isHttpUrl (isHttpUrl_of_preferredUsable hlocation)).resolve_right
      fun hshadowed => hshadowed.1 (h.2 location hlocation)
    have hmake : IdPDescriptor.make env.tables (strip (entity.entityId.getD "")) location
        (collectSigningCertificates root) = .ok ⟨_, location, _, htest⟩ := IdPDescriptor.make_ok_iff.mpr ⟨rfl, rfl, rfl⟩
    rw [hselect, ok_bind, hroot, ok_bind, hlocation, hmake]
    rfl
  · rw [hselect, hnone]
    rfl

/-- Where something shadows a usable endpoint, a `ValueError` leaves the entry point. -/
theorem valueError_of_shadowed (hdescribes : DescribesIdp env xml entity)
    (hroot : env.parseSafeXml false xml = .ok root)
    (h : ¬ NothingShadows env.tables (endpoints entity.idpssoDescriptor)) :
    ∃ message, parseIdpMetadata env xml = .error (.valueError message) := by
  rw [hdescribes.parseIdpMetadata_eq]
  rcases selectSsoUrl_cases env.tables entity.idpssoDescriptor with
    ⟨_, message, hselect⟩ | ⟨hwellformed, ⟨location, hlocation, hselect⟩ | ⟨hnone, hselect⟩⟩
  · exact ⟨message, by rw [hselect]; rfl⟩
  · rw [hselect, ok_bind, hroot, ok_bind]
    rcases requireWebUrl_of_isHttpUrl (isHttpUrl_of_preferredUsable hlocation) with ⟨huserinfo, _⟩ | ⟨_, htest⟩
    · refine absurd ⟨hwellformed, fun other hother => ?_⟩ h
      rw [hlocation, Option.some.injEq] at hother
      exact hother ▸ huserinfo
    · exact ⟨_, IdPDescriptor.make_error_iff.mpr htest⟩
  · exact absurd ⟨hwellformed, by simp [hnone]⟩ h

/-- Metadata that describes an identity provider yields the first usable Redirect location, or else the first usable
POST location, or else a `MetadataError`, exactly when nothing shadows a usable endpoint: no location that the
selection looks at is malformed, and the one it prefers carries no credentials. From such metadata, documents that
differ in unusable endpoints and endpoints of other bindings have the same outcome exactly when nothing shadows
a usable endpoint in them either. -/
theorem selectsUsable_iff (hdescribes : DescribesIdp env xml entity) (hroot : env.parseSafeXml false xml = .ok root) :
    (SelectsUsable env xml entity ↔ NothingShadows env.tables (endpoints entity.idpssoDescriptor)) ∧
    ∀ xml' entity' root', DescribesIdp env xml' entity' → env.parseSafeXml false xml' = .ok root' →
      (endpoints entity'.idpssoDescriptor).filter (fun service => decide (IsWebEndpoint env.tables service)) =
        (endpoints entity.idpssoDescriptor).filter (fun service => decide (IsWebEndpoint env.tables service)) →
      NothingShadows env.tables (endpoints entity.idpssoDescriptor) →
      ((parseIdpMetadata env xml').map IdPDescriptor.ssoUrl = (parseIdpMetadata env xml).map IdPDescriptor.ssoUrl ↔
        NothingShadows env.tables (endpoints entity'.idpssoDescriptor)) := by
  constructor
  · constructor
    · intro h
      by_contra hshadowed
      obtain ⟨message, herror⟩ := valueError_of_shadowed hdescribes hroot hshadowed
      cases hurl : urlToSelect env.tables (endpoints entity.idpssoDescriptor) with
      | some url =>
        obtain ⟨idp, hok, _⟩ := h.returns url hurl
        simp [herror] at hok
      | none =>
        obtain ⟨other, hrefused⟩ := h.refuses hurl
        simp [herror, PyError.metadata] at hrefused
    · intro h
      have houtcome := map_ssoUrl_of_nothingShadows hdescribes hroot h
      refine ⟨fun url hurl => ?_, fun hnone => ?_⟩
      · rw [hurl] at houtcome
        exact map_ok_iff.mp houtcome
      · rw [hnone] at houtcome
        exact ⟨_, map_error_iff.mp houtcome⟩
  · intro xml' entity' root' hdescribes' hroot' hfilter h
    constructor
    · intro hsame
      by_contra hshadowed
      obtain ⟨message, herror⟩ := valueError_of_shadowed hdescribes' hroot' hshadowed
      rw [herror, map_ssoUrl_of_nothingShadows hdescribes hroot h] at hsame
      cases hurl : urlToSelect env.tables (endpoints entity.idpssoDescriptor) <;>
        simp [hurl, required, Except.map, noSsoEndpoint, PyError.metadata] at hsame
    · intro h'
      rw [map_ssoUrl_of_nothingShadows hdescribes hroot h, map_ssoUrl_of_nothingShadows hdescribes' hroot' h',
        urlToSelect_congr hfilter]

end Metadata

/-- Nothing shadows the endpoint of the deployment, which is the one selected. -/
theorem selectsUsable_iff_demo :
    SelectsUsable (metadataEnvironment demoLocation) (demoMetadataXml demoLocation) (demoDescriptor demoLocation) := by
  have hroot : (metadataEnvironment demoLocation).parseSafeXml false (demoMetadataXml demoLocation) =
      .ok (demoMetadata demoLocation) := parseSafeXml_tableEnvironment_self false
  refine (selectsUsable_iff (describesIdp_metadataEnvironment demoLocation) hroot).1.mpr ?_
  have hselect : selectSsoUrl (metadataEnvironment demoLocation).tables
      (demoDescriptor demoLocation).idpssoDescriptor = .ok demoLocation := by decide +kernel
  rcases selectSsoUrl_cases (metadataEnvironment demoLocation).tables (demoDescriptor demoLocation).idpssoDescriptor with
    ⟨_, _, hraised⟩ | ⟨hwellformed, _⟩
  · rw [hselect] at hraised
    cases hraised
  · refine ⟨hwellformed, fun location hlocation => ?_⟩
    have hpreferred : preferredUsable (metadataEnvironment demoLocation).tables
        (endpoints (demoDescriptor demoLocation).idpssoDescriptor) = some demoLocation := by decide +kernel
    rw [hpreferred, Option.some.injEq] at hlocation
    exact hlocation ▸ (requireWebUrl_ok_iff.mp demoIdp.ssoUrl_ok).2

/-- A location with credentials. -/
def credentialsLocation : String := "https://user@idp.example.com/sso"

/-- The text of metadata that advertises a Redirect endpoint with credentials before a usable one. -/
def shadowedXml : String :=
  "<md:EntityDescriptor xmlns:md=\"urn:oasis:names:tc:SAML:2.0:metadata\" entityID=\"https://idp.example.com\">" ++
  "<md:IDPSSODescriptor protocolSupportEnumeration=\"urn:oasis:names:tc:SAML:2.0:protocol\">" ++
  "<md:SingleSignOnService Binding=\"urn:oasis:names:tc:SAML:2.0:bindings:HTTP-Redirect\" " ++
  "Location=\"https://user@idp.example.com/sso\"/>" ++
  "<md:SingleSignOnService Binding=\"urn:oasis:names:tc:SAML:2.0:bindings:HTTP-Redirect\" " ++
  "Location=\"https://idp.example.com/sso\"/></md:IDPSSODescriptor></md:EntityDescriptor>"

/-- The tree of the metadata with two endpoints. -/
def shadowedMetadata : ElementTree.Element :=
  ⟨qname mdNs "EntityDescriptor", [("entityID", demoIssuer)], none, [
    ⟨qname mdNs "IDPSSODescriptor", [("protocolSupportEnumeration", samlpNs)], none, [
      ⟨qname mdNs "SingleSignOnService", [("Binding", bindingHttpRedirect), ("Location", credentialsLocation)],
        none, [], none⟩,
      ⟨qname mdNs "SingleSignOnService", [("Binding", bindingHttpRedirect), ("Location", demoLocation)],
        none, [], none⟩],
      none⟩], none⟩

/-- The object model of the metadata with two endpoints. -/
def shadowedDescriptor : EntityDescriptor :=
  ⟨some demoIssuer, [⟨[⟨some bindingHttpRedirect, some credentialsLocation⟩,
    ⟨some bindingHttpRedirect, some demoLocation⟩]⟩]⟩

/-- The environment of the metadata with two endpoints. -/
def shadowedEnvironment : Environment :=
  tableEnvironment [(shadowedXml, shadowedMetadata)] [(shadowedXml, shadowedDescriptor)] [] fun _ => none

/-- An endpoint with credentials in its location shadows the usable one after it: a `ValueError` leaves the
function instead of a descriptor with the usable location. -/
theorem shadowed_endpoint_is_not_selected :
    urlToSelect shadowedEnvironment.tables (endpoints shadowedDescriptor.idpssoDescriptor) = some demoLocation ∧
      ¬ SelectsUsable shadowedEnvironment shadowedXml shadowedDescriptor := by
  have hurl : urlToSelect shadowedEnvironment.tables (endpoints shadowedDescriptor.idpssoDescriptor) =
      some demoLocation := by decide +kernel
  have hdescribes : DescribesIdp shadowedEnvironment shadowedXml shadowedDescriptor :=
    ⟨entityDescriptorFromString_tableEnvironment_self, by decide +kernel, List.cons_ne_nil _ _⟩
  have hroot : shadowedEnvironment.parseSafeXml false shadowedXml = .ok shadowedMetadata :=
    parseSafeXml_tableEnvironment_self false
  have hselect : selectSsoUrl shadowedEnvironment.tables shadowedDescriptor.idpssoDescriptor =
      .ok credentialsLocation := by decide +kernel
  have htest : requireWebUrl shadowedEnvironment.tables credentialsLocation
      "sso_url must be an absolute http or https URL" "sso_url must not contain userinfo (credentials)" =
      .error (.valueError "sso_url must not contain userinfo (credentials)") := by decide +kernel
  refine ⟨hurl, fun h => ?_⟩
  obtain ⟨idp, hok, _⟩ := h.returns demoLocation hurl
  rw [hdescribes.parseIdpMetadata_eq, hselect, ok_bind, hroot, ok_bind, IdPDescriptor.make_error_iff.mpr htest] at hok
  cases hok

end ApronSaml
