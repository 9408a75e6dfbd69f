import ApronSaml.Deployment
import ApronSaml.SsoSelection

/-!
# How the metadata entry point fails

The object-model parse is guarded, the rest is not: parsing a location as a URL, the
descriptor's own test of the selected URL and the second parse of the document all raise
past the caller. Three places judge the same URL, so the documents on which nothing but a
`MetadataError` leaves the function are those on which the three agree.
-/

namespace ApronSaml

open Raising Whitespace

/-- The metadata entry point returns a descriptor or raises a `MetadataError`. -/
def FailsByMetadataError (env : Environment) (xml : String) : Prop :=
  (∃ idp, parseIdpMetadata env xml = .ok idp) ∨ ∃ message, parseIdpMetadata env xml = .error (.metadata message)

/-- The document is read as an entity that has an ID and describes an identity provider. -/
structure DescribesIdp (env : Environment) (xml : String) (entity : EntityDescriptor) : Prop where
  read : env.entityDescriptorFromString xml = .ok (some entity)
  named : strip (entity.entityId.getD "") ≠ ""
  roles : entity.idpssoDescriptor ≠ []

/-- The location is a URL whose authority carries no credentials. -/
def HasNoUserinfo (tables : Url.Tables) (location : String) : Prop :=
  ∃ parts, urlparse tables location = .ok parts ∧ '@' ∉ parts.netloc

/-- A location that counts as a web URL in the selection passes the constructor's test, unless the authority
carries credentials, which the selection does not ask about. -/
theorem requireWebUrl_of_isHttpUrl {tables : Url.Tables} {location notWeb userinfo : String}
    (h : isHttpUrl tables location = .ok true) :
    (HasNoUserinfo tables location ∧ requireWebUrl tables location notWeb userinfo = .ok ()) ∨
      (¬ HasNoUserinfo tables location ∧
        requireWebUrl tables location notWeb userinfo = .error (.valueError userinfo)) := by
  obtain ⟨parts, hparts, hweb⟩ := bind_ok_iff.mp h
  rw [Except.ok.injEq, Bool.and_eq_true] at hweb
  have huserinfo : HasNoUserinfo tables location ↔ '@' ∉ parts.netloc := by simp [HasNoUserinfo, hparts]
  rw [huserinfo, requireWebUrl, hparts, ok_bind, raiseIf_bind_neg (by simp [hweb])]
  by_cases hat : '@' ∈ parts.netloc
  · exact Or.inr ⟨not_not_intro hat, by simpa using hat⟩
  · exact Or.inl ⟨hat, by simpa using hat⟩

/-- A first usable location is a web URL. -/
theorem isHttpUrl_of_firstUsable {tables : Url.Tables} {services : List SingleSignOnService}
    {binding location : String} (h : firstUsable tables services binding = some location) :
    isHttpUrl tables location = .ok true := by
  obtain ⟨service, hfind, rfl⟩ := Option.map_eq_some_iff.mp h
  have hfound := List.find?_some hfind
  simp only [Bool.and_eq_true, decide_eq_true_eq] at hfound
  exact hfound.2

/-- The preferred usable location is a web URL. -/
theorem isHttpUrl_of_preferredUsable {tables : Url.Tables} {services : List SingleSignOnService} {location : String}
    (h : preferredUsable tables services = some location) : isHttpUrl tables location = .ok true := by
  rcases Option.or_eq_some_iff.mp h with hredirect | ⟨_, hpost⟩
  · exact isHttpUrl_of_firstUsable hredirect
  · exact isHttpUrl_of_firstUsable hpost

section EntryPoint

variable {env : Environment} {xml : String}

/-- A document that describes no identity provider is refused by a `MetadataError`. -/
theorem failsByMetadataError_of_not_describesIdp
    (hobject : RaisesOnly (fun e => e = .parseError ∨ e.isValueError = true) (env.entityDescriptorFromString xml))
    (h : ∀ entity, ¬ DescribesIdp env xml entity) : FailsByMetadataError env xml := by
  refine Or.inr ?_
  unfold parseIdpMetadata
  cases hread : env.entityDescriptorFromString xml with
  | error e =>
    rcases hobject e hread with rfl | hvalue
    · exact ⟨_, rfl⟩
    · have hparse : e ≠ .parseError := by
        rintro rfl
        cases hvalue
      exact ⟨"IdP metadata contains a disallowed DTD or entity declaration", by simp [reraise, hparse, hvalue]⟩
  | ok entity? =>
    cases entity? with
    | none => exact ⟨_, rfl⟩
    | some entity =>
      simp only [reraise, required, ok_bind]
      by_cases hid : strip (entity.entityId.getD "") = ""
      · exact ⟨_, raiseIf_bind_pos hid _ _⟩
      by_cases hroles : entity.idpssoDescriptor = []
      · rw [raiseIf_bind_neg hid]
        exact ⟨_, raiseIf_bind_pos hroles _ _⟩
      exact absurd ⟨hread, hid, hroles⟩ (h entity)

/-- On a document that describes an identity provider the function is the selection, the second parse and
the constructor. -/
theorem DescribesIdp.parseIdpMetadata_eq {entity : EntityDescriptor} (h : DescribesIdp env xml entity) :
    parseIdpMetadata env xml =
      selectSsoUrl env.tables entity.idpssoDescriptor >>= fun ssoUrl =>
        env.parseSafeXml false xml >>= fun metadataRoot =>
          IdPDescriptor.make env.tables (strip (entity.entityId.getD "")) ssoUrl
            (collectSigningCertificates metadataRoot) := by
  rw [parseIdpMetadata, h.read]
  simp only [reraise, required, ok_bind]
  rw [raiseIf_bind_neg h.named, raiseIf_bind_neg h.roles]

/-- An identity provider's document fails by a `MetadataError` alone exactly when no reached location is
malformed, and a selected location carries no credentials and leaves a document that can be parsed again. -/
theorem DescribesIdp.failsByMetadataError_iff {entity : EntityDescriptor} (h : DescribesIdp env xml entity)
    (hreparse : RaisesOnly (fun e => e = .parseError ∨ e.isValueError = true) (env.parseSafeXml false xml)) :
    FailsByMetadataError env xml ↔
      ¬ ReachesMalformed env.tables (endpoints entity.idpssoDescriptor) ∧
      ∀ location, preferredUsable env.tables (endpoints entity.idpssoDescriptor) = some location →
        HasNoUserinfo env.tables location ∧ ∃ root, env.parseSafeXml false xml = .ok root := by
  rw [FailsByMetadataError, h.parseIdpMetadata_eq]
  rcases selectSsoUrl_cases env.tables entity.idpssoDescriptor with
    ⟨hmalformed, message, hselect⟩ | ⟨hwellformed, ⟨location, hlocation, hselect⟩ | ⟨hnone, hselect⟩⟩
  · simp [hselect, hmalformed, PyError.metadata]
  · rw [hselect, ok_bind]
    simp only [hwellformed, hlocation, Option.some.injEq, forall_eq', not_false_eq_true, true_and]
    cases hroot : env.parseSafeXml false xml with
    | error e =>
      have he : ∀ message, e ≠ .metadata message := by
        rintro message rfl
        rcases hreparse _ hroot with hparse | hvalue
        · cases hparse
        · cases hvalue
      simp [he]
    | ok root =>
      rw [ok_bind]
      rcases requireWebUrl_of_isHttpUrl (isHttpUrl_of_preferredUsable hlocation) with
        ⟨huserinfo, htest⟩ | ⟨huserinfo, htest⟩
      · simp only [huserinfo, true_and, Except.ok.injEq, exists_eq', iff_true]
        exact Or.inl ⟨⟨_, location, _, htest⟩, IdPDescriptor.make_ok_iff.mpr ⟨rfl, rfl, rfl⟩⟩
      · simp [IdPDescriptor.make_error_iff.mpr htest, huserinfo, PyError.metadata]
  · exact iff_of_true (Or.inr ⟨_, by rw [hselect]; rfl⟩) ⟨hwellformed, by simp [hnone]⟩

/-- Nothing but a `MetadataError` leaves the metadata entry point exactly when, in a document that describes an
identity provider, the selection reaches no location that cannot be parsed as a URL, the selected location
carries no credentials, and the document can be parsed a second time. -/
theorem parseIdpMetadata_failsByMetadataError_iff
    (hobject : RaisesOnly (fun e => e = .parseError ∨ e.isValueError = true) (env.entityDescriptorFromString xml))
    (hreparse : RaisesOnly (fun e => e = .parseError ∨ e.isValueError = true) (env.parseSafeXml false xml)) :
    FailsByMetadataError env xml ↔
      ∀ entity, DescribesIdp env xml entity →
        ¬ ReachesMalformed env.tables (endpoints entity.idpssoDescriptor) ∧
        ∀ location, preferredUsable env.tables (endpoints entity.idpssoDescriptor) = some location →
          HasNoUserinfo env.tables location ∧ ∃ root, env.parseSafeXml false xml = .ok root := by
  constructor
  · intro hfails entity h
    exact (h.failsByMetadataError_iff hreparse).mp hfails
  · intro hcondition
    by_cases hdescribes : ∃ entity, DescribesIdp env xml entity
    · obtain ⟨entity, h⟩ := hdescribes
      exact (h.failsByMetadataError_iff hreparse).mpr (hcondition entity h)
    · exact failsByMetadataError_of_not_describesIdp hobject (not_exists.mp hdescribes)

end EntryPoint

/-- A tabulated object model raises nothing but a `ParseError`. -/
theorem objectModelErrors_metadataEnvironment (location text : String) :
    RaisesOnly (fun e => e = .parseError ∨ e.isValueError = true)
      ((metadataEnvironment location).entityDescriptorFromString text) :=
  RaisesOnly.bind (RaisesOnly.required (Or.inl rfl)) fun _ _ => RaisesOnly.ok _

/-- The metadata of the deployment describes an identity provider, wherever its endpoint is. -/
theorem describesIdp_metadataEnvironment (location : String) :
    DescribesIdp (metadataEnvironment location) (demoMetadataXml location) (demoDescriptor location) where
  read := entityDescriptorFromString_tableEnvironment_self
  named := by
    rw [demoDescriptor, Option.getD_some]
    decide +kernel
  roles := List.cons_ne_nil _ _

/-- The deployment's metadata meets the condition: its location is an https URL without credentials. -/
theorem parseIdpMetadata_failsByMetadataError_iff_demo :
    ¬ ReachesMalformed (metadataEnvironment demoLocation).tables
        (endpoints (demoDescriptor demoLocation).idpssoDescriptor) ∧
      HasNoUserinfo (metadataEnvironment demoLocation).tables demoLocation := by
  have hselected : preferredUsable (metadataEnvironment demoLocation).tables
      (endpoints (demoDescriptor demoLocation).idpssoDescriptor) = some demoLocation := by decide +kernel
  obtain ⟨hwellformed, hlocation⟩ :=
    (parseIdpMetadata_failsByMetadataError_iff (objectModelErrors_metadataEnvironment demoLocation _)
      (parserErrors_tableEnvironment _ _ _ _ false _)).mp (Or.inl ⟨_, parseIdpMetadata_demo⟩) _
      (describesIdp_metadataEnvironment demoLocation)
  exact ⟨hwellformed, (hlocation demoLocation hselected).1⟩

/-- A location with credentials is selected and then refused by the constructor, and a location with an
unbalanced bracket cannot be parsed: a `ValueError` leaves the function for both. -/
theorem valueError_leaves_parseIdpMetadata :
    (¬ FailsByMetadataError (metadataEnvironment "https://user@idp.example.com/sso")
      (demoMetadataXml "https://user@idp.example.com/sso")) ∧
    ¬ FailsByMetadataError (metadataEnvironment "https://[idp.example.com/sso")
      (demoMetadataXml "https://[idp.example.com/sso") := by
  constructor
  · have hselect : selectSsoUrl (metadataEnvironment "https://user@idp.example.com/sso").tables
        (demoDescriptor "https://user@idp.example.com/sso").idpssoDescriptor =
        .ok "https://user@idp.example.com/sso" := by decide +kernel
    have htest : requireWebUrl (metadataEnvironment "https://user@idp.example.com/sso").tables
        "https://user@idp.example.com/sso" "sso_url must be an absolute http or https URL"
        "sso_url must not contain userinfo (credentials)" =
        .error (.valueError "sso_url must not contain userinfo (credentials)") := by decide +kernel
    simp [FailsByMetadataError, parseIdpMetadata_metadataEnvironment, hselect,
      IdPDescriptor.make_error_iff.mpr htest, PyError.metadata]
  · have hselect : selectSsoUrl (metadataEnvironment "https://[idp.example.com/sso").tables
        (demoDescriptor "https://[idp.example.com/sso").idpssoDescriptor =
        .error (.valueError "malformed authority") := by decide +kernel
    simp [FailsByMetadataError, parseIdpMetadata_metadataEnvironment, hselect, PyError.metadata]

end ApronSaml
