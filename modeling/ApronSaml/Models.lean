import ApronSaml.Errors
import ApronSaml.Library.Url
import ApronSaml.Library.Whitespace

/-!
# Configuration, descriptor and result types

`SamlConfig` and `IdPDescriptor` are built through `__post_init__`, which normalizes and
checks their fields; here the checks are fields of the types, so an unchecked value cannot
be built, and the constructors are the functions that run them in the source's order.
-/

namespace ApronSaml

open Raising Whitespace Chronology

/-- `urlparse(value)`; its failures are `ValueError`s. -/
def urlparse (tables : Url.Tables) (value : String) : Py Url.SplitResult :=
  (Url.urlsplit tables value).mapError fun _ => .valueError "malformed authority"

/-- The web URL test of the constructors: an http or https scheme, a host, no userinfo. -/
def requireWebUrl (tables : Url.Tables) (value notWeb userinfo : String) : Py Unit := do
  let parsed ← urlparse tables value
  raiseIf (!parsed.isWeb || !parsed.hasHostname) (.valueError notWeb)
  raiseIf (parsed.netloc.contains '@') (.valueError userinfo)

/-- Immutable configuration for a single service provider. -/
structure SamlConfig (tables : Url.Tables) where
  entityId : String
  acsUrl : String
  idpMetadata : String
  clockSkew : TimeDelta
  allowIdpInitiated : Bool
  decryptKey : Option String
  entityId_ne : entityId ≠ ""
  entityId_strip : strip entityId = entityId
  acsUrl_ok : requireWebUrl tables acsUrl "acs_url must be an absolute http or https URL"
    "acs_url must not contain userinfo (credentials)" = .ok ()
  clockSkew_nonneg : 0 ≤ clockSkew.micros

/-- `timedelta(minutes=3)` -/
def defaultClockSkew : TimeDelta := ⟨180000000, by decide, by decide⟩

/-- `SamlConfig(entity_id=…, acs_url=…, idp_metadata=…, …)`. -/
def SamlConfig.make (tables : Url.Tables) (entityId acsUrl idpMetadata : String) (wantAssertionsSigned : Bool := true)
    (clockSkew : TimeDelta := defaultClockSkew) (allowIdpInitiated : Bool := false)
    (decryptKey : Option String := none) : Py (SamlConfig tables) :=
  if hentity : strip entityId = "" then .error (.valueError "entity_id must not be blank")
  else if strip acsUrl = "" then .error (.valueError "acs_url must not be blank")
  else
    match hacs : requireWebUrl tables (strip acsUrl) "acs_url must be an absolute http or https URL"
        "acs_url must not contain userinfo (credentials)" with
    | .error e => .error e
    | .ok () =>
      if strip idpMetadata = "" then .error (.valueError "idp_metadata must not be blank")
      else if '<' ∉ idpMetadata.toList then
        .error (.valueError "idp_metadata must contain SAML metadata XML, not a URL or file path")
      else if hskew : clockSkew.micros < 0 then .error (.valueError "clock_skew must not be negative")
      else if ∃ key ∈ decryptKey, strip key = "" then
        .error (.valueError "decrypt_key must not be blank when provided")
      else if wantAssertionsSigned = false then
        .error (.valueError ("want_assertions_signed=False is not yet supported: response-level signature " ++
          "acceptance is not implemented, so assertion signatures are always required"))
      else
        .ok ⟨strip entityId, strip acsUrl, idpMetadata, clockSkew, allowIdpInitiated, decryptKey, hentity,
          strip_strip entityId, hacs, not_lt.mp hskew⟩

/-- The subset of identity-provider metadata a service provider needs. -/
structure IdPDescriptor (tables : Url.Tables) where
  entityId : String
  ssoUrl : String
  signingCertificates : List String
  ssoUrl_ok : requireWebUrl tables ssoUrl "sso_url must be an absolute http or https URL"
    "sso_url must not contain userinfo (credentials)" = .ok ()

/-- `IdPDescriptor(entity_id=…, sso_url=…, signing_certificates=…)`. -/
def IdPDescriptor.make (tables : Url.Tables) (entityId ssoUrl : String) (signingCertificates : List String) :
    Py (IdPDescriptor tables) :=
  match h : requireWebUrl tables ssoUrl "sso_url must be an absolute http or https URL"
      "sso_url must not contain userinfo (credentials)" with
  | .error e => .error e
  | .ok () => .ok ⟨entityId, ssoUrl, signingCertificates, h⟩

/-- A descriptor is built exactly for a single sign-on URL that is a web URL, from the values it is given. -/
theorem IdPDescriptor.make_ok_iff {tables : Url.Tables} {entityId ssoUrl : String}
    {signingCertificates : List String} {idp : IdPDescriptor tables} :
    IdPDescriptor.make tables entityId ssoUrl signingCertificates = .ok idp ↔
      idp.entityId = entityId ∧ idp.ssoUrl = ssoUrl ∧ idp.signingCertificates = signingCertificates := by
  unfold IdPDescriptor.make
  constructor
  · intro h
    split at h
    · cases h
    · rw [Except.ok.injEq] at h
      subst h
      exact ⟨rfl, rfl, rfl⟩
  · intro h
    obtain ⟨rfl, rfl, rfl⟩ := h
    split
    · rename_i e herror
      rw [idp.ssoUrl_ok] at herror
      cases herror
    · rfl

/-- Building a descriptor fails as the test of its single sign-on URL does. -/
theorem IdPDescriptor.make_error_iff {tables : Url.Tables} {entityId ssoUrl : String}
    {signingCertificates : List String} {e : PyError} :
    IdPDescriptor.make tables entityId ssoUrl signingCertificates = .error e ↔
      requireWebUrl tables ssoUrl "sso_url must be an absolute http or https URL"
        "sso_url must not contain userinfo (credentials)" = .error e := by
  unfold IdPDescriptor.make
  split
  · rename_i e' herror
    rw [herror, Except.error.injEq, Except.error.injEq]
  · rename_i hok
    simp [hok]

/-- The validated identity a finished pipeline returns. -/
structure SamlIdentity where
  nameId : String
  issuer : String

end ApronSaml
