import ApronSaml.Metadata
import ApronSaml.Validation

/-!
# The service provider

The entry point: constructed from a configuration whose metadata parses and names a
signing certificate, it decodes a Response and runs the validation pipeline on it.
-/

namespace ApronSaml

open Raising Chronology TextEncoding

/-- A constructed service provider; the replay store it may hold is not consulted yet. -/
structure ServiceProvider (env : Environment) where
  config : SamlConfig env.tables
  clock : Py DateTime
  idp : IdPDescriptor env.tables
  idp_ok : parseIdpMetadata env config.idpMetadata = .ok idp
  certificates_ne : idp.signingCertificates ≠ []

/-- `ServiceProvider(config, clock=…)`. -/
def ServiceProvider.make (env : Environment) (config : SamlConfig env.tables) (clock : Py DateTime) :
    Py (ServiceProvider env) :=
  match hidp : parseIdpMetadata env config.idpMetadata with
  | .error e => .error e
  | .ok idp =>
    if hcertificates : idp.signingCertificates = [] then
      .error (.metadata "IdP metadata provides no signing certificate to verify assertions")
    else .ok ⟨config, clock, idp, hidp, hcertificates⟩

/-- `sp.process_response(saml_response_b64, expected_in_response_to=…)`. -/
def ServiceProvider.processResponse {env : Environment} (sp : ServiceProvider env) (samlResponseB64 : List CodePoint)
    (expectedInResponseTo : Option String) : Py SamlIdentity := do
  let responseXml ← decodeResponse env samlResponseB64
  validateAndExtract env responseXml sp.config sp.idp sp.clock expectedInResponseTo

end ApronSaml
