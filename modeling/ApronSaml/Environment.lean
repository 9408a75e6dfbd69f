import ApronSaml.Models
import ApronSaml.Library.ElementTree
import ApronSaml.Library.Inflate
import Mathlib.Data.List.AList

/-!
# The packages under the library

What the library calls and does not contain: the hardened XML parser and its event
stream, the schema engine, the signature backend, the timestamp parser and the inflater.
Every one of them is an arbitrary function of what it is handed, and may raise anything;
results that need more state it as a hypothesis.
-/

namespace ApronSaml

open ElementTree Chronology

/-- A Python dictionary from prefixes to namespace URIs. -/
abbrev NamespaceMap := AList fun _ : String => String

/-- A tag or attribute name in Clark notation. -/
def qname (ns localName : String) : String := "\x7b" ++ ns ++ "\x7d" ++ localName

/-- `urn:oasis:names:tc:SAML:2.0:protocol` -/
def samlpNs : String := "urn:oasis:names:tc:SAML:2.0:protocol"

/-- `urn:oasis:names:tc:SAML:2.0:assertion` -/
def samlNs : String := "urn:oasis:names:tc:SAML:2.0:assertion"

/-- `http://www.w3.org/2000/09/xmldsig#` -/
def dsNs : String := "http://www.w3.org/2000/09/xmldsig#"

/-- A single sign-on endpoint in the metadata object model. -/
structure SingleSignOnService where
  binding : Option String
  location : Option String
  deriving DecidableEq

/-- An identity-provider role in the metadata object model. -/
structure IDPSSODescriptor where
  singleSignOnService : List SingleSignOnService
  deriving DecidableEq

/-- The root of the metadata object model. -/
structure EntityDescriptor where
  entityId : Option String
  idpssoDescriptor : List IDPSSODescriptor
  deriving DecidableEq

/-- The third-party packages, as functions. -/
structure Environment where
  /-- Tables of the URL parser. -/
  tables : Url.Tables
  /-- `defusedxml.ElementTree.fromstring(text, forbid_dtd=…)`. -/
  parseSafeXml : (forbidDtd : Bool) → (text : String) → Py Element
  /-- The `start-ns` events of `defusedxml.ElementTree.iterparse(text, forbid_dtd=True)`. -/
  startNs : String → Py (List (String × String))
  /-- Building `xmlschema.XMLSchema` from the vendored bundle. -/
  xmlSchema : Py Unit
  /-- `schema.is_valid(text, path=…, namespaces=…)` at the assertion. -/
  isValid : String → NamespaceMap → Py Bool
  /-- `get_xmlsec_binary()`. -/
  getXmlsecBinary : Py String
  /-- `context.verify_signature(text, cert_file, node_name, node_id)`, given the binary and the file's text. -/
  verifySignature : (binary text certFile nodeName nodeId : String) → Py Bool
  /-- `datetime.fromisoformat(value)`. -/
  fromisoformat : String → Py DateTime
  /-- `saml2.md.entity_descriptor_from_string(xml)`; `none` when the root is no `EntityDescriptor`. -/
  entityDescriptorFromString : String → Py (Option EntityDescriptor)
  /-- `zlib.decompressobj(-MAX_WBITS).decompress(raw, max_length)` with the object's flags after it. -/
  decompress : List UInt8 → ℕ → Py Inflate.Inflated

end ApronSaml
