import ApronSaml.Library.Raising
import ApronSaml.Library.Chronology

/-!
# What the library and the code under it can raise

The `SamlError` hierarchy, the exceptions of the standard library and of the XML, schema
and signature packages that the code names in an `except` clause or could let through, and
the class tests those clauses make. `SchemaBundleError` and `NotImplementedError` are
deliberately no `SamlError`.
-/

namespace ApronSaml

/-- The subclasses of `SamlError`. -/
inductive SamlErrorKind
  | metadataError
  | malformedResponseError
  | statusError
  | signatureError
  | assertionExpiredError
  | audienceMismatchError
  | recipientMismatchError
  | inResponseToError
  | replayError
  deriving DecidableEq

/-- A raised exception, by class. -/
inductive PyError
  | saml (kind : SamlErrorKind) (message : String)
  | valueError (message : String)
  | binasciiError
  | unicodeDecodeError
  | defusedXmlError
  | parseError
  | zlibError
  | overflowError
  | typeError
  | indexError
  | backendSignatureError
  | xmlsecError
  | schemaBundleError
  | notImplementedError
  | other (name : String)
  deriving DecidableEq

/-- A computation that returns or raises. -/
abbrev Py := Except PyError

namespace PyError

/-- `except SamlError`. -/
def isSamlError : PyError → Bool
  | .saml _ _ => true
  | _ => false

/-- `except ValueError`: bad base64, undecodable bytes and refused document types are among them. -/
def isValueError : PyError → Bool
  | .valueError _ | .binasciiError | .unicodeDecodeError | .defusedXmlError => true
  | _ => false

/-- `raise MalformedResponseError(message)`. -/
def malformedResponse (message : String) : PyError := .saml .malformedResponseError message

/-- `raise SignatureError(message)`. -/
def signature (message : String) : PyError := .saml .signatureError message

/-- `raise MetadataError(message)`. -/
def metadata (message : String) : PyError := .saml .metadataError message

/-- How calendar arithmetic fails. -/
def ofTimeError : Chronology.TimeError → PyError
  | .overflow => .overflowError
  | .offsetMismatch => .typeError

end PyError

/-- Calendar arithmetic inside a raising computation. -/
def liftTime {α : Type} (x : Except Chronology.TimeError α) : Py α := x.mapError PyError.ofTimeError

/-- A result is lifted to itself. -/
@[simp] theorem liftTime_ok {α : Type} (a : α) : liftTime (Except.ok a) = .ok a := rfl

end ApronSaml
