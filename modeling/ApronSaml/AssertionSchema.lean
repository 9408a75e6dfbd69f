import ApronSaml.Library.XmlSchema
import ApronSaml.Signatures

/-!
# The vendored assertion schema

The types and the element declarations of the three bundled schemas: SAML assertions, XML
signatures and XML encryption. Of every complex type the content model and the attributes
are those of the source; simple types are one type, since the values of texts and
attributes are not looked at.
-/

namespace ApronSaml.AssertionSchema

open ContentModel RegularExpression XmlSchema

/-- The types of the bundled schemas. -/
inductive SchemaType
  | anyType | simpleType
  -- saml-schema-assertion-2.0.xsd
  | baseIDAbstractType | nameIDType | encryptedElementType | assertionType | subjectType | subjectConfirmationType
  | subjectConfirmationDataType | keyInfoConfirmationDataType | conditionsType | conditionAbstractType
  | audienceRestrictionType | oneTimeUseType | proxyRestrictionType | adviceType | statementAbstractType
  | authnStatementType | subjectLocalityType | authnContextType | authzDecisionStatementType | actionType | evidenceType
  | attributeStatementType | attributeType
  -- xmldsig-core-schema.xsd
  | signatureType | signatureValueType | signedInfoType | canonicalizationMethodType | signatureMethodType
  | referenceType | transformsType | transformType | digestMethodType | keyInfoType | keyValueType
  | retrievalMethodType | x509DataType | x509IssuerSerialType | pgpDataType | spkiDataType | objectType | manifestType
  | signaturePropertiesType | signaturePropertyType | dsaKeyValueType | rsaKeyValueType
  -- xenc-schema.xsd
  | encryptedType | encryptionMethodType | cipherDataType | cipherReferenceType | cipherTransformsType
  | encryptedDataType | encryptedKeyType | agreementMethodType | referenceListType | encryptedReferenceType
  | encryptionPropertiesType | encryptionPropertyType
  deriving DecidableEq

/-- All types. -/
def schemaTypes : List SchemaType :=
  [.anyType, .simpleType, .baseIDAbstractType, .nameIDType, .encryptedElementType, .assertionType, .subjectType,
    .subjectConfirmationType, .subjectConfirmationDataType, .keyInfoConfirmationDataType, .conditionsType,
    .conditionAbstractType, .audienceRestrictionType, .oneTimeUseType, .proxyRestrictionType, .adviceType,
    .statementAbstractType, .authnStatementType, .subjectLocalityType, .authnContextType, .authzDecisionStatementType,
    .actionType, .evidenceType, .attributeStatementType, .attributeType, .signatureType, .signatureValueType,
    .signedInfoType, .canonicalizationMethodType, .signatureMethodType, .referenceType, .transformsType, .transformType,
    .digestMethodType, .keyInfoType, .keyValueType, .retrievalMethodType, .x509DataType, .x509IssuerSerialType,
    .pgpDataType, .spkiDataType, .objectType, .manifestType, .signaturePropertiesType, .signaturePropertyType,
    .dsaKeyValueType, .rsaKeyValueType, .encryptedType, .encryptionMethodType, .cipherDataType, .cipherReferenceType,
    .cipherTransformsType, .encryptedDataType, .encryptedKeyType, .agreementMethodType, .referenceListType,
    .encryptedReferenceType, .encryptionPropertiesType, .encryptionPropertyType]

/-- No type is left out. -/
theorem mem_schemaTypes (τ : SchemaType) : τ ∈ schemaTypes := by
  have hget : schemaTypes[τ.ctorIdx]? = some τ := by cases τ <;> rfl
  exact List.mem_of_getElem? hget

/-- `http://www.w3.org/2001/04/xmlenc#` -/
def xencNs : String := "http://www.w3.org/2001/04/xmlenc#"

/-- Content models over the types. -/
abbrev Content := RegularExpression (Term SchemaType)

/-- An element of the assertion namespace. -/
def saml (name : String) (type : SchemaType) : Content := char (.element (qname samlNs name) type)

/-- An element of the signature namespace. -/
def ds (name : String) (type : SchemaType) : Content := char (.element (qname dsNs name) type)

/-- An element of the encryption namespace. -/
def xenc (name : String) (type : SchemaType) : Content := char (.element (qname xencNs name) type)

/-- `<any namespace="…" processContents="lax"/>` -/
def lax (namespaces : NamespaceSet) : Content := char (.wildcard namespaces false)

/-- `<any namespace="…"/>` -/
def strict (namespaces : NamespaceSet) : Content := char (.wildcard namespaces true)

/-- `BaseID`, `NameID` or `EncryptedID`. -/
def identifier : Content :=
  choice [saml "BaseID" .baseIDAbstractType, saml "NameID" .nameIDType, saml "EncryptedID" .encryptedElementType]

/-- The content of `EncryptedType`. -/
def encryptedContent : List (Content) :=
  [optional (xenc "EncryptionMethod" .encryptionMethodType), optional (ds "KeyInfo" .keyInfoType),
    xenc "CipherData" .cipherDataType, optional (xenc "EncryptionProperties" .encryptionPropertiesType)]

/-- The attributes of `EncryptedType`. -/
def encryptedAttributes : List String := ["Id", "Type", "MimeType", "Encoding"]

/-- A complex type. -/
def complexType (content : List (Content)) (required optional : List String := [])
    (anyAttribute : Option NamespaceSet := none) : TypeDefinition SchemaType :=
  .complex ⟨sequence content, required, optional, anyAttribute⟩

/-- The definitions of the types. -/
def define : SchemaType → TypeDefinition SchemaType
  | .anyType => .anything
  | .simpleType => .simple
  | .baseIDAbstractType => complexType [] [] ["NameQualifier", "SPNameQualifier"]
  | .nameIDType => complexType [] [] ["NameQualifier", "SPNameQualifier", "Format", "SPProvidedID"]
  | .encryptedElementType =>
      complexType [xenc "EncryptedData" .encryptedDataType, star (xenc "EncryptedKey" .encryptedKeyType)]
  | .assertionType =>
      complexType
        [saml "Issuer" .nameIDType, optional (ds "Signature" .signatureType), optional (saml "Subject" .subjectType),
          optional (saml "Conditions" .conditionsType), optional (saml "Advice" .adviceType),
          star (choice [saml "Statement" .statementAbstractType, saml "AuthnStatement" .authnStatementType,
            saml "AuthzDecisionStatement" .authzDecisionStatementType,
            saml "AttributeStatement" .attributeStatementType])]
        ["Version", "ID", "IssueInstant"]
  | .subjectType =>
      complexType [choice [
        identifier * star (saml "SubjectConfirmation" .subjectConfirmationType),
        oneOrMore (saml "SubjectConfirmation" .subjectConfirmationType)]]
  | .subjectConfirmationType =>
      complexType [optional identifier, optional (saml "SubjectConfirmationData" .subjectConfirmationDataType)]
        ["Method"]
  | .subjectConfirmationDataType =>
      complexType [star (lax .any)] [] ["NotBefore", "NotOnOrAfter", "Recipient", "InResponseTo", "Address"]
        (some (.other samlNs))
  | .keyInfoConfirmationDataType =>
      complexType [oneOrMore (ds "KeyInfo" .keyInfoType)] []
        ["NotBefore", "NotOnOrAfter", "Recipient", "InResponseTo", "Address"]
  | .conditionsType =>
      complexType [star (choice [saml "Condition" .conditionAbstractType,
        saml "AudienceRestriction" .audienceRestrictionType, saml "OneTimeUse" .oneTimeUseType,
        saml "ProxyRestriction" .proxyRestrictionType])] [] ["NotBefore", "NotOnOrAfter"]
  | .conditionAbstractType => complexType []
  | .audienceRestrictionType => complexType [oneOrMore (saml "Audience" .simpleType)]
  | .oneTimeUseType => complexType []
  | .proxyRestrictionType => complexType [star (saml "Audience" .simpleType)] [] ["Count"]
  | .adviceType =>
      complexType [star (choice [saml "AssertionIDRef" .simpleType, saml "AssertionURIRef" .simpleType,
        saml "Assertion" .assertionType, saml "EncryptedAssertion" .encryptedElementType, lax (.other samlNs)])]
  | .statementAbstractType => complexType []
  | .authnStatementType =>
      complexType [optional (saml "SubjectLocality" .subjectLocalityType), saml "AuthnContext" .authnContextType]
        ["AuthnInstant"] ["SessionIndex", "SessionNotOnOrAfter"]
  | .subjectLocalityType => complexType [] [] ["Address", "DNSName"]
  | .authnContextType =>
      complexType [
        choice [
          saml "AuthnContextClassRef" .simpleType *
            optional (choice [saml "AuthnContextDecl" .anyType, saml "AuthnContextDeclRef" .simpleType]),
          choice [saml "AuthnContextDecl" .anyType, saml "AuthnContextDeclRef" .simpleType]],
        star (saml "AuthenticatingAuthority" .simpleType)]
  | .authzDecisionStatementType =>
      complexType [oneOrMore (saml "Action" .actionType), optional (saml "Evidence" .evidenceType)]
        ["Resource", "Decision"]
  | .actionType => complexType [] ["Namespace"]
  | .evidenceType =>
      complexType [oneOrMore (choice [saml "AssertionIDRef" .simpleType, saml "AssertionURIRef" .simpleType,
        saml "Assertion" .assertionType, saml "EncryptedAssertion" .encryptedElementType])]
  | .attributeStatementType =>
      complexType [oneOrMore (choice [saml "Attribute" .attributeType,
        saml "EncryptedAttribute" .encryptedElementType])]
  | .attributeType =>
      complexType [star (saml "AttributeValue" .anyType)] ["Name"] ["NameFormat", "FriendlyName"] (some (.other samlNs))
  | .signatureType =>
      complexType [ds "SignedInfo" .signedInfoType, ds "SignatureValue" .signatureValueType,
        optional (ds "KeyInfo" .keyInfoType), star (ds "Object" .objectType)] [] ["Id"]
  | .signatureValueType => complexType [] [] ["Id"]
  | .signedInfoType =>
      complexType [ds "CanonicalizationMethod" .canonicalizationMethodType,
        ds "SignatureMethod" .signatureMethodType, oneOrMore (ds "Reference" .referenceType)] [] ["Id"]
  | .canonicalizationMethodType => complexType [star (strict .any)] ["Algorithm"]
  | .signatureMethodType =>
      complexType [optional (ds "HMACOutputLength" .simpleType), star (strict (.other dsNs))] ["Algorithm"]
  | .referenceType =>
      complexType [optional (ds "Transforms" .transformsType), ds "DigestMethod" .digestMethodType,
        ds "DigestValue" .simpleType] [] ["Id", "URI", "Type"]
  | .transformsType => complexType [oneOrMore (ds "Transform" .transformType)]
  | .transformType => complexType [star (choice [lax (.other dsNs), ds "XPath" .simpleType])] ["Algorithm"]
  | .digestMethodType => complexType [star (lax (.other dsNs))] ["Algorithm"]
  | .keyInfoType =>
      complexType [oneOrMore (choice [ds "KeyName" .simpleType, ds "KeyValue" .keyValueType,
        ds "RetrievalMethod" .retrievalMethodType, ds "X509Data" .x509DataType, ds "PGPData" .pgpDataType,
        ds "SPKIData" .spkiDataType, ds "MgmtData" .simpleType, lax (.other dsNs)])] [] ["Id"]
  | .keyValueType =>
      complexType [choice [ds "DSAKeyValue" .dsaKeyValueType, ds "RSAKeyValue" .rsaKeyValueType, lax (.other dsNs)]]
  | .retrievalMethodType => complexType [optional (ds "Transforms" .transformsType)] [] ["URI", "Type"]
  | .x509DataType =>
      complexType [oneOrMore (choice [ds "X509IssuerSerial" .x509IssuerSerialType, ds "X509SKI" .simpleType,
        ds "X509SubjectName" .simpleType, ds "X509Certificate" .simpleType, ds "X509CRL" .simpleType,
        lax (.other dsNs)])]
  | .x509IssuerSerialType => complexType [ds "X509IssuerName" .simpleType, ds "X509SerialNumber" .simpleType]
  | .pgpDataType =>
      complexType [choice [
        sequence [ds "PGPKeyID" .simpleType, optional (ds "PGPKeyPacket" .simpleType), star (lax (.other dsNs))],
        sequence [ds "PGPKeyPacket" .simpleType, star (lax (.other dsNs))]]]
  | .spkiDataType => complexType [oneOrMore (sequence [ds "SPKISexp" .simpleType, optional (lax (.other dsNs))])]
  | .objectType => complexType [star (lax .any)] [] ["Id", "MimeType", "Encoding"]
  | .manifestType => complexType [oneOrMore (ds "Reference" .referenceType)] [] ["Id"]
  | .signaturePropertiesType => complexType [oneOrMore (ds "SignatureProperty" .signaturePropertyType)] [] ["Id"]
  | .signaturePropertyType => complexType [oneOrMore (lax (.other dsNs))] ["Target"] ["Id"]
  | .dsaKeyValueType =>
      complexType [optional (sequence [ds "P" .simpleType, ds "Q" .simpleType]), optional (ds "G" .simpleType),
        ds "Y" .simpleType, optional (ds "J" .simpleType),
        optional (sequence [ds "Seed" .simpleType, ds "PgenCounter" .simpleType])]
  | .rsaKeyValueType => complexType [ds "Modulus" .simpleType, ds "Exponent" .simpleType]
  | .encryptedType => complexType encryptedContent [] encryptedAttributes
  | .encryptionMethodType =>
      complexType [optional (xenc "KeySize" .simpleType), optional (xenc "OAEPparams" .simpleType),
        star (strict (.other xencNs))] ["Algorithm"]
  | .cipherDataType =>
      complexType [choice [xenc "CipherValue" .simpleType, xenc "CipherReference" .cipherReferenceType]]
  | .cipherReferenceType => complexType [optional (xenc "Transforms" .cipherTransformsType)] ["URI"]
  | .cipherTransformsType => complexType [oneOrMore (ds "Transform" .transformType)]
  | .encryptedDataType => complexType encryptedContent [] encryptedAttributes
  | .encryptedKeyType =>
      complexType (encryptedContent ++ [optional (xenc "ReferenceList" .referenceListType),
        optional (xenc "CarriedKeyName" .simpleType)]) [] (encryptedAttributes ++ ["Recipient"])
  | .agreementMethodType =>
      complexType [optional (xenc "KA-Nonce" .simpleType), star (strict (.other xencNs)),
        optional (xenc "OriginatorKeyInfo" .keyInfoType), optional (xenc "RecipientKeyInfo" .keyInfoType)] ["Algorithm"]
  | .referenceListType =>
      complexType [oneOrMore (choice [xenc "DataReference" .encryptedReferenceType,
        xenc "KeyReference" .encryptedReferenceType])]
  | .encryptedReferenceType => complexType [star (strict (.other xencNs))] ["URI"]
  | .encryptionPropertiesType => complexType [oneOrMore (xenc "EncryptionProperty" .encryptionPropertyType)] [] ["Id"]
  | .encryptionPropertyType =>
      complexType [oneOrMore (lax (.other xencNs))] [] ["Target", "Id"]
        (some (.only "http://www.w3.org/XML/1998/namespace"))

/-- The type that a type is derived from. -/
def base : SchemaType → Option SchemaType
  | .anyType => none
  | .nameIDType | .actionType | .signatureValueType => some .simpleType
  | .keyInfoConfirmationDataType => some .subjectConfirmationDataType
  | .audienceRestrictionType | .oneTimeUseType | .proxyRestrictionType => some .conditionAbstractType
  | .authnStatementType | .authzDecisionStatementType | .attributeStatementType => some .statementAbstractType
  | .encryptedDataType | .encryptedKeyType => some .encryptedType
  | _ => some .anyType

/-- The global elements of the assertion schema. -/
def samlElements : List (String × SchemaType) :=
  [("BaseID", .baseIDAbstractType), ("NameID", .nameIDType), ("EncryptedID", .encryptedElementType),
    ("Issuer", .nameIDType), ("AssertionIDRef", .simpleType), ("AssertionURIRef", .simpleType),
    ("Assertion", .assertionType), ("Subject", .subjectType), ("SubjectConfirmation", .subjectConfirmationType),
    ("SubjectConfirmationData", .subjectConfirmationDataType), ("Conditions", .conditionsType),
    ("Condition", .conditionAbstractType), ("AudienceRestriction", .audienceRestrictionType), ("Audience", .simpleType),
    ("OneTimeUse", .oneTimeUseType), ("ProxyRestriction", .proxyRestrictionType), ("Advice", .adviceType),
    ("EncryptedAssertion", .encryptedElementType), ("Statement", .statementAbstractType),
    ("AuthnStatement", .authnStatementType), ("SubjectLocality", .subjectLocalityType),
    ("AuthnContext", .authnContextType), ("AuthnContextClassRef", .simpleType), ("AuthnContextDeclRef", .simpleType),
    ("AuthnContextDecl", .anyType), ("AuthenticatingAuthority", .simpleType),
    ("AuthzDecisionStatement", .authzDecisionStatementType), ("Action", .actionType), ("Evidence", .evidenceType),
    ("AttributeStatement", .attributeStatementType), ("Attribute", .attributeType), ("AttributeValue", .anyType),
    ("EncryptedAttribute", .encryptedElementType)]

/-- The global elements of the signature schema. -/
def dsElements : List (String × SchemaType) :=
  [("Signature", .signatureType), ("SignatureValue", .signatureValueType), ("SignedInfo", .signedInfoType),
    ("CanonicalizationMethod", .canonicalizationMethodType), ("SignatureMethod", .signatureMethodType),
    ("Reference", .referenceType), ("Transforms", .transformsType), ("Transform", .transformType),
    ("DigestMethod", .digestMethodType), ("DigestValue", .simpleType), ("KeyInfo", .keyInfoType),
    ("KeyName", .simpleType), ("MgmtData", .simpleType), ("KeyValue", .keyValueType),
    ("RetrievalMethod", .retrievalMethodType), ("X509Data", .x509DataType), ("PGPData", .pgpDataType),
    ("SPKIData", .spkiDataType), ("Object", .objectType), ("Manifest", .manifestType),
    ("SignatureProperties", .signaturePropertiesType), ("SignatureProperty", .signaturePropertyType),
    ("DSAKeyValue", .dsaKeyValueType), ("RSAKeyValue", .rsaKeyValueType)]

/-- The global elements of the encryption schema. -/
def xencElements : List (String × SchemaType) :=
  [("CipherData", .cipherDataType), ("CipherReference", .cipherReferenceType), ("EncryptedData", .encryptedDataType),
    ("EncryptedKey", .encryptedKeyType), ("AgreementMethod", .agreementMethodType),
    ("ReferenceList", .referenceListType), ("EncryptionProperties", .encryptionPropertiesType),
    ("EncryptionProperty", .encryptionPropertyType)]

/-- The global element declarations. -/
def declarations : List (String × SchemaType) :=
  samlElements.map (fun entry => (qname samlNs entry.1, entry.2)) ++
    dsElements.map (fun entry => (qname dsNs entry.1, entry.2)) ++
    xencElements.map (fun entry => (qname xencNs entry.1, entry.2))

/-- The bundled schemas. -/
def schema : Schema SchemaType where
  define := define
  base := base
  depth := 2
  isAbstract τ := [.baseIDAbstractType, .conditionAbstractType, .statementAbstractType, .encryptedType].contains τ
  globals tag := declarations.lookup tag

end ApronSaml.AssertionSchema
