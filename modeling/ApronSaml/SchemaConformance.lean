import ApronSaml.AlgorithmCoverage
import ApronSaml.AssertionSchema
import ApronSaml.VerifiedAssertion

/-!
# What the schema step adds

The schema step comes before the algorithm check and before the validators, which trust it
without saying so. In an assertion that conforms no element is there twice that they take
for one, and every reference has its digest method. What conforms is closed but for the
slots with open content, and it is there that a further signature can be planted.
-/

namespace ApronSaml

open Raising ElementTree Chronology XmlSchema ContentModel AssertionSchema

/-- Assertions that the schema engine accepts have the structure of the bundled schema. -/
def SchemaSound (env : Environment) : Prop :=
  ∀ text namespaces root, env.parseSafeXml true text = .ok root → env.isValid text namespaces = .ok true →
    ∃ resolve, ∀ e ∈ root.findall assertionTag, schema.Valid resolve .assertionType e

/-- The content model of a type; that of a type without one has no words. -/
def contentOf (τ : SchemaType) : Content :=
  match define τ with
  | .complex type => type.content
  | _ => 0

/-- The type is complex, and no other type is derived from it. -/
def isSealed (τ : SchemaType) : Bool :=
  (match define τ with
    | .complex _ => true
    | _ => false) && schemaTypes.all fun σ => !schema.derivesIn schema.depth σ τ || σ == τ

/-- The words of a sealed type have the tag at most once. -/
def atMostOnce (τ : SchemaType) (tag : String) : Bool :=
  isSealed τ && maxCount (fun t => t.admits tag) (contentOf τ) == some 1

/-- The words of a sealed type have the tag once. -/
def once (τ : SchemaType) (tag : String) : Bool :=
  atMostOnce τ tag && minCount (Term.isElement tag) (contentOf τ) == 1

/-- In the content of a sealed type an element letter with this type is the only one that admits the tag. -/
def declares (τ : SchemaType) (tag : String) (σ : SchemaType) : Bool :=
  isSealed τ && (symbols (contentOf τ)).all fun t => !t.admits tag || t == .element tag σ

/-- The letters of a sealed type are elements of these tags. -/
def hasTags (τ : SchemaType) (tags : List String) : Bool :=
  isSealed τ && (symbols (contentOf τ)).all fun t => tags.any fun tag => t.isElement tag

section Structure

variable {resolve : String → Option SchemaType} {τ σ : SchemaType} {e c : Element} {tag : String}

/-- A sealed type stands for itself. -/
theorem standsAs_of_isSealed (h : isSealed τ = true) :
    ∃ type, schema.StandsAs τ type ∧ type.content = contentOf τ := by
  rw [isSealed, Bool.and_eq_true] at h
  obtain ⟨hcomplex, hsole⟩ := h
  cases hdefine : define τ with
  | anything => simp [hdefine] at hcomplex
  | simple => simp [hdefine] at hcomplex
  | complex type =>
      refine ⟨type, fun σ hderives _ => ?_, by rw [contentOf, hdefine]⟩
      have hsame := List.all_eq_true.mp hsole σ (mem_schemaTypes σ)
      rw [hderives, Bool.not_true, Bool.false_or, beq_iff_eq] at hsame
      rw [hsame]
      exact hdefine

/-- A tag that a type has at most once is there at most once. -/
theorem length_findall_le_one (h : schema.Valid resolve τ e) (hmost : atMostOnce τ tag = true) :
    (e.findall tag).length ≤ 1 := by
  rw [atMostOnce, Bool.and_eq_true, beq_iff_eq] at hmost
  obtain ⟨type, hstands, hcontent⟩ := standsAs_of_isSealed hmost.1
  exact h.length_findall_le hstands (hcontent ▸ hmost.2)

/-- A tag that a type has once is there once. -/
theorem exists_findall_eq_singleton (h : schema.Valid resolve τ e) (honce : once τ tag = true) :
    ∃ c, e.findall tag = [c] := by
  rw [once, Bool.and_eq_true, beq_iff_eq] at honce
  have hle := length_findall_le_one h honce.1
  rw [atMostOnce, Bool.and_eq_true] at honce
  obtain ⟨type, hstands, hcontent⟩ := standsAs_of_isSealed honce.1.1
  have hge := h.le_length_findall hstands tag
  rw [hcontent, honce.2] at hge
  exact List.length_eq_one_iff.mp (le_antisymm hle hge)

/-- Children with a tag are valid for the type that is declared for the tag. -/
theorem valid_of_mem_findall (h : schema.Valid resolve τ e) (hdeclares : declares τ tag σ = true)
    (hc : c ∈ e.findall tag) : schema.Valid resolve σ c := by
  rw [declares, Bool.and_eq_true] at hdeclares
  obtain ⟨type, hstands, hcontent⟩ := standsAs_of_isSealed hdeclares.1
  refine h.of_mem_findall hstands (fun t ht hadmits => ?_) hc
  have hletter := List.all_eq_true.mp hdeclares.2 t (hcontent ▸ ht)
  rw [hadmits, Bool.not_true, Bool.false_or, beq_iff_eq] at hletter
  exact hletter

/-- A child has the tag of a letter. -/
theorem tag_of_mem_children (h : schema.Valid resolve τ e) {tags : List String} (htags : hasTags τ tags = true)
    (hc : c ∈ e.children) : c.tag ∈ tags := by
  rw [hasTags, Bool.and_eq_true] at htags
  obtain ⟨type, hstands, hcontent⟩ := standsAs_of_isSealed htags.1
  obtain ⟨t, ht, hadmitted⟩ := h.exists_admitted hstands hc
  obtain ⟨tag, htag, helement⟩ := List.any_eq_true.mp (List.all_eq_true.mp htags.2 t (hcontent ▸ ht))
  cases t with
  | element tag' ρ =>
      obtain rfl : tag' = tag := beq_iff_eq.mp helement
      exact hadmitted.1 ▸ htag
  | wildcard namespaces strict => contradiction

/-- Of an element that is there once the child is valid for its type. -/
theorem valid_of_findall_eq (h : schema.Valid resolve τ e) (hdeclares : declares τ tag σ = true)
    (hc : e.findall tag = [c]) : schema.Valid resolve σ c :=
  valid_of_mem_findall h hdeclares (by simp [hc])

end Structure

/-- Where the documents of a table carry conforming assertions alone, the engine that accepts all of them is sound. -/
theorem schemaSound_tableEnvironment {documents : List (String × Element)} {descriptors : List (String × EntityDescriptor)}
    {instants : List (String × DateTime)} {format : Inflate.Format} (resolve : String → Option SchemaType)
    (h : ∀ entry ∈ documents, ∀ e ∈ entry.2.findall assertionTag, schema.Valid resolve .assertionType e) :
    SchemaSound (tableEnvironment documents descriptors instants format) := by
  intro text namespaces root hroot _
  obtain ⟨before, after, hdocuments, _⟩ := List.lookup_eq_some_iff.mp (required_ok_iff.mp hroot)
  exact ⟨resolve, h (text, root) (by simp [hdocuments])⟩

/-- The demonstration assertion conforms to the schema. -/
theorem valid_demoAssertion : schema.Valid (fun _ => none) .assertionType (demoAssertion demoIssuer) :=
  schema.valid_of_check _ _ _ rfl

/-- The demonstration environment accepts nothing but that. -/
theorem schemaSound_demoEnvironment : SchemaSound demoEnvironment := by
  refine schemaSound_tableEnvironment (fun _ => none) fun entry hentry e he => ?_
  obtain rfl := List.mem_singleton.mp hentry
  have hfindall : (minimalResponse (some "r1") (demoAssertion demoIssuer)).findall assertionTag =
      [demoAssertion demoIssuer] := rfl
  rw [hfindall, List.mem_singleton] at he
  exact he ▸ valid_demoAssertion

section Verified

variable {env : Environment} {responseXml : String} {idp : IdPDescriptor env.tables} {parsed : ParsedResponse}

/-- The assertion of a verified response has the structure of the bundled schema. -/
theorem valid_of_verified (hschema : SchemaSound env) (h : verifiedResponse env responseXml idp = .ok parsed) :
    ∃ resolve, schema.Valid resolve .assertionType parsed.assertion := by
  obtain ⟨hparse, hwrapping, _⟩ := verifiedResponse_ok_iff.mp h
  obtain ⟨hxml, hroot, _⟩ := parseResponse_ok_iff.mp hparse
  obtain ⟨_, _, _, hvalidated⟩ := rejectSignatureWrapping_ok_iff.mp hwrapping
  obtain ⟨namespaces, _, _, hvalid⟩ := rejectSchemaInvalidAssertion_ok_iff.mp hvalidated
  obtain ⟨resolve, hall⟩ := hschema _ _ _ hroot (hxml ▸ hvalid)
  obtain ⟨i, _, hposition⟩ := sole_assertion_of_verified h
  have hchild := parsed.position_spec [i] hposition
  rw [Element.at?_singleton] at hchild
  exact ⟨resolve, hall _ (Element.mem_findall.mpr ⟨List.mem_of_getElem? hchild, tag_of_parseResponse hparse⟩)⟩

/-- Every signature that verifies has one signature method and one reference with one digest method, and their
algorithms are on the allowlists: what the algorithm check passes over the schema has excluded. -/
theorem everyAlgorithmAllowed_of_verified (hschema : SchemaSound env)
    (h : verifiedResponse env responseXml idp = .ok parsed) :
    ∃ signature method reference digest, locateAssertionSignature parsed = .ok (signature, parsed.assertionId) ∧
      signatureMethods signature = [method] ∧ references signature = [reference] ∧
      reference.findall digestMethodTag = [digest] ∧ AlgorithmIn allowedSignatureAlgorithms method ∧
      AlgorithmIn allowedDigestAlgorithms digest ∧ EveryAlgorithmAllowed signature := by
  obtain ⟨resolve, hassertion⟩ := valid_of_verified hschema h
  obtain ⟨_, signature, _, hlocate, hstrong, _⟩ := sole_signature_of_verified h
  obtain ⟨_, _, hone, _⟩ := locateAssertionSignature_ok_iff.mp hlocate
  have hsignature : schema.Valid resolve .signatureType signature :=
    valid_of_findall_eq hassertion rfl hone
  obtain ⟨info, hinfo⟩ : ∃ info, signature.findall (qname dsNs "SignedInfo") = [info] :=
    exists_findall_eq_singleton hsignature rfl
  have hinfoValid : schema.Valid resolve .signedInfoType info :=
    valid_of_findall_eq hsignature rfl hinfo
  obtain ⟨method, hmethod⟩ : ∃ method, info.findall (qname dsNs "SignatureMethod") = [method] :=
    exists_findall_eq_singleton hinfoValid rfl
  have hmethods : signatureMethods signature = [method] := by
    rw [signatureMethods, Element.iterfind, hinfo, List.flatMap_singleton, Element.iterfind_singleton, hmethod]
  obtain ⟨reference, hreference⟩ := exists_reference_of_locate hlocate
  have hfound : info.findall (qname dsNs "Reference") = [reference] := by
    rw [references, Element.iterfind, hinfo, List.flatMap_singleton, Element.iterfind_singleton] at hreference
    exact hreference
  have hreferenceValid : schema.Valid resolve .referenceType reference :=
    valid_of_findall_eq hinfoValid rfl hfound
  obtain ⟨digest, hdigest⟩ : ∃ digest, reference.findall digestMethodTag = [digest] :=
    exists_findall_eq_singleton hreferenceValid rfl
  obtain ⟨⟨first, hfirst, hallowed⟩, hdigests⟩ := requireStrongAlgorithms_ok_iff.mp hstrong
  obtain rfl : method = first := by simpa [hmethods] using hfirst
  have hstrongDigest : AlgorithmIn allowedDigestAlgorithms digest :=
    hdigests reference (by simp [hreference]) digest (by simp [hdigest])
  refine ⟨signature, method, reference, digest, hlocate, hmethods, hreference, hdigest, hallowed, hstrongDigest, ?_⟩
  exact ⟨by simp [hmethods], by simpa [hmethods] using hallowed, by simp [hreference, hdigest], hdigests⟩

/-- The signature of the demonstration Response has one method and one digest, and both are allowed. -/
theorem everyAlgorithmAllowed_of_verified_demo : EveryAlgorithmAllowed (demoSignature "a1") := by
  obtain ⟨signature, _, _, _, hlocate, _, _, _, _, _, hall⟩ :=
    everyAlgorithmAllowed_of_verified schemaSound_demoEnvironment verifiedResponse_demo
  obtain ⟨_, _, hone, _⟩ := locateAssertionSignature_ok_iff.mp hlocate
  have hsole : demoParsed.assertion.findall signatureTag = [demoSignature "a1"] := rfl
  rw [hsole, List.singleton_inj] at hone
  exact hone ▸ hall

/-- The tag of a condition of no known kind. -/
def conditionTag : String := qname samlNs "Condition"

/-- The tag of the condition that an assertion be used once. -/
def oneTimeUseTag : String := qname samlNs "OneTimeUse"

/-- In a verified response the validators compute what they would if they took the first element for the only one: no
element that they count is there twice, and of the conditions only two kinds are left to be refused. -/
theorem repetition_excluded_of_verified (hschema : SchemaSound env)
    (h : verifiedResponse env responseXml idp = .ok parsed) :
    (∀ audience now clockSkew, validateConditions env parsed.assertion audience now clockSkew = do
      requireAware now
      let conditions ← required (parsed.assertion.find [conditionsTag])
        (.malformedResponse "assertion has no Conditions")
      checkConditions env conditions audience now clockSkew) ∧
    (bearerConfirmations parsed.assertion = do
      let subject ← required (parsed.assertion.find [subjectTag]) (.malformedResponse "assertion has no Subject")
      raiseIf ((bearerOf subject).isEmpty = true)
        (.malformedResponse "assertion Subject has no bearer SubjectConfirmation")
      .ok (bearerOf subject)) ∧
    (∀ confirmations, bearerConfirmations parsed.assertion = .ok confirmations → ∀ confirmation ∈ confirmations,
      (confirmation.findall subjectConfirmationDataTag).length ≤ 1) ∧
    ∀ conditions ∈ parsed.assertion.findall conditionsTag,
      (Evaluable conditions ↔ ∀ child ∈ conditions.children, child.tag ≠ conditionTag ∧ child.tag ≠ oneTimeUseTag) := by
  obtain ⟨resolve, hassertion⟩ := valid_of_verified hschema h
  refine ⟨fun audience now clockSkew => ?_, ?_, fun confirmations hconfirmations confirmation hmem => ?_,
    fun conditions hconditions => ?_⟩
  · have hmost : (parsed.assertion.findall conditionsTag).length ≤ 1 :=
      length_findall_le_one hassertion rfl
    rw [validateConditions, Element.find, Element.iterfind_singleton]
    cases hfound : parsed.assertion.findall conditionsTag with
    | nil => rfl
    | cons conditions rest =>
      have hrest : rest = [] := by simpa [hfound] using hmost
      rw [hrest]
      rfl
  · have hmost : (parsed.assertion.findall subjectTag).length ≤ 1 :=
      length_findall_le_one hassertion rfl
    rw [bearerConfirmations, Element.find, Element.iterfind_singleton]
    cases hfound : parsed.assertion.findall subjectTag with
    | nil => rfl
    | cons subject rest =>
      have hrest : rest = [] := by simpa [hfound] using hmost
      rw [hrest]
      rfl
  · obtain ⟨subject, hone, rfl, _⟩ := bearerConfirmations_ok_iff.mp hconfirmations
    have hsubject : schema.Valid resolve .subjectType subject :=
      valid_of_findall_eq hassertion rfl hone
    have hconfirmation : schema.Valid resolve .subjectConfirmationType confirmation :=
      valid_of_mem_findall hsubject rfl (List.mem_filter.mp hmem).1
    exact length_findall_le_one hconfirmation rfl
  · have hvalid : schema.Valid resolve .conditionsType conditions :=
      valid_of_mem_findall hassertion rfl hconditions
    refine forall₂_congr fun child hchild => ?_
    have htag : child.tag ∈ [conditionTag, audienceRestrictionTag, oneTimeUseTag, proxyRestrictionTag] :=
      tag_of_mem_children hvalid rfl hchild
    simp only [List.mem_cons, List.not_mem_nil, or_false] at htag
    rcases htag with htag | htag | htag | htag <;> rw [htag] <;> decide

/-- In the demonstration Response no element is there twice, and its conditions can be evaluated. -/
theorem repetition_excluded_of_verified_demo : Evaluable demoConditions ∧
    ∀ confirmations, bearerConfirmations demoParsed.assertion = .ok confirmations → ∀ confirmation ∈ confirmations,
      (confirmation.findall subjectConfirmationDataTag).length ≤ 1 := by
  obtain ⟨_, _, hdata, hevaluable⟩ := repetition_excluded_of_verified schemaSound_demoEnvironment verifiedResponse_demo
  have hmem : demoConditions ∈ demoParsed.assertion.findall conditionsTag :=
    Element.mem_findall.mpr ⟨by simp [demoParsed, minimalParsed, demoAssertion], rfl⟩
  exact ⟨(hevaluable demoConditions hmem).mpr (by decide), hdata⟩

end Verified

/-- Tags of elements that may hold what the schema does not declare. -/
def openTags : List String :=
  ["SubjectConfirmationData", "Advice", "AuthnContextDecl", "AttributeValue"].map (qname samlNs) ++
    ["CanonicalizationMethod", "SignatureMethod", "Transform", "DigestMethod", "KeyInfo", "Object"].map (qname dsNs) ++
    ["EncryptionMethod", "EncryptionProperty", "DataReference", "KeyReference"].map (qname xencNs)

/-- Elements with the tag have open content. -/
def isOpen (tag : String) : Bool := openTags.contains tag

/-- Types of elements in an assertion whose content is closed. -/
def structuredTypes : List SchemaType :=
  [.encryptedElementType, .assertionType, .subjectType, .subjectConfirmationType, .conditionsType,
    .audienceRestrictionType, .proxyRestrictionType, .authnStatementType, .authnContextType,
    .authzDecisionStatementType, .evidenceType, .attributeStatementType, .attributeType, .signatureType,
    .signedInfoType, .referenceType, .transformsType, .encryptedDataType, .encryptedKeyType, .cipherDataType,
    .cipherReferenceType, .cipherTransformsType, .referenceListType, .encryptionPropertiesType]

/-- The element letters of a content model. -/
def elementLetters (content : Content) : List (String × SchemaType) :=
  (symbols content).filterMap fun t =>
    match t with
    | .element tag τ => some (tag, τ)
    | .wildcard _ _ => none

/-- An assertion, and what is declared in elements of the structured types. -/
def structured : List (String × SchemaType) :=
  (assertionTag, .assertionType) :: structuredTypes.flatMap fun τ => elementLetters (contentOf τ)

/-- Elements of the type have no children. -/
def isChildless (σ : SchemaType) : Bool :=
  match define σ with
  | .anything => false
  | .simple => true
  | .complex type => (symbols type.content).isEmpty

/-- All letters of the type are elements. -/
def isNamed (σ : SchemaType) : Bool :=
  match define σ with
  | .complex type => (symbols type.content).all fun t =>
      match t with
      | .element _ _ => true
      | .wildcard _ _ => false
  | _ => false

/-- The content of a complex type. -/
theorem contentOf_of_define {σ : SchemaType} {type : ComplexType SchemaType} (h : define σ = .complex type) :
    contentOf σ = type.content := by
  rw [contentOf, h]

/-- What a structured type declares is in the structured part. -/
theorem closedIn_structured {σ : SchemaType} (hσ : σ ∈ structuredTypes) : schema.closedIn structured σ = true := by
  have hall : structuredTypes.all isNamed = true := rfl
  have hnamed := List.all_eq_true.mp hall σ hσ
  cases hdefine : define σ with
  | anything => simp [isNamed, hdefine] at hnamed
  | simple => simp [isNamed, hdefine] at hnamed
  | complex type =>
    rw [isNamed, hdefine] at hnamed
    rw [Schema.closedIn, show schema.define σ = .complex type from hdefine]
    refine List.all_eq_true.mpr fun t ht => ?_
    cases t with
    | wildcard namespaces strict => exact List.all_eq_true.mp hnamed _ ht
    | element tag τ =>
      have hletter : (tag, τ) ∈ elementLetters (contentOf σ) :=
        List.mem_filterMap.mpr ⟨_, contentOf_of_define hdefine ▸ ht, rfl⟩
      have hmem : (tag, τ) ∈ structured := List.mem_cons_of_mem _ (List.mem_flatMap.mpr ⟨σ, hσ, hletter⟩)
      exact List.any_eq_true.mpr ⟨(tag, τ), hmem, by simp⟩

/-- A type that stands for the type of a structured element without open content is structured, or has no children. -/
theorem structured_or_childless {entry : String × SchemaType} (hentry : entry ∈ structured)
    (hopen : isOpen entry.1 = false) {σ : SchemaType} (hderives : schema.derivesIn schema.depth σ entry.2 = true)
    (habstract : schema.isAbstract σ = false) : σ ∈ structuredTypes ∨ isChildless σ = true := by
  have hall : (structured.all fun entry => ((schemaTypes.filter fun σ =>
      !(structuredTypes.contains σ || isChildless σ || schema.isAbstract σ)).all fun σ =>
        !schema.derivesIn schema.depth σ entry.2) || isOpen entry.1) = true := rfl
  by_contra hneither
  obtain ⟨hstructured, hchildless⟩ := not_or.mp hneither
  have hentry := List.all_eq_true.mp hall entry hentry
  rw [hopen, Bool.or_false] at hentry
  have hσ := List.all_eq_true.mp hentry σ (List.mem_filter.mpr
    ⟨mem_schemaTypes σ, by simp [hstructured, hchildless, habstract]⟩)
  rw [hderives] at hσ
  exact Bool.false_ne_true hσ

/-- Outside the slots with open content the structured part of an assertion is closed. -/
theorem region_structured : schema.Region isOpen structured := by
  intro entry hentry hopen σ hderives habstract
  rcases structured_or_childless hentry hopen hderives habstract with hσ | hchildless
  · exact closedIn_structured hσ
  · cases hdefine : define σ with
    | anything => simp [isChildless, hdefine] at hchildless
    | simple => rw [Schema.closedIn, show schema.define σ = .simple from hdefine]
    | complex type =>
      rw [isChildless, hdefine, List.isEmpty_iff] at hchildless
      rw [Schema.closedIn, show schema.define σ = .complex type from hdefine]
      simp [hchildless]

/-- Of the structured elements without open content only an assertion declares a signature. -/
theorem tag_of_declaredBelow {entry : String × SchemaType} (hentry : entry ∈ structured)
    (hopen : isOpen entry.1 = false) {ρ : SchemaType} (h : schema.DeclaredBelow entry.2 signatureTag ρ) :
    entry.1 = assertionTag := by
  obtain ⟨σ, type, hderives, habstract, hdefine, hsymbol⟩ := h
  have hletter : (signatureTag, ρ) ∈ elementLetters (contentOf σ) :=
    List.mem_filterMap.mpr ⟨_, contentOf_of_define hdefine ▸ hsymbol, rfl⟩
  have hdeclaring : (structuredTypes.all fun σ => σ == .assertionType ||
      (elementLetters (contentOf σ)).all fun letter => letter.1 != signatureTag) = true := rfl
  have hassertions : (structured.all fun entry =>
      !schema.derivesIn schema.depth .assertionType entry.2 || entry.1 == assertionTag || isOpen entry.1) = true := rfl
  rcases structured_or_childless hentry hopen hderives habstract with hσ | hchildless
  · have hassertion := List.all_eq_true.mp hdeclaring σ hσ
    rw [Bool.or_eq_true, beq_iff_eq] at hassertion
    obtain rfl : σ = .assertionType :=
      hassertion.resolve_right fun hnone => by simpa using List.all_eq_true.mp hnone _ hletter
    have htag := List.all_eq_true.mp hassertions entry hentry
    rwa [hderives, hopen, Bool.not_true, Bool.false_or, Bool.or_false, beq_iff_eq] at htag
  · rw [isChildless, show define σ = .complex type from hdefine, List.isEmpty_iff] at hchildless
    rw [hchildless] at hsymbol
    contradiction

/-- An element has open content, and the position lies below it. -/
def BelowOpen (e : Element) (path : List ℕ) : Prop :=
  ∃ above a, above <+: path ∧ above ≠ path ∧ e.at? above = some a ∧ isOpen a.tag = true

section Planted

variable {parsed : ParsedResponse} {resolve : String → Option SchemaType}

/-- Below the consumed assertion there is no other. -/
theorem eq_nil_of_sole (hsole : requireSoleConsumedAssertion parsed = .ok ()) {path : List ℕ} {e : Element}
    (hat : parsed.assertion.at? path = some e) (htag : e.tag = assertionTag) : path = [] := by
  obtain ⟨_, position, hposition, hfound⟩ := requireSoleConsumedAssertion_ok_iff.mp hsole
  have hnode : (⟨position ++ path, e⟩ : Node) ∈ tagged parsed.root assertionTag :=
    List.mem_filter.mpr ⟨Element.mem_nodes_of_subtree (n := ⟨path, e⟩) (parsed.position_spec position hposition)
      (Element.mem_nodes.mpr hat), by simpa using htag⟩
  rw [hfound, List.mem_singleton, Node.mk.injEq] at hnode
  simpa using hnode.1

/-- The consumed assertion is an assertion. -/
theorem tag_of_sole (hsole : requireSoleConsumedAssertion parsed = .ok ()) : parsed.assertion.tag = assertionTag := by
  obtain ⟨_, position, _, hfound⟩ := requireSoleConsumedAssertion_ok_iff.mp hsole
  have hnode : (⟨position, parsed.assertion⟩ : Node) ∈ tagged parsed.root assertionTag := by simp [hfound]
  exact beq_iff_eq.mp (List.mem_filter.mp hnode).2

/-- Every signature in a conforming assertion is a direct child of it, or planted in open content. -/
theorem enveloped_or_belowOpen (hsole : requireSoleConsumedAssertion parsed = .ok ())
    (hvalid : schema.Valid resolve .assertionType parsed.assertion) {n : Node}
    (hn : n ∈ tagged parsed.assertion signatureTag) :
    n ∈ parsed.assertion.childNodes ∨ BelowOpen parsed.assertion n.path := by
  obtain ⟨hnode, htag⟩ := List.mem_filter.mp hn
  have hat := Element.mem_nodes.mp hnode
  have hroot : (parsed.assertion.tag, SchemaType.assertionType) ∈ structured := by
    rw [tag_of_sole hsole]
    exact List.mem_cons_self
  rcases List.eq_nil_or_concat n.path with hpath | ⟨path, i, hpath⟩
  · rw [hpath, Element.at?_nil, Option.some.injEq] at hat
    rw [← hat, tag_of_sole hsole] at htag
    exact absurd htag (by decide)
  · by_cases hplanted : BelowOpen parsed.assertion n.path
    · exact Or.inr hplanted
    · refine Or.inl (Element.mem_childNodes.mpr ⟨i, ?_⟩)
      rw [hpath, List.concat_eq_append] at hat hplanted
      have hclosed : ∀ above a, above <+: path → parsed.assertion.at? above = some a → isOpen a.tag = false := by
        intro above a hprefix ha
        by_contra hopen
        refine hplanted ⟨above, a, hprefix.trans (List.prefix_append path [i]), fun heq => ?_, ha, by simpa using hopen⟩
        have hlength := hprefix.length_le
        simp [heq] at hlength
      obtain ⟨parent, τ, ρ, hparent, hτ, hopen, hbelow⟩ := region_structured.parent hvalid hroot hat hclosed
      rw [beq_iff_eq.mp htag] at hbelow
      obtain rfl := eq_nil_of_sole hsole hparent (tag_of_declaredBelow hτ hopen hbelow)
      rw [List.nil_append] at hat
      rw [hpath, List.concat_eq_append, List.nil_append]
      exact ⟨rfl, by rwa [Element.at?_singleton] at hat⟩

/-- Direct children of a conforming assertion are not below open content. -/
theorem not_belowOpen_of_mem_childNodes (hsole : requireSoleConsumedAssertion parsed = .ok ()) {n : Node}
    (hn : n ∈ parsed.assertion.childNodes) : ¬ BelowOpen parsed.assertion n.path := by
  intro h
  obtain ⟨i, hpath, _⟩ := Element.mem_childNodes.mp hn
  obtain ⟨above, a, hprefix, hne, ha, hopen⟩ := h
  rw [hpath] at hprefix hne
  obtain rfl : above = [] := by
    rcases List.prefix_cons_iff.mp hprefix with hnil | ⟨rest, rfl, hrest⟩
    · exact hnil
    · exact absurd (by rw [List.prefix_nil.mp hrest]) hne
  rw [Element.at?_nil, Option.some.injEq] at ha
  rw [← ha, tag_of_sole hsole] at hopen
  exact absurd hopen (by decide)

/-- In a conforming assertion both counts of signatures, in its subtree and among its children, pass exactly when it is
signed and no signature is planted in open content. -/
theorem signature_counts_iff (hsole : requireSoleConsumedAssertion parsed = .ok ())
    (hvalid : schema.Valid resolve .assertionType parsed.assertion) :
    (requireSoleAssertionSignature parsed = .ok () ∧ ∃ signature, parsed.assertion.findall signatureTag = [signature]) ↔
      parsed.assertion.findall signatureTag ≠ [] ∧
        ∀ n ∈ tagged parsed.assertion signatureTag, ¬ BelowOpen parsed.assertion n.path := by
  constructor
  · intro h
    obtain ⟨hcount, signature, hone⟩ := h
    obtain ⟨node, hnode⟩ := requireSoleAssertionSignature_ok_iff.mp hcount
    obtain ⟨i, htagged⟩ := tagged_eq_of_findall hnode hone
    refine ⟨by simp [hone], fun n hn => not_belowOpen_of_mem_childNodes hsole ?_⟩
    have hat := Element.mem_nodes.mp (List.mem_filter.mp hn).1
    rw [htagged, List.mem_singleton] at hn
    rw [hn, Element.at?_singleton] at hat
    exact hn ▸ Element.mem_childNodes.mpr ⟨i, rfl, hat⟩
  · intro h
    obtain ⟨hsigned, hnone⟩ := h
    have hmost : (parsed.assertion.findall signatureTag).length ≤ 1 := length_findall_le_one hvalid rfl
    obtain ⟨signature, hone⟩ : ∃ signature, parsed.assertion.findall signatureTag = [signature] :=
      List.length_eq_one_iff.mp (le_antisymm hmost (List.length_pos_iff.mpr hsigned))
    refine ⟨requireSoleAssertionSignature_ok_iff.mpr ?_, signature, hone⟩
    rw [Element.findall_eq_map_childNodes] at hone
    obtain ⟨node, hnode, _⟩ := List.map_eq_singleton_iff.mp hone
    have hmem : node ∈ parsed.assertion.childNodes.filter fun n => n.elem.tag == signatureTag := by simp [hnode]
    obtain ⟨hchild, htag⟩ := List.mem_filter.mp hmem
    refine ⟨node, Element.filter_nodes_eq_singleton_iff.mpr
      ⟨Element.mem_nodes_of_mem_childNodes hchild, htag, fun m hm hmtag => ?_⟩⟩
    have htagged : m ∈ tagged parsed.assertion signatureTag := List.mem_filter.mpr ⟨hm, hmtag⟩
    have hmchild := (enveloped_or_belowOpen hsole hvalid htagged).resolve_right (hnone m htagged)
    have hfiltered : m ∈ parsed.assertion.childNodes.filter fun n => n.elem.tag == signatureTag :=
      List.mem_filter.mpr ⟨hmchild, hmtag⟩
    rw [hnode, List.mem_singleton] at hfiltered
    exact hfiltered

end Planted

/-- The demonstration assertion is signed and has no planted signature, and passes both counts. -/
theorem signature_counts_iff_demo :
    (demoParsed.assertion.findall signatureTag ≠ [] ∧
      ∀ n ∈ tagged demoParsed.assertion signatureTag, ¬ BelowOpen demoParsed.assertion n.path) := by
  have hsole : requireSoleConsumedAssertion demoParsed = .ok () := rfl
  exact (signature_counts_iff hsole valid_demoAssertion).mp ⟨rfl, demoSignature "a1", rfl⟩

end ApronSaml
