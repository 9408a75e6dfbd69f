import ApronSaml.AcceptanceWindow
import ApronSaml.CertificateRollover
import ApronSaml.Requests
import ApronSaml.SignedContent

/-!
# Answers of an identity provider

An identity provider answers a request by what it read of it: an assertion for the party of
the request, confirmed for its endpoint and its ID until an expiry, signed and put into a
Response. Such an answer is verified, it is backed by the assertion before it was signed,
and the validators accept it exactly at the party of the request, for the request, and
until the expiry has passed by the skew.
-/

namespace ApronSaml

open Raising Whitespace ElementTree Chronology TextEncoding

/-- A configuration makes a party by its entity ID and its endpoint. -/
theorem SamlConfig.party_eq_iff {tables : Url.Tables} {config : SamlConfig tables} {party : Party} :
    config.party = party ↔ config.entityId = party.entityId ∧ config.acsUrl = party.acsUrl := by
  obtain ⟨entityId, acsUrl⟩ := party
  rw [SamlConfig.party, Party.mk.injEq]

/-- What an identity provider chooses for an answer. -/
structure AnswerChoice where
  issuer : String
  assertionId : String
  issueInstant : String
  expiry : String
  assertionId_ne : assertionId ≠ ""
  assertionId_strip : strip assertionId = assertionId

/-- A signature as it lies in an assertion: by strong algorithms, over the ID, and without further signatures,
assertions or IDs below it. -/
structure EnvelopedSignature (id : String) where
  elem : Element
  tag : elem.tag = signatureTag
  references : referenceUris elem = [some ("#" ++ id)]
  strong : requireStrongAlgorithms elem = .ok ()
  sole : ∀ n ∈ elem.nodes, n.elem.tag = signatureTag → n.path = []
  noAssertion : ∀ n ∈ elem.nodes, n.elem.tag ≠ assertionTag
  noId : ∀ n ∈ elem.nodes, ∀ name ∈ idAttrs, n.elem.get name = none

namespace AnswerChoice

variable (choice : AnswerChoice) (view : RequestView)

/-- The issuer of the assertion. -/
def issuerElement : Element := ⟨qname samlNs "Issuer", [], some choice.issuer, [], none⟩

/-- The data of the confirmation: the answer to the request, until the expiry, at the endpoint of the party. -/
def data : Element :=
  ⟨subjectConfirmationDataTag,
    [("InResponseTo", view.id), ("NotOnOrAfter", choice.expiry), ("Recipient", view.party.acsUrl)], none, [], none⟩

/-- The bearer confirmation. -/
def confirmation : Element :=
  ⟨subjectConfirmationTag, [("Method", methodBearer)], none, [choice.data view], none⟩

/-- The subject of the assertion. -/
def subject : Element := ⟨subjectTag, [], none, [choice.confirmation view], none⟩

/-- The party as audience. -/
def audience (view : RequestView) : Element := ⟨audienceTag, [], some view.party.entityId, [], none⟩

/-- The restriction to that audience. -/
def restriction (view : RequestView) : Element := ⟨audienceRestrictionTag, [], none, [audience view], none⟩

/-- The conditions of the assertion: until the expiry, for the party. -/
def conditions : Element :=
  ⟨conditionsTag, [("NotOnOrAfter", choice.expiry)], none, [restriction view], none⟩

/-- The assertion that answers a request. -/
def assertion : Element :=
  ⟨assertionTag, [("ID", choice.assertionId), ("Version", "2.0"), ("IssueInstant", choice.issueInstant)], none,
    [choice.issuerElement, choice.subject view, choice.conditions view], none⟩

/-- The assertion with its signature behind the issuer. -/
def signed (signature : EnvelopedSignature choice.assertionId) : Element :=
  { choice.assertion view with
    children := [choice.issuerElement, signature.elem, choice.subject view, choice.conditions view] }

/-- The Response around the signed assertion. -/
def response (signature : EnvelopedSignature choice.assertionId) : Element :=
  minimalResponse (some view.id) (choice.signed view signature)

end AnswerChoice

/-- The packages do their part for a Response: the schema engine finds it valid, and the backend verifies it for the
assertion's ID with a certificate of the identity provider and rejects it with the others. -/
structure Supports (env : Environment) (idp : IdPDescriptor env.tables) (responseXml assertionId : String) : Prop where
  schema : env.xmlSchema = .ok ()
  valid : ∃ namespaces, documentNamespaces env responseXml = .ok namespaces ∧
    env.isValid responseXml (namespaces.insert "saml" samlNs) = .ok true
  backend : ∃ binary, env.getXmlsecBinary = .ok binary ∧
    (∀ certFile, RaisesOnly (fun e => isBackendRejection e = true)
      (env.verifySignature binary responseXml certFile assertionNodeName assertionId)) ∧
    ∃ certBody ∈ idp.signingCertificates,
      env.verifySignature binary responseXml (pem certBody) assertionNodeName assertionId = .ok true

section Answers

variable {env : Environment} {choice : AnswerChoice} {view : RequestView}
  {signature : EnvelopedSignature choice.assertionId} {responseXml : String}

/-- The objects of a signed answer beside its root and its signature. -/
def plainNodes (choice : AnswerChoice) (view : RequestView) : List Node :=
  [⟨[0], choice.issuerElement⟩, ⟨[2], choice.subject view⟩, ⟨[2, 0], choice.confirmation view⟩,
    ⟨[2, 0, 0], choice.data view⟩, ⟨[3], choice.conditions view⟩, ⟨[3, 0], AnswerChoice.restriction view⟩,
    ⟨[3, 0, 0], AnswerChoice.audience view⟩]

/-- The objects of a signed answer are its root, those, and the objects of its signature. -/
theorem mem_nodes_signed {n : Node} :
    n ∈ (choice.signed view signature).nodes ↔
      n = ⟨[], choice.signed view signature⟩ ∨ n ∈ plainNodes choice view ∨
        ∃ m ∈ signature.elem.nodes, n = ⟨1 :: m.path, m.elem⟩ := by
  have hnodes : (choice.signed view signature).nodes =
      ⟨[], choice.signed view signature⟩ :: ⟨[0], choice.issuerElement⟩ ::
        (signature.elem.nodesAt [1] ++ (plainNodes choice view).tail) := rfl
  rw [hnodes, List.mem_cons, List.mem_cons, List.mem_append, Element.mem_nodesAt_iff_mem_nodes, plainNodes,
    List.mem_cons, List.tail_cons]
  exact or_congr_right ((or_congr_right or_comm).trans or_assoc.symm)

/-- None of them is a signature, an assertion, or carries an ID. -/
theorem plain_of_mem {n : Node} (h : n ∈ plainNodes choice view) :
    n.elem.tag ≠ signatureTag ∧ n.elem.tag ≠ assertionTag ∧ ∀ name ∈ idAttrs, n.elem.get name = none := by
  have htags : ∀ tag ∈ [qname samlNs "Issuer", subjectTag, subjectConfirmationTag, subjectConfirmationDataTag,
      conditionsTag, audienceRestrictionTag, audienceTag], tag ≠ signatureTag ∧ tag ≠ assertionTag := by
    decide +kernel
  have htag : n.elem.tag ∈ (plainNodes choice view).map fun m => m.elem.tag := List.mem_map_of_mem h
  obtain ⟨hsignature, hassertion⟩ := htags n.elem.tag htag
  refine ⟨hsignature, hassertion, fun name hname => ?_⟩
  simp only [plainNodes, List.mem_cons, List.not_mem_nil, or_false] at h
  simp only [idAttrs, List.mem_cons, List.not_mem_nil, or_false] at hname
  rcases h with rfl | rfl | rfl | rfl | rfl | rfl | rfl <;> rcases hname with rfl | rfl | rfl <;> rfl

/-- The subtree of a signed answer carries its one signature. -/
theorem tagged_signature_signed :
    tagged (choice.signed view signature) signatureTag = [⟨[1], signature.elem⟩] := by
  rw [tagged, Element.filter_nodes_eq_singleton_iff]
  simp only [beq_iff_eq, mem_nodes_signed]
  refine ⟨Or.inr (Or.inr ⟨⟨[], signature.elem⟩, Element.mem_nodes.mpr (Element.at?_nil _), rfl⟩), signature.tag, ?_⟩
  rintro m (rfl | hplain | ⟨m, hm, rfl⟩) htag
  · exact absurd htag (by decide +kernel : assertionTag ≠ signatureTag)
  · exact absurd htag (plain_of_mem hplain).1
  · have hroot := signature.sole m hm htag
    rw [Element.mem_nodes, hroot, Element.at?_nil, Option.some.injEq] at hm
    simp [hroot, hm]

/-- The one object of a signed answer that is an assertion or carries an ID is its root. -/
theorem eq_root_of_mem_nodes_signed {n : Node} (hn : n ∈ (choice.signed view signature).nodes)
    (h : n.elem.tag = assertionTag ∨ ∃ name ∈ idAttrs, n.elem.get name ≠ none) :
    n = ⟨[], choice.signed view signature⟩ := by
  rcases mem_nodes_signed.mp hn with hroot | hplain | ⟨m, hm, rfl⟩
  · exact hroot
  · obtain ⟨_, hassertion, hnone⟩ := plain_of_mem hplain
    rcases h with htag | ⟨name, hname, hsome⟩
    · exact absurd htag hassertion
    · exact absurd (hnone name hname) hsome
  · rcases h with htag | ⟨name, hname, hsome⟩
    · exact absurd htag (signature.noAssertion m hm)
    · exact absurd (signature.noId m hm name hname) hsome

/-- The same holds in the Response around it. -/
theorem eq_assertion_of_mem_nodes_response {n : Node} (hn : n ∈ (choice.response view signature).nodes)
    (h : n.elem.tag = assertionTag ∨ ∃ name ∈ idAttrs, n.elem.get name ≠ none) :
    n = ⟨[1], choice.signed view signature⟩ := by
  have hids : ∀ name ∈ idAttrs, name ≠ "InResponseTo" := by decide +kernel
  rcases mem_nodes_minimalResponse.mp hn with rfl | rfl | rfl | ⟨m, hm, rfl⟩
  · rcases h with htag | ⟨name, hname, hsome⟩
    · exact absurd htag (by decide +kernel : qname samlpNs "Response" ≠ assertionTag)
    · exact absurd (get_minimalResponse (hids name hname)) hsome
  · rcases h with htag | ⟨name, hname, hsome⟩
    · exact absurd htag (by decide +kernel)
    · exact absurd rfl hsome
  · rcases h with htag | ⟨name, hname, hsome⟩
    · exact absurd htag (by decide +kernel)
    · have hnone : ∀ name ∈ idAttrs, successStatusCode.get name = none := by decide +kernel
      exact absurd (hnone name hname) hsome
  · rw [eq_root_of_mem_nodes_signed hm h]

/-- The Response as it is parsed. -/
def AnswerChoice.parsed (choice : AnswerChoice) (view : RequestView)
    (signature : EnvelopedSignature choice.assertionId) (responseXml : String) : ParsedResponse :=
  minimalParsed responseXml (some view.id) (choice.signed view signature)

/-- The ID of the answer is the chosen one. -/
theorem assertionId_parsed : (choice.parsed view signature responseXml).assertionId = choice.assertionId :=
  choice.assertionId_strip

/-- An answer passes the hardening. -/
theorem rejectSignatureWrapping_answer {idp : IdPDescriptor env.tables}
    (hsupports : Supports env idp responseXml choice.assertionId) :
    rejectSignatureWrapping env (choice.parsed view signature responseXml) = .ok () := by
  have hnode : (⟨[1], choice.signed view signature⟩ : Node) ∈ (choice.response view signature).nodes :=
    Element.mem_nodes.mpr rfl
  refine rejectSignatureWrapping_ok_iff.mpr ⟨requireSoleConsumedAssertion_ok_iff.mpr ⟨?_, [1], rfl, ?_⟩,
    rejectAmbiguousIds_ok_iff.mpr ?_, requireSoleAssertionSignature_ok_iff.mpr ⟨_, tagged_signature_signed⟩,
    rejectSchemaInvalidAssertion_ok_iff.mpr ?_⟩
  · rw [assertionId_parsed]
    exact choice.assertionId_ne
  · refine Element.filter_nodes_eq_singleton_iff.mpr ⟨hnode, beq_self_eq_true assertionTag, fun m hm htag => ?_⟩
    exact eq_assertion_of_mem_nodes_response hm (Or.inl (by simpa using htag))
  · rintro n hn m hm id ⟨name, hname, value, hvalue, _⟩ ⟨name', hname', value', hvalue', _⟩
    have hne {o : Option String} {v : String} (hv : v ∈ o) : o ≠ none := Option.ne_none_iff_exists'.mpr ⟨v, hv⟩
    rw [eq_assertion_of_mem_nodes_response hn (Or.inr ⟨name, hname, hne hvalue⟩),
      eq_assertion_of_mem_nodes_response hm (Or.inr ⟨name', hname', hne hvalue'⟩)]
  · obtain ⟨namespaces, hnamespaces, hvalid⟩ := hsupports.valid
    exact ⟨namespaces, hnamespaces, reraise_ok_iff.mpr hsupports.schema, hvalid⟩

/-- An answer is verified. -/
theorem verifiedResponse_answer {idp : IdPDescriptor env.tables}
    (hsupports : Supports env idp responseXml choice.assertionId)
    (hparse : env.parseSafeXml true responseXml = .ok (choice.response view signature)) :
    verifiedResponse env responseXml idp = .ok (choice.parsed view signature responseXml) := by
  refine verifiedResponse_ok_iff.mpr ⟨parseResponse_minimalResponse rfl hparse,
    rejectSignatureWrapping_answer hsupports, verifyAssertionSignature_ok_iff.mpr ⟨signature.elem, ?_, ?_⟩⟩
  · have hothers : ∀ tag ∈ [qname samlNs "Issuer", subjectTag, conditionsTag], (tag == signatureTag) = false := by
      decide +kernel
    have hfindall : (choice.signed view signature).findall signatureTag = [signature.elem] := by
      simp only [Element.findall, AnswerChoice.signed, List.filter_cons, signature.tag, beq_self_eq_true]
      simp [AnswerChoice.issuerElement, AnswerChoice.subject, AnswerChoice.conditions, hothers]
    rw [assertionId_parsed]
    exact locateAssertionSignature_ok_iff.mpr ⟨assertionId_parsed.symm, choice.assertionId_ne, hfindall,
      signature.references⟩
  · obtain ⟨binary, hbinary, hrejects, certBody, hcert, hanswer⟩ := hsupports.backend
    refine ⟨signature.strong, binary, hbinary, ?_⟩
    rw [assertionId_parsed]
    exact (anyTrue_ok_true_iff fun certBody _ => hrejects (pem certBody)).mpr ⟨certBody, hcert, hanswer⟩

/-- The events of a signed answer without its signature are those of the assertion, where nothing follows the
signature. -/
theorem eventsWithout_signed (htail : signature.elem.tail = none) :
    (choice.signed view signature).eventsWithout [1] = (choice.assertion view).events := by
  obtain ⟨⟨tag, attrib, text, children, tail⟩, _⟩ := signature
  obtain rfl : tail = none := htail
  rfl

/-- Where the backend accepts no other ID in an answer, what it accepts is backed by the assertion before it was
signed. -/
theorem backed_answer {idp : IdPDescriptor env.tables} (htail : signature.elem.tail = none)
    (hparse : env.parseSafeXml true responseXml = .ok (choice.response view signature))
    (honly : ∀ binary certFile nodeId, env.verifySignature binary responseXml certFile assertionNodeName nodeId =
      .ok true → nodeId = choice.assertionId) :
    Backed env idp {choice.assertion view} responseXml := by
  intro root binary certBody nodeId hroot _ hanswer
  obtain rfl : choice.response view signature = root := Except.ok.inj (hparse.symm.trans hroot)
  obtain rfl : nodeId = choice.assertionId := honly binary (pem certBody) nodeId hanswer
  have hnode : (⟨[1], choice.signed view signature⟩ : Node) ∈ (choice.response view signature).nodes :=
    Element.mem_nodes.mpr rfl
  have hresolves : Resolves ⟨[1], choice.signed view signature⟩ choice.assertionId :=
    ⟨"ID", by decide, choice.assertionId, rfl, Or.inl rfl⟩
  have hfirst : (⟨[1], signature.elem⟩ : Node) ∈ (tagged (choice.signed view signature) signatureTag).head? := by
    rw [tagged_signature_signed]
    rfl
  refine ⟨_, hnode, hresolves, ⟨[1], signature.elem⟩, hfirst, fun id hmem => ?_⟩
  obtain rfl : id = choice.assertionId := by
    rw [signature.references, List.mem_singleton, Option.some.injEq, String.append_right_inj] at hmem
    exact hmem
  refine ⟨_, hnode, hresolves, choice.assertion view, rfl, ?_⟩
  rw [coveredEvents, if_pos (List.prefix_append _ _), List.drop_left, eventsWithout_signed htail]

variable {config : SamlConfig env.tables} {now expiry : DateTime} {expectedInResponseTo : Option String}

/-- The direct children of a signed answer by their tags. -/
theorem findall_signed :
    (choice.signed view signature).findall conditionsTag = [choice.conditions view] ∧
      (choice.signed view signature).findall subjectTag = [choice.subject view] := by
  have hothers : ∀ tag ∈ [conditionsTag, subjectTag], (qname samlNs "Issuer" == tag) = false ∧
      (signatureTag == tag) = false := by
    decide +kernel
  have hconditions : (subjectTag == conditionsTag) = false := by decide +kernel
  have hsubject : (conditionsTag == subjectTag) = false := by decide +kernel
  constructor
  · obtain ⟨hissuer, hsignature⟩ := hothers conditionsTag (by simp)
    simp only [Element.findall, AnswerChoice.signed, List.filter_cons, AnswerChoice.issuerElement, hissuer,
      signature.tag, hsignature, AnswerChoice.subject, hconditions]
    simp [AnswerChoice.conditions]
  · obtain ⟨hissuer, hsignature⟩ := hothers subjectTag (by simp)
    simp only [Element.findall, AnswerChoice.signed, List.filter_cons, AnswerChoice.issuerElement, hissuer,
      signature.tag, hsignature, AnswerChoice.conditions, hsubject]
    simp [AnswerChoice.subject]

/-- The conditions of an answer hold exactly for the party of the request and until the expiry has passed by the
skew. -/
theorem validateConditions_answer (hnow : now.Aware) (hexpiry : instant? env choice.expiry = some expiry)
    (hparty : strip view.party.entityId = view.party.entityId) :
    validateConditions env (choice.signed view signature) config.entityId now config.clockSkew = .ok () ↔
      config.entityId = view.party.entityId ∧ now.utc < expiry.utc + config.clockSkew.micros := by
  have hbounds : WindowBounds env (choice.conditions view) none expiry := ⟨hexpiry, rfl, by simp⟩
  have haudience : AudienceNamed (choice.conditions view) config.entityId ↔ config.entityId = view.party.entityId := by
    have htexts : audienceTexts (AnswerChoice.restriction view) = [view.party.entityId] := by
      simp [audienceTexts, Element.findall, AnswerChoice.restriction, AnswerChoice.audience, Element.allText,
        Element.itertext, Element.itertextBelow, hparty]
    simp [audienceNamed_iff, AnswerChoice.conditions, htexts, show (AnswerChoice.restriction view).tag =
      audienceRestrictionTag from rfl]
  have hevaluable : Evaluable (choice.conditions view) := by
    intro child hchild
    obtain rfl := List.mem_singleton.mp hchild
    exact Or.inl rfl
  rw [validateConditions_eq hnow findall_signed.1, checkConditions_ok_iff config.entityId_ne hnow
    config.clockSkew_nonneg, haudience]
  constructor
  · intro h
    obtain ⟨⟨_, _, hbounds', hwindow⟩, hentity, _⟩ := h
    obtain ⟨rfl, rfl⟩ := hbounds.unique hbounds'
    rw [Option.map_none, Window.widened_none] at hwindow
    exact ⟨hentity, hwindow⟩
  · intro h
    obtain ⟨hentity, hwindow⟩ := h
    refine ⟨⟨none, expiry, hbounds, ?_⟩, hentity, hevaluable⟩
    rw [Option.map_none, Window.widened_none]
    exact hwindow

/-- The confirmation of an answer holds exactly at the endpoint of the party, for the request, and until the expiry has
passed by the skew. -/
theorem validateSubjectConfirmation_answer
    (htimestamps : ∀ value, RaisesOnly (fun e => isTimestampError e = true) (env.fromisoformat value))
    (hnow : now.Aware) (hexpected : ∀ request ∈ expectedInResponseTo, strip request ≠ "")
    (hexpiry : instant? env choice.expiry = some expiry) :
    validateSubjectConfirmation env (choice.parsed view signature responseXml) config expectedInResponseTo now =
        .ok () ↔
      config.acsUrl = view.party.acsUrl ∧ expectedInResponseTo = some view.id ∧
        now.utc < expiry.utc + config.clockSkew.micros := by
  have hdata : (choice.confirmation view).findall subjectConfirmationDataTag = [choice.data view] := by
    simp [Element.findall, AnswerChoice.confirmation, AnswerChoice.data]
  have hopen : hasExpired now expiry config.clockSkew = .ok false ↔
      now.utc < expiry.utc + config.clockSkew.micros := by
    rw [hasExpired_of_aware hnow (aware_of_instant hexpiry) config.clockSkew_nonneg, Except.ok.injEq,
      decide_eq_false_iff_not, not_le]
  have haddressed : (choice.parsed view signature responseXml).root.get "InResponseTo" = some view.id :=
    get_inResponseTo_minimalResponse
  have hdestination : (choice.parsed view signature responseXml).root.get "Destination" = none :=
    get_minimalResponse (by decide)
  rw [validateSubjectConfirmation_ok_iff htimestamps hnow hexpected, Addressed, haddressed, hdestination]
  constructor
  · intro h
    obtain ⟨⟨_, _, hrequest⟩, subject, hsole, confirmation, hchild, _, data, hdata', _, hrecipient, ⟨expiry', hexpiry',
      htest⟩, _⟩ := h
    obtain rfl : subject = choice.subject view := by
      have hsole' := findall_signed.2.symm.trans hsole
      simpa using hsole'.symm
    obtain rfl : confirmation = choice.confirmation view := List.mem_singleton.mp hchild
    obtain rfl : data = choice.data view := by simpa [hdata] using hdata'.symm
    obtain rfl : expiry = expiry' := Option.some_injective _ (hexpiry.symm.trans hexpiry')
    exact ⟨(Option.some_injective _ hrecipient).symm, hrequest.symm, hopen.mp htest⟩
  · intro h
    obtain ⟨hacs, rfl, hwindow⟩ := h
    refine ⟨⟨Or.inl (Option.some_ne_none _), by simp, rfl⟩, choice.subject view, findall_signed.2,
      choice.confirmation view, List.mem_singleton_self _, ⟨rfl, rfl⟩, choice.data view, hdata, rfl, ?_,
      ⟨expiry, hexpiry, hopen.mpr hwindow⟩, rfl⟩
    rw [hacs]
    rfl

/-- An answer passes every implemented check exactly at the party of the request, for the request, and until the expiry
has passed by the skew. -/
theorem implementedChecks_answer_iff
    (htimestamps : ∀ value, RaisesOnly (fun e => isTimestampError e = true) (env.fromisoformat value))
    {idp : IdPDescriptor env.tables} (hsupports : Supports env idp responseXml choice.assertionId)
    (hparse : env.parseSafeXml true responseXml = .ok (choice.response view signature))
    (hexpiry : instant? env choice.expiry = some expiry) (hparty : strip view.party.entityId = view.party.entityId) :
    implementedChecks env responseXml config idp (.ok now) expectedInResponseTo = .ok () ↔
      (now.Aware ∧ strip view.id ≠ "") ∧ config.party = view.party ∧ expectedInResponseTo = some view.id ∧
        now.utc < expiry.utc + config.clockSkew.micros := by
  have hstages : implementedChecks env responseXml config idp (.ok now) expectedInResponseTo = .ok () ↔
      validateConditions env (choice.signed view signature) config.entityId now config.clockSkew = .ok () ∧
        validateSubjectConfirmation env (choice.parsed view signature responseXml) config expectedInResponseTo now =
          .ok () := by
    simp only [implementedChecks, verifiedResponse_answer hsupports hparse, ok_bind, bind_ok_iff]
    constructor
    · intro h
      obtain ⟨_, hconditions, hsubject⟩ := h
      exact ⟨hconditions, hsubject⟩
    · intro h
      obtain ⟨hconditions, hsubject⟩ := h
      exact ⟨(), hconditions, hsubject⟩
  rw [hstages, SamlConfig.party_eq_iff]
  constructor
  · intro h
    obtain ⟨hconditions, hsubject⟩ := h
    obtain ⟨hnow, hexpected⟩ := callerContract_of_validateSubjectConfirmation hsubject
    obtain ⟨hentity, _⟩ := (validateConditions_answer hnow hexpiry hparty).mp hconditions
    obtain ⟨hacs, rfl, hwindow⟩ :=
      (validateSubjectConfirmation_answer htimestamps hnow hexpected hexpiry).mp hsubject
    exact ⟨⟨hnow, hexpected view.id rfl⟩, ⟨hentity, hacs⟩, rfl, hwindow⟩
  · intro h
    obtain ⟨⟨hnow, hid⟩, ⟨hentity, hacs⟩, rfl, hwindow⟩ := h
    have hexpected : ∀ request ∈ some view.id, strip request ≠ "" := by
      rintro _ ⟨rfl⟩
      exact hid
    exact ⟨(validateConditions_answer hnow hexpiry hparty).mpr ⟨hentity, hwindow⟩,
      (validateSubjectConfirmation_answer htimestamps hnow hexpected hexpiry).mpr ⟨hacs, rfl, hwindow⟩⟩

/-- What an identity provider reads of a request, it reads of the configured party. -/
theorem view_of_buildAuthnRequest {builder : MessageBuilder} {tables : Url.Tables} {config : SamlConfig tables}
    {idp : IdPDescriptor tables} {relayState : Option String} {clock : Py DateTime} {request : AuthnRequest}
    (hbuild : buildAuthnRequest builder config idp relayState clock = .ok request) {parse : String → Option Element}
    (hparse : ∀ issueInstant, ReadsBack builder parse
      (authnRequestElement request.requestId issueInstant idp.ssoUrl config.acsUrl config.entityId))
    (hview : (parse request.xml).bind RequestView.read = some view) :
    view = ⟨request.requestId, some idp.ssoUrl, config.party⟩ :=
  Option.some_injective _ (hview.symm.trans (read_of_buildAuthnRequest hbuild hparse))

end Answers

end ApronSaml
