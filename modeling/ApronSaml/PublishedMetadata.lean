import ApronSaml.EndpointSelection
import ApronSaml.Requests
import ApronSaml.TrustAnchor

/-!
# Identity providers as they are published

A descriptor can be published as a document of one role: a signing key descriptor for every
certificate, and one endpoint. What comes out of any metadata document is a descriptor in
normal form, and a normal descriptor is read back from its own document: nothing that a
service provider trusts depends on how the identity provider laid its metadata out.
-/

namespace ApronSaml

open Raising Whitespace ElementTree Chronology

/-- The tag of a single sign-on endpoint. -/
def singleSignOnServiceTag : String := qname mdNs "SingleSignOnService"

/-- The entity as the metadata library's object model has it: the ID, and the endpoints of every role. -/
def objectModel (root : Element) : EntityDescriptor :=
  ⟨root.get "entityID", (root.findall idpssoDescriptorTag).map fun role =>
    ⟨(role.findall singleSignOnServiceTag).map fun service => ⟨service.get "Binding", service.get "Location"⟩⟩⟩

/-- The document is parsed to this tree, and the object model has its entity. -/
structure Publishes (env : Environment) (xml : String) (root : Element) : Prop where
  parsed : env.parseSafeXml false xml = .ok root
  read : env.entityDescriptorFromString xml = .ok (some (objectModel root))

/-- A key descriptor with a certificate for signing. -/
def keyDescriptorElement (certificate : String) : Element :=
  ⟨keyDescriptorTag, [("use", "signing")], none, [
    ⟨qname dsNs "KeyInfo", [], none, [
      ⟨qname dsNs "X509Data", [], none, [⟨x509CertificateTag, [], some certificate, [], none⟩], none⟩], none⟩], none⟩

/-- An endpoint for the Redirect binding. -/
def redirectEndpointElement (location : String) : Element :=
  ⟨singleSignOnServiceTag, [("Binding", bindingHttpRedirect), ("Location", location)], none, [], none⟩

/-- The role of an identity provider: its certificates for signing, and its endpoint. -/
def roleElement {tables : Url.Tables} (idp : IdPDescriptor tables) : Element :=
  ⟨idpssoDescriptorTag, [("protocolSupportEnumeration", samlpNs)], none,
    idp.signingCertificates.map keyDescriptorElement ++ [redirectEndpointElement idp.ssoUrl], none⟩

/-- The metadata of an identity provider. -/
def idpMetadataElement {tables : Url.Tables} (idp : IdPDescriptor tables) : Element :=
  ⟨qname mdNs "EntityDescriptor", [("entityID", idp.entityId)], none, [roleElement idp], none⟩

/-- Certificate texts as they are collected: none is empty or has a blank in it, and none is there twice. -/
structure CertificatesNormal (certificates : List String) : Prop where
  nodup : certificates.Nodup
  ne : ∀ certificate ∈ certificates, certificate ≠ ""
  plain : ∀ certificate ∈ certificates, ∀ c ∈ certificate.toList, isSpace c = false

/-- Descriptors as they come out of metadata. -/
structure IdPDescriptor.Normal {tables : Url.Tables} (idp : IdPDescriptor tables) : Prop where
  entityId_ne : idp.entityId ≠ ""
  entityId_strip : strip idp.entityId = idp.entityId
  ssoUrl_strip : strip idp.ssoUrl = idp.ssoUrl
  certificates : CertificatesNormal idp.signingCertificates

/-- The collected certificates are normal. -/
theorem certificatesNormal_collect (root : Element) : CertificatesNormal (collectSigningCertificates root) := by
  have hspec : ∀ text ∈ collectSigningCertificates root, text ≠ "" ∧ ∀ c ∈ text.toList, isSpace c = false := by
    intro text htext
    rw [collectSigningCertificates_eq, List.mem_eraseDups, eligibleTexts] at htext
    obtain ⟨certificate, _, hcertificate⟩ := List.mem_filterMap.mp htext
    exact certificateText_spec hcertificate
  refine ⟨?_, fun text htext => (hspec text htext).1, fun text htext => (hspec text htext).2⟩
  rw [collectSigningCertificates_eq]
  exact FirstSeen.nodup_eraseDups _

/-- A new certificate in normal form is appended as it is. -/
theorem addCertificate_plain {certificates : List String} {text : String} (hne : text ≠ "")
    (hplain : ∀ c ∈ text.toList, isSpace c = false) (hnew : text ∉ certificates) :
    addCertificate certificates ⟨x509CertificateTag, [], some text, [], none⟩ = certificates ++ [text] := by
  have hnormalized : String.ofList (splitBlanks isSpace text.toList).flatten = text := by
    rw [flatten_splitBlanks, List.filter_eq_self.mpr (by simpa using hplain), String.ofList_toList]
  simp only [addCertificate, hnormalized]
  rw [if_neg (not_or_intro hne hnew)]

/-- The certificate of a key descriptor is below it. -/
theorem descendants_keyDescriptorElement (certificate : String) :
    descendants (keyDescriptorElement certificate) (qname dsNs "X509Certificate") =
      [⟨x509CertificateTag, [], some certificate, [], none⟩] := rfl

section Published

variable {tables : Url.Tables} {idp : IdPDescriptor tables}

/-- The document has one role. -/
theorem findall_idpMetadataElement : (idpMetadataElement idp).findall idpssoDescriptorTag = [roleElement idp] := rfl

/-- The role has a key descriptor for every certificate. -/
theorem findall_keys : (roleElement idp).findall keyDescriptorTag = idp.signingCertificates.map keyDescriptorElement := by
  have hother : ((redirectEndpointElement idp.ssoUrl).tag == keyDescriptorTag) = false := by
    show (singleSignOnServiceTag == keyDescriptorTag) = false
    decide +kernel
  rw [Element.findall, roleElement, List.filter_append, List.filter_cons_of_neg (by simp [hother]), List.filter_nil,
    List.append_nil, List.filter_eq_self]
  intro key hkey
  obtain ⟨certificate, _, rfl⟩ := List.mem_map.mp hkey
  exact beq_self_eq_true keyDescriptorTag

/-- The role has one endpoint. -/
theorem findall_endpoints :
    (roleElement idp).findall singleSignOnServiceTag = [redirectEndpointElement idp.ssoUrl] := by
  have hother : (keyDescriptorTag == singleSignOnServiceTag) = false := by decide +kernel
  have hkeys : (idp.signingCertificates.map keyDescriptorElement).filter (fun c => c.tag == singleSignOnServiceTag) =
      [] := by
    rw [List.filter_eq_nil_iff]
    intro key hkey
    obtain ⟨certificate, _, rfl⟩ := List.mem_map.mp hkey
    exact ne_true_of_eq_false hother
  have hself : ((redirectEndpointElement idp.ssoUrl).tag == singleSignOnServiceTag) = true := beq_self_eq_true _
  rw [Element.findall, roleElement, List.filter_append, hkeys, List.nil_append]
  exact List.filter_cons_of_pos (p := fun c : Element => c.tag == singleSignOnServiceTag) hself

/-- Normal certificates are collected as they are, after those that were collected before. -/
theorem foldl_keyDescriptorElement {certificates past : List String} (h : CertificatesNormal (past ++ certificates)) :
    (certificates.map keyDescriptorElement).foldl (fun certificates keyDescriptor =>
      if keyDescriptor.get "use" ∈ signingUses then
        (descendants keyDescriptor (qname dsNs "X509Certificate")).foldl addCertificate certificates
      else certificates) past = past ++ certificates := by
  induction certificates generalizing past with
  | nil => rw [List.map_nil, List.foldl_nil, List.append_nil]
  | cons certificate rest ih =>
      have hmem : certificate ∈ past ++ certificate :: rest := by simp
      have hnew : certificate ∉ past := by
        intro hpast
        exact (List.nodup_append.mp h.nodup).2.2 certificate hpast certificate List.mem_cons_self rfl
      have huse : (keyDescriptorElement certificate).get "use" ∈ signingUses := by simp [keyDescriptorElement,
        Element.get, signingUses]
      rw [List.map_cons, List.foldl_cons, if_pos huse, descendants_keyDescriptorElement, List.foldl_cons,
        List.foldl_nil, addCertificate_plain (h.ne certificate hmem) (h.plain certificate hmem) hnew, ih]
      · rw [List.append_assoc, List.singleton_append]
      · rwa [List.append_assoc, List.singleton_append]

/-- The certificates of a published document are those of the descriptor. -/
theorem collect_idpMetadataElement (h : CertificatesNormal idp.signingCertificates) :
    collectSigningCertificates (idpMetadataElement idp) = idp.signingCertificates := by
  have hkeys : (idpMetadataElement idp).iterfind [qname mdNs "IDPSSODescriptor", qname mdNs "KeyDescriptor"] =
      idp.signingCertificates.map keyDescriptorElement := by
    rw [← findall_keys, ← keyDescriptorTag, ← idpssoDescriptorTag, Element.iterfind, findall_idpMetadataElement,
      List.flatMap_singleton, Element.iterfind_singleton]
  rw [collectSigningCertificates, hkeys]
  exact foldl_keyDescriptorElement h

/-- The object model of a published document has the ID and the endpoint of the descriptor. -/
theorem objectModel_idpMetadataElement :
    objectModel (idpMetadataElement idp) =
      ⟨some idp.entityId, [⟨[⟨some bindingHttpRedirect, some idp.ssoUrl⟩]⟩]⟩ := by
  rw [objectModel, findall_idpMetadataElement, List.map_singleton, findall_endpoints, List.map_singleton]
  rfl

/-- The one endpoint of a role is selected when its location is a stripped web URL. -/
theorem selectSsoUrl_singleton {location : String} (hstrip : strip location = location)
    (hweb : isHttpUrl tables location = .ok true) :
    selectSsoUrl tables [⟨[⟨some bindingHttpRedirect, some location⟩]⟩] = .ok location := by
  have hservice : SingleSignOnService.strippedLocation ⟨some bindingHttpRedirect, some location⟩ = location := hstrip
  have hpreferred : preferredUsable tables (endpoints [⟨[⟨some bindingHttpRedirect, some location⟩]⟩]) = some location := by
    simp [preferredUsable, firstUsable, endpoints, hservice, hweb]
  rcases selectSsoUrl_cases tables [⟨[⟨some bindingHttpRedirect, some location⟩]⟩] with
    ⟨⟨before, service, after, hservices, _, e, herror⟩, _⟩ | ⟨_, ⟨selected, hselected, hselect⟩ | ⟨hnone, _⟩⟩
  · have hmem : service ∈ endpoints [⟨[⟨some bindingHttpRedirect, some location⟩]⟩] := by simp [hservices]
    obtain rfl := List.mem_singleton.mp hmem
    rw [hservice, ← isHttpUrl_error_iff, hweb] at herror
    cases herror
  · rw [hpreferred, Option.some.injEq] at hselected
    rw [hselect, hselected]
  · rw [hpreferred] at hnone
    cases hnone

/-- A selected location is a stripped web URL. -/
theorem strip_of_selectSsoUrl {idpRoles : List IDPSSODescriptor} {location : String}
    (h : selectSsoUrl tables idpRoles = .ok location) : strip location = location := by
  rcases selectSsoUrl_cases tables idpRoles with ⟨_, _, hselect⟩ | ⟨_, ⟨selected, hselected, hselect⟩ | ⟨_, hselect⟩⟩
  · rw [h] at hselect
    cases hselect
  · rw [h, Except.ok.injEq] at hselect
    subst hselect
    have hfirst {binding : String} (hfound : firstUsable tables (endpoints idpRoles) binding = some location) :
        strip location = location := by
      obtain ⟨service, _, rfl⟩ := Option.map_eq_some_iff.mp hfound
      exact strip_strip _
    rcases Option.or_eq_some_iff.mp hselected with hredirect | ⟨_, hpost⟩
    · exact hfirst hredirect
    · exact hfirst hpost
  · rw [h] at hselect
    cases hselect

end Published

section EntryPoint

variable {env : Environment} {xml published : String} {idp : IdPDescriptor env.tables}

/-- Metadata is read as the stripped ID, the selected endpoint and the collected certificates. -/
theorem parseIdpMetadata_ok_iff :
    parseIdpMetadata env xml = .ok idp ↔
      ∃ entity root, DescribesIdp env xml entity ∧ selectSsoUrl env.tables entity.idpssoDescriptor = .ok idp.ssoUrl ∧
        env.parseSafeXml false xml = .ok root ∧ idp.entityId = strip (entity.entityId.getD "") ∧
        idp.signingCertificates = collectSigningCertificates root := by
  constructor
  · intro h
    have hread := h
    simp only [parseIdpMetadata, bind_ok_iff, reraise_ok_iff, required_ok_iff, raiseIf_ok_iff] at hread
    obtain ⟨entity?, hentity, entity, rfl, _, hnamed, _, hroles, ssoUrl, hselect, root, hroot, hmake⟩ := hread
    obtain ⟨hentityId, rfl, hcertificates⟩ := IdPDescriptor.make_ok_iff.mp hmake
    exact ⟨entity, root, ⟨hentity, hnamed, hroles⟩, hselect, hroot, hentityId, hcertificates⟩
  · intro h
    obtain ⟨entity, root, hdescribes, hselect, hroot, hentityId, hcertificates⟩ := h
    rw [hdescribes.parseIdpMetadata_eq, hselect, ok_bind, hroot, ok_bind]
    exact IdPDescriptor.make_ok_iff.mpr ⟨hentityId, rfl, hcertificates⟩

/-- What is read from metadata is in normal form. -/
theorem normal_of_parseIdpMetadata (h : parseIdpMetadata env xml = .ok idp) : idp.Normal := by
  obtain ⟨entity, root, hdescribes, hselect, _, hentityId, hcertificates⟩ := parseIdpMetadata_ok_iff.mp h
  refine ⟨hentityId ▸ hdescribes.named, ?_, strip_of_selectSsoUrl hselect, ?_⟩
  · rw [hentityId, strip_strip]
  · rw [hcertificates]
    exact certificatesNormal_collect root

/-- A normal descriptor is read back from its own document. -/
theorem parseIdpMetadata_of_normal (h : idp.Normal) (hpublished : Publishes env published (idpMetadataElement idp)) :
    parseIdpMetadata env published = .ok idp := by
  have hread := hpublished.read
  rw [objectModel_idpMetadataElement] at hread
  have hweb : isHttpUrl env.tables idp.ssoUrl = .ok true := (requireWebUrl_ok_iff.mp idp.ssoUrl_ok).1
  refine parseIdpMetadata_ok_iff.mpr ⟨_, idpMetadataElement idp, ⟨hread, ?_, List.cons_ne_nil _ _⟩,
    selectSsoUrl_singleton h.ssoUrl_strip hweb, hpublished.parsed, ?_, (collect_idpMetadataElement h.certificates).symm⟩
  · rw [Option.getD_some, h.entityId_strip]
    exact h.entityId_ne
  · rw [Option.getD_some, h.entityId_strip]

/-- A service provider is constructed from metadata that names a certificate. -/
theorem ServiceProvider.make_ok_iff {config : SamlConfig env.tables} {clock : Py DateTime} {sp : ServiceProvider env} :
    ServiceProvider.make env config clock = .ok sp ↔ sp.config = config ∧ sp.clock = clock := by
  unfold ServiceProvider.make
  constructor
  · intro h
    split at h
    · cases h
    · split at h
      · cases h
      · rw [Except.ok.injEq] at h
        subst h
        exact ⟨rfl, rfl⟩
  · rintro ⟨rfl, rfl⟩
    split
    · rename_i e herror
      rw [sp.idp_ok] at herror
      cases herror
    · rename_i idp hidp
      obtain rfl : sp.idp = idp := Except.ok.inj (sp.idp_ok.symm.trans hidp)
      rw [dif_neg sp.certificates_ne]

/-- What is read from any metadata document is read from the document of one role that publishes it, which is read
back exactly when the descriptor is in normal form; and a service provider is constructed from that document, and
trusts this identity provider, exactly when there is a certificate as well. -/
theorem published_metadata_read_back (hpublished : Publishes env published (idpMetadataElement idp)) :
    (∀ xml, parseIdpMetadata env xml = .ok idp → parseIdpMetadata env published = .ok idp) ∧
      (parseIdpMetadata env published = .ok idp ↔ idp.Normal) ∧
      ∀ config clock, config.idpMetadata = published →
        ((∃ sp, ServiceProvider.make env config clock = .ok sp ∧ sp.idp = idp) ↔
          idp.Normal ∧ idp.signingCertificates ≠ []) := by
  have hnormal : parseIdpMetadata env published = .ok idp ↔ idp.Normal :=
    ⟨normal_of_parseIdpMetadata, fun h => parseIdpMetadata_of_normal h hpublished⟩
  refine ⟨fun xml h => hnormal.mpr (normal_of_parseIdpMetadata h), hnormal, fun config clock hconfig => ?_⟩
  rw [← hnormal]
  constructor
  · rintro ⟨sp, hmake, rfl⟩
    obtain ⟨rfl, _⟩ := ServiceProvider.make_ok_iff.mp hmake
    exact ⟨hconfig ▸ sp.idp_ok, sp.certificates_ne⟩
  · intro h
    obtain ⟨hparse, hcertificates⟩ := h
    exact ⟨⟨config, clock, idp, hconfig ▸ hparse, hcertificates⟩, ServiceProvider.make_ok_iff.mpr ⟨rfl, rfl⟩, rfl⟩

/-- A service provider's own metadata is refused: it describes no identity provider. -/
theorem parseIdpMetadata_spMetadataElement {config : SamlConfig env.tables}
    (hpublished : Publishes env published (spMetadataElement config)) :
    parseIdpMetadata env published = .error (.metadata "IdP metadata describes no identity provider") := by
  have hread : env.entityDescriptorFromString published = .ok (some ⟨some config.entityId, []⟩) := hpublished.read
  have hnamed : strip (Option.getD (some config.entityId) "") ≠ "" := by
    rw [Option.getD_some, config.entityId_strip]
    exact config.entityId_ne
  rw [parseIdpMetadata, hread]
  simp only [reraise, required, ok_bind]
  rw [raiseIf_bind_neg hnamed, raiseIf_bind_pos trivial]

end EntryPoint

/-- The deployment's identity provider publishes its metadata, and a service provider trusts it. -/
theorem published_metadata_read_back_demo : demoIdp.Normal ∧
    ∃ sp, ServiceProvider.make (metadataEnvironment demoLocation) demoConfig (.ok demoNow) = .ok sp ∧ sp.idp = demoIdp := by
  have hpublished : Publishes (metadataEnvironment demoLocation) (demoMetadataXml demoLocation)
      (idpMetadataElement demoIdp) :=
    ⟨parseSafeXml_tableEnvironment_self false, entityDescriptorFromString_tableEnvironment_self⟩
  obtain ⟨_, hnormal, hconstructed⟩ := published_metadata_read_back hpublished
  have hdemo : demoIdp.Normal := hnormal.mp parseIdpMetadata_demo
  exact ⟨hdemo, (hconstructed demoConfig (.ok demoNow) rfl).mpr ⟨hdemo, List.cons_ne_nil _ _⟩⟩

end ApronSaml
