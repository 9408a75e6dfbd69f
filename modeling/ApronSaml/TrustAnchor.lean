import ApronSaml.Deployment
import ApronSaml.Library.FirstSeen

/-!
# The trust anchor: which certificates are collected

The loop over the metadata goes down two direct-child steps to the key descriptors and
then searches everything below them. Stated by position instead: a certificate element is
eligible when its third ancestor from the root, or a later one, is reached through a
direct-child role and a direct-child key descriptor for signing. The collected
certificates are the texts of the eligible elements in document order, without repetition.
-/

namespace ApronSaml

open Whitespace ElementTree

/-- The tag of an identity-provider role. -/
def idpssoDescriptorTag : String := qname mdNs "IDPSSODescriptor"

/-- The tag of a key descriptor. -/
def keyDescriptorTag : String := qname mdNs "KeyDescriptor"

/-- The tag of a certificate. -/
def x509CertificateTag : String := qname dsNs "X509Certificate"

/-- A key descriptor whose key may verify an assertion signature. -/
def isSigningKey (key : Element) : Bool := key.tag == keyDescriptorTag && signingUses.contains (key.get "use")

/-- A certificate element below a signing key descriptor that is a child of a role that is a child of the root. -/
def eligible (root : Element) (n : Node) : Bool :=
  match n.path with
  | i :: j :: _ :: _ =>
    n.elem.tag == x509CertificateTag && (root.at? [i]).any (fun role => role.tag == idpssoDescriptorTag) &&
      (root.at? [i, j]).any isSigningKey
  | _ => false

/-- The text of a certificate element without its blanks, where something is left. -/
def certificateText (certificate : Element) : Option String :=
  (certificate.text.map fun text => String.ofList (text.toList.filter fun c => !isSpace c)).filter fun text => text != ""

/-- The texts of the eligible certificate elements, in document order. -/
def eligibleTexts (root : Element) : List String :=
  (root.nodes.filter (eligible root)).filterMap fun n => certificateText n.elem

/-- One certificate element is recorded by its text, and left alone without one. -/
theorem addCertificate_eq (certificates : List String) (certificate : Element) :
    addCertificate certificates certificate =
      (certificateText certificate).elim certificates (FirstSeen.record certificates) := by
  unfold addCertificate certificateText
  cases certificate.text with
  | none => rfl
  | some text =>
    simp only [flatten_splitBlanks, Option.map_some]
    by_cases hempty : String.ofList (text.toList.filter fun c => !isSpace c) = ""
    · simp [hempty, Option.filter]
    · simp [hempty, Option.filter, FirstSeen.record]

/-- The loop over certificate elements keeps the first occurrences of their texts. -/
theorem foldl_addCertificate (certificates : List Element) :
    certificates.foldl addCertificate [] = (certificates.filterMap certificateText).eraseDups := by
  have hscan : (certificates.filterMap certificateText).foldl FirstSeen.record ([] : List String).eraseDups =
      (certificates.filterMap certificateText).eraseDups := FirstSeen.foldl_record [] _
  rw [← hscan, List.foldl_filterMap]
  congr 1
  funext seen certificate
  rw [addCertificate_eq]
  cases certificateText certificate <;> rfl

section Position

variable {root role key : Element} {i j : ℕ} (hrole : root.at? [i] = some role) (hkey : root.at? [i, j] = some key)
include hrole hkey

/-- Below a key descriptor the certificate elements are eligible together, or none is. -/
theorem eligible_below {n : Node} (hn : n ∈ Element.nodesBelow [i, j] 0 key.children) :
    eligible root n =
      (n.elem.tag == x509CertificateTag && (role.tag == idpssoDescriptorTag) && isSigningKey key) := by
  obtain ⟨k, below, hpath, _⟩ := (Element.mem_nodesBelow [i, j] 0 key.children n).mp hn
  simp only [eligible, hpath, List.cons_append, List.nil_append, hrole, hkey, Option.any_some]

/-- The eligible elements at and below a key descriptor's position are its certificates, when it is a signing key
descriptor in a role. -/
theorem filter_eligible_nodesAt_key :
    ((key.nodesAt [i, j]).filter (eligible root)).map Node.elem =
      if role.tag = idpssoDescriptorTag ∧ isSigningKey key = true then descendants key x509CertificateTag else [] := by
  have hself : eligible root ⟨[i, j], key⟩ = false := rfl
  rw [Element.nodesAt_eq, List.filter_cons_of_neg (by simp [hself]),
    List.filter_congr fun n hn => eligible_below hrole hkey hn, descendants]
  split
  · rename_i hsigning
    rw [← Element.map_elem_nodesBelow_children [i, j] key, List.filter_map]
    simp only [hsigning.1, hsigning.2, beq_self_eq_true, Bool.and_true]
    rfl
  · rename_i hother
    rw [not_and_or, Bool.not_eq_true] at hother
    have hnone : (role.tag == idpssoDescriptorTag && isSigningKey key) = false := by
      rcases hother with htag | huse
      · simp [htag]
      · simp [huse]
    simp [Bool.and_assoc, hnone]

end Position

/-- The certificates of the signing key descriptors that are direct children of a role. -/
def roleCertificates (role : Element) : List Element :=
  (role.findall keyDescriptorTag).flatMap fun key =>
    if signingUses.contains (key.get "use") then descendants key x509CertificateTag else []

/-- Going over the items that pass a test is going over all items and skipping the others. -/
theorem flatMap_filter {A B : Type} (p : A → Bool) (f : A → List B) (items : List A) :
    (items.filter p).flatMap f = items.flatMap fun a => if p a then f a else [] := by
  induction items with
  | nil => rfl
  | cons a rest ih => cases hp : p a <;> simp [hp, ih]

/-- Going over the items with their indexes is going over the items, where the indexes are not used. -/
theorem flatMap_zipIdx {A B : Type} (f : A → List B) (items : List A) :
    (items.zipIdx.flatMap fun c => f c.1) = items.flatMap f := by
  conv_rhs => rw [← List.zipIdx_map_fst 0 items, List.flatMap_map]

/-- The eligible elements at and below a role's position are the certificates of its signing key descriptors. -/
theorem filter_eligible_nodesAt_role {root role : Element} {i : ℕ} (hrole : root.at? [i] = some role) :
    ((role.nodesAt [i]).filter (eligible root)).map Node.elem =
      if role.tag = idpssoDescriptorTag then roleCertificates role else [] := by
  have hself : eligible root ⟨[i], role⟩ = false := rfl
  have hkeys : ∀ c ∈ role.children.zipIdx,
      ((c.1.nodesAt ([i] ++ [c.2])).filter (eligible root)).map Node.elem =
        if role.tag = idpssoDescriptorTag ∧ isSigningKey c.1 = true then descendants c.1 x509CertificateTag else [] := by
    intro c hc
    have hkey : root.at? [i, c.2] = some c.1 := by
      rw [← List.singleton_append, Element.at?_append, hrole]
      simpa using List.mem_zipIdx_iff_getElem?.mp hc
    exact filter_eligible_nodesAt_key hrole hkey
  rw [Element.nodesAt_eq, List.filter_cons_of_neg (by simp [hself]), Element.nodesBelow_eq_flatMap,
    List.filter_flatMap, List.map_flatMap, List.flatMap_congr hkeys,
    flatMap_zipIdx fun key : Element =>
      if role.tag = idpssoDescriptorTag ∧ isSigningKey key = true then descendants key x509CertificateTag else []]
  split
  · rename_i htag
    rw [roleCertificates, Element.findall, flatMap_filter]
    refine List.flatMap_congr fun key _ => ?_
    by_cases hkey : key.tag = keyDescriptorTag <;> simp [isSigningKey, htag, hkey]
  · rename_i htag
    simp [htag]

/-- The eligible elements of a document are the certificates of the signing key descriptors of its roles. -/
theorem map_elem_filter_eligible (root : Element) :
    (root.nodes.filter (eligible root)).map Node.elem =
      (root.findall idpssoDescriptorTag).flatMap roleCertificates := by
  have hself : eligible root ⟨[], root⟩ = false := rfl
  have hroles : ∀ c ∈ root.children.zipIdx, ((c.1.nodesAt ([] ++ [c.2])).filter (eligible root)).map Node.elem =
      if c.1.tag = idpssoDescriptorTag then roleCertificates c.1 else [] := by
    intro c hc
    have hrole : root.at? [c.2] = some c.1 := by simpa using List.mem_zipIdx_iff_getElem?.mp hc
    exact filter_eligible_nodesAt_role hrole
  rw [Element.nodes_eq, List.filter_cons_of_neg (by simp [hself]), Element.nodesBelow_eq_flatMap,
    List.filter_flatMap, List.map_flatMap, List.flatMap_congr hroles,
    flatMap_zipIdx fun role : Element => if role.tag = idpssoDescriptorTag then roleCertificates role else [],
    Element.findall, flatMap_filter]
  simp only [beq_iff_eq]

/-- The loops of the collection run over the eligible elements. -/
theorem collectSigningCertificates_eq (root : Element) :
    collectSigningCertificates root = (eligibleTexts root).eraseDups := by
  have hkeys : root.iterfind [qname mdNs "IDPSSODescriptor", qname mdNs "KeyDescriptor"] =
      (root.findall idpssoDescriptorTag).flatMap fun role => role.findall keyDescriptorTag := by
    simp only [Element.iterfind, idpssoDescriptorTag, keyDescriptorTag, List.flatMap_singleton']
  have hloop (certificates : List String) (key : Element) :
      (if key.get "use" ∈ signingUses then
        (descendants key x509CertificateTag).foldl addCertificate certificates else certificates) =
      (if signingUses.contains (key.get "use") then descendants key x509CertificateTag else []).foldl addCertificate
        certificates := by
    simp only [List.contains_iff_mem]
    split <;> rfl
  have htexts : eligibleTexts root =
      ((root.findall idpssoDescriptorTag).flatMap roleCertificates).filterMap certificateText := by
    rw [← map_elem_filter_eligible, List.filterMap_map]
    rfl
  rw [collectSigningCertificates, hkeys, htexts, ← foldl_addCertificate, ← x509CertificateTag]
  simp only [hloop]
  rw [← List.foldl_flatMap, List.flatMap_assoc]
  rfl

/-- A certificate text has no blanks and is not empty. -/
theorem certificateText_spec {certificate : Element} {text : String} (h : certificateText certificate = some text) :
    text ≠ "" ∧ ∀ c ∈ text.toList, isSpace c = false := by
  obtain ⟨hmap, hne⟩ := Option.filter_eq_some_iff.mp h
  obtain ⟨source, _, rfl⟩ := Option.map_eq_some_iff.mp hmap
  refine ⟨by simpa using hne, fun c hc => ?_⟩
  rw [String.toList_ofList, List.mem_filter] at hc
  simpa using hc.2

end ApronSaml
