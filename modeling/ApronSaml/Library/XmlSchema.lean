import ApronSaml.Library.ContentModel
import ApronSaml.Library.ElementTree

/-!
# Schemas for parsed trees

What an XML schema requires of the structure of an element: the type that is declared for it
or one derived from that, which an `xsi:type` attribute may name; its attributes; and its
children, which are read as a word of the content model, each child admitted by its letter
and valid in its turn. A wildcard admits elements of some namespaces, and those that are
declared must be valid. The values of attributes and texts are not looked at.

A region of a schema is a set of declarations that the children of its elements do not
leave, but for elements with open content. What lies in a valid element and below no such
element belongs to the region.
-/

namespace XmlSchema

open ElementTree ContentModel

/-- Namespaces that a wildcard admits; names without a namespace are in the empty one. -/
inductive NamespaceSet
  | any
  | other (target : String)
  | only (ns : String)
  deriving DecidableEq

/-- Membership of a namespace. -/
def NamespaceSet.admits : NamespaceSet → String → Bool
  | .any, _ => true
  | .other target, ns => ns != target && ns != ""
  | .only ns', ns => ns == ns'

/-- The namespace of a name in Clark notation. -/
def namespaceOf (name : String) : String :=
  match name.toList with
  | '{' :: rest => String.ofList (rest.takeWhile (· != '}'))
  | _ => ""

/-- A letter of a content model: an element with its type, or a wildcard, strict or lax. -/
inductive Term (T : Type)
  | element (tag : String) (type : T)
  | wildcard (namespaces : NamespaceSet) (strict : Bool)
  deriving DecidableEq

/-- The tags that a letter admits. -/
def Term.admits {T : Type} : Term T → String → Bool
  | .element tag _, tag' => tag' == tag
  | .wildcard namespaces _, tag' => namespaces.admits (namespaceOf tag')

/-- A letter is an element of a tag. -/
def Term.isElement {T : Type} (tag : String) : Term T → Bool
  | .element tag' _ => tag' == tag
  | .wildcard _ _ => false

/-- Content and attributes of a type. -/
structure ComplexType (T : Type) where
  content : RegularExpression (Term T)
  required : List String := []
  optional : List String := []
  anyAttribute : Option NamespaceSet := none

/-- What a type requires: nothing, a text without elements, or a complex type. -/
inductive TypeDefinition (T : Type)
  | anything
  | simple
  | complex (type : ComplexType T)

/-- A schema over names of types. -/
structure Schema (T : Type) where
  define : T → TypeDefinition T
  base : T → Option T
  depth : ℕ
  isAbstract : T → Bool
  globals : String → Option T

/-- The `xsi:type` attribute. -/
def xsiType : String := "\x7bhttp://www.w3.org/2001/XMLSchema-instance\x7dtype"

/-- Attributes are complete, and each is declared, admitted by the wildcard, or of the schema language itself. -/
def AttributesValid {T : Type} (type : ComplexType T) (attrib : List (String × String)) : Prop :=
  (∀ name ∈ type.required, (attrib.lookup name).isSome) ∧
    ∀ entry ∈ attrib, entry.1 ∈ type.required ∨ entry.1 ∈ type.optional ∨
      namespaceOf entry.1 = namespaceOf xsiType ∨ ∃ set ∈ type.anyAttribute, set.admits (namespaceOf entry.1) = true

instance {T : Type} (type : ComplexType T) (attrib : List (String × String)) : Decidable (AttributesValid type attrib) :=
  inferInstanceAs (Decidable ((∀ name ∈ type.required, (attrib.lookup name).isSome) ∧
    ∀ entry ∈ attrib, entry.1 ∈ type.required ∨ entry.1 ∈ type.optional ∨
      namespaceOf entry.1 = namespaceOf xsiType ∨ ∃ set ∈ type.anyAttribute, set.admits (namespaceOf entry.1) = true))

namespace Schema

variable {T : Type} [DecidableEq T] (S : Schema T) (resolve : String → Option T)

/-- A type is another or derived from it in so many steps. -/
def derivesIn : ℕ → T → T → Bool
  | 0, σ, τ => σ == τ
  | n + 1, σ, τ => σ == τ || (S.base σ).any fun ρ => derivesIn n ρ τ

/-- The type of an element for which a type is declared: that or a derived one that the element names, and not an
abstract one. -/
def actualType (attrib : List (String × String)) (τ : T) : Option T :=
  let named := match attrib.lookup xsiType with
    | none => some τ
    | some name => resolve name
  named.filter fun σ => S.derivesIn S.depth σ τ && !S.isAbstract σ

mutual

/-- An element is valid for a type. -/
def Valid : T → Element → Prop
  | τ, ⟨_, attrib, _, children, _⟩ => ∃ σ ∈ S.actualType resolve attrib τ,
      match S.define σ with
      | .anything => True
      | .simple => children = []
      | .complex type => AttributesValid type attrib ∧
          ∃ terms ∈ type.content.matches', ValidBelow terms children

/-- Children are admitted by the letters of a word, one by one, and valid for them. -/
def ValidBelow : List (Term T) → List Element → Prop
  | [], [] => True
  | .element tag τ :: terms, c :: rest => c.tag = tag ∧ Valid τ c ∧ ValidBelow terms rest
  | .wildcard namespaces strict :: terms, c :: rest =>
      namespaces.admits (namespaceOf c.tag) = true ∧
      (match S.globals c.tag with
        | some τ => Valid τ c
        | none => strict = false) ∧ ValidBelow terms rest
  | _, _ => False

end

/-- The first letter of a content model that admits a tag; in a deterministic model there is no other. -/
def termFor (content : RegularExpression (Term T)) (tag : String) : Option (Term T) :=
  (symbols content).find? fun t => t.admits tag

mutual

/-- Validation of an element whose content models are deterministic. -/
def check : T → Element → Bool
  | τ, ⟨_, attrib, _, children, _⟩ =>
      match S.actualType resolve attrib τ with
      | none => false
      | some σ =>
          match S.define σ with
          | .anything => true
          | .simple => children.isEmpty
          | .complex type => decide (AttributesValid type attrib) &&
              match children.mapM fun c => termFor type.content c.tag with
              | none => false
              | some terms => type.content.rmatch terms && checkBelow terms children

/-- Validation of children, letter by letter. -/
def checkBelow : List (Term T) → List Element → Bool
  | [], [] => true
  | .element tag τ :: terms, c :: rest => c.tag == tag && check τ c && checkBelow terms rest
  | .wildcard namespaces strict :: terms, c :: rest =>
      namespaces.admits (namespaceOf c.tag) &&
      (match S.globals c.tag with
        | some τ => check τ c
        | none => !strict) && checkBelow terms rest
  | _, _ => false

end

mutual

/-- What the validation passes is valid. -/
theorem valid_of_check : (τ : T) → (e : Element) → S.check resolve τ e = true → S.Valid resolve τ e
  | τ, ⟨tag, attrib, text, children, tail⟩, h => by
      rw [check] at h
      split at h
      · contradiction
      · rename_i σ hσ
        refine ⟨σ, hσ, ?_⟩
        split at h
        · trivial
        · simpa using h
        · rename_i type htype
          rw [Bool.and_eq_true, decide_eq_true_eq] at h
          obtain ⟨hattributes, h⟩ := h
          split at h
          · contradiction
          · rename_i terms hterms
            rw [Bool.and_eq_true] at h
            exact ⟨hattributes, terms, (RegularExpression.rmatch_iff_matches' _ _).mp h.1,
              validBelow_of_checkBelow terms children h.2⟩

/-- What the validation of children passes is valid. -/
theorem validBelow_of_checkBelow : (terms : List (Term T)) → (children : List Element) →
    S.checkBelow resolve terms children = true → S.ValidBelow resolve terms children
  | [], [], _ => trivial
  | .element tag τ :: terms, c :: rest, h => by
      simp only [checkBelow, Bool.and_eq_true, beq_iff_eq] at h
      exact ⟨h.1.1, valid_of_check τ c h.1.2, validBelow_of_checkBelow terms rest h.2⟩
  | .wildcard namespaces strict :: terms, c :: rest, h => by
      simp only [checkBelow, Bool.and_eq_true] at h
      refine ⟨h.1.1, ?_, validBelow_of_checkBelow terms rest h.2⟩
      have hdeclared := h.1.2
      split at hdeclared
      · rename_i τ hτ
        exact valid_of_check τ c hdeclared
      · simpa using hdeclared
  | [], _ :: _, h => by simp [checkBelow] at h
  | .element _ _ :: _, [], h => by simp [checkBelow] at h
  | .wildcard _ _ :: _, [], h => by simp [checkBelow] at h

end

/-- A letter admits an element, and the element is valid for it. -/
def Admitted : Term T → Element → Prop
  | .element tag τ, c => c.tag = tag ∧ S.Valid resolve τ c
  | .wildcard namespaces strict, c => namespaces.admits (namespaceOf c.tag) = true ∧
      match S.globals c.tag with
      | some τ => S.Valid resolve τ c
      | none => strict = false

variable {S resolve}

/-- Children are valid for a word when they are admitted letter by letter. -/
theorem validBelow_iff {terms : List (Term T)} {children : List Element} :
    S.ValidBelow resolve terms children ↔ List.Forall₂ (S.Admitted resolve) terms children := by
  induction terms generalizing children with
  | nil => cases children <;> simp [ValidBelow]
  | cons t terms ih =>
      cases children with
      | nil => cases t <;> simp [ValidBelow]
      | cons c rest => cases t <;> simp [ValidBelow, Admitted, ih, and_assoc]

/-- What is admitted has an admitted tag. -/
theorem Admitted.admits {t : Term T} {c : Element} (h : S.Admitted resolve t c) : t.admits c.tag = true := by
  cases t with
  | element tag τ => exact beq_iff_eq.mpr h.1
  | wildcard namespaces strict => exact h.1

/-- A valid element has the actual type that its declaration and its attributes name. -/
theorem valid_iff {τ : T} {e : Element} :
    S.Valid resolve τ e ↔ ∃ σ ∈ S.actualType resolve e.attrib τ,
      match S.define σ with
      | .anything => True
      | .simple => e.children = []
      | .complex type => AttributesValid type e.attrib ∧
          ∃ terms ∈ type.content.matches', List.Forall₂ (S.Admitted resolve) terms e.children := by
  cases e
  simp only [Valid, validBelow_iff]

/-- Every actual type that may stand for a declared one has one complex definition. -/
def StandsAs (S : Schema T) (τ : T) (type : ComplexType T) : Prop :=
  ∀ σ, S.derivesIn S.depth σ τ = true → S.isAbstract σ = false → S.define σ = .complex type

/-- A valid element of such a type has its attributes, and its children spell a word of its content. -/
theorem Valid.complex {τ : T} {e : Element} (h : S.Valid resolve τ e) {type : ComplexType T}
    (hstands : S.StandsAs τ type) :
    AttributesValid type e.attrib ∧
      ∃ terms ∈ type.content.matches', List.Forall₂ (S.Admitted resolve) terms e.children := by
  obtain ⟨σ, hσ, hdefinition⟩ := valid_iff.mp h
  obtain ⟨_, hderives⟩ := Option.filter_eq_some_iff.mp hσ
  rw [Bool.and_eq_true, Bool.not_eq_true'] at hderives
  rw [hstands σ hderives.1 hderives.2] at hdefinition
  exact hdefinition

section Counting

variable {τ : T} {e : Element} {type : ComplexType T}

/-- A valid element has no more children with a tag than a word of its content has letters that admit it. -/
theorem Valid.length_findall_le (h : S.Valid resolve τ e) (hstands : S.StandsAs τ type) {tag : String} {n : ℕ}
    (hn : maxCount (fun t => t.admits tag) type.content = some n) : (e.findall tag).length ≤ n := by
  obtain ⟨_, terms, hterms, hchildren⟩ := h.complex hstands
  refine le_trans ?_ (countP_le_of_maxCount hterms hn)
  rw [Element.findall, ← List.countP_eq_length_filter]
  generalize e.children = children at hchildren
  clear hterms
  induction hchildren with
  | nil => exact le_rfl
  | @cons t c terms rest hadmitted _ ih =>
      rw [List.countP_cons, List.countP_cons]
      have hhead : (c.tag == tag) = true → t.admits tag = true := fun htag => beq_iff_eq.mp htag ▸ hadmitted.admits
      split
      · rename_i htag
        rw [if_pos (hhead htag)]
        omega
      · omega

/-- A valid element has no fewer children with a tag than a word of its content has elements of it. -/
theorem Valid.le_length_findall (h : S.Valid resolve τ e) (hstands : S.StandsAs τ type) (tag : String) :
    minCount (Term.isElement tag) type.content ≤ (e.findall tag).length := by
  obtain ⟨_, terms, hterms, hchildren⟩ := h.complex hstands
  refine le_trans (minCount_le_countP hterms) ?_
  rw [Element.findall, ← List.countP_eq_length_filter]
  generalize e.children = children at hchildren
  clear hterms
  induction hchildren with
  | nil => exact le_rfl
  | @cons t c terms rest hadmitted _ ih =>
      rw [List.countP_cons, List.countP_cons]
      have hhead : Term.isElement tag t = true → (c.tag == tag) = true := by
        intro helement
        cases t with
        | element tag' τ' => exact beq_iff_eq.mpr (hadmitted.1.trans (beq_iff_eq.mp helement))
        | wildcard namespaces strict => contradiction
      split
      · rename_i helement
        rw [if_pos (hhead helement)]
        omega
      · omega

/-- A child of a valid element is admitted by a letter of its content. -/
theorem Valid.exists_admitted (h : S.Valid resolve τ e) (hstands : S.StandsAs τ type) {c : Element}
    (hc : c ∈ e.children) : ∃ t ∈ symbols type.content, S.Admitted resolve t c := by
  obtain ⟨_, terms, hterms, hchildren⟩ := h.complex hstands
  obtain ⟨i, hi, hget⟩ := List.getElem_of_mem hc
  have hi' : i < terms.length := hchildren.length_eq ▸ hi
  have hadmitted := hchildren.get hi' hi
  rw [List.get_eq_getElem, List.get_eq_getElem, hget] at hadmitted
  exact ⟨terms[i], mem_symbols hterms (List.getElem_mem hi'), hadmitted⟩

/-- Where one element letter alone admits a tag, the children with the tag are valid for its type. -/
theorem Valid.of_mem_findall (h : S.Valid resolve τ e) (hstands : S.StandsAs τ type) {tag : String} {σ : T}
    (hsole : ∀ t ∈ symbols type.content, t.admits tag = true → t = .element tag σ) {c : Element}
    (hc : c ∈ e.findall tag) : S.Valid resolve σ c := by
  obtain ⟨hchild, htag⟩ := Element.mem_findall.mp hc
  obtain ⟨t, ht, hadmitted⟩ := h.exists_admitted hstands hchild
  obtain rfl := hsole t ht (htag ▸ hadmitted.admits)
  exact hadmitted.2

end Counting

section Regions

/-- The children of elements of a type are declared, and among the given declarations. -/
def closedIn (S : Schema T) (region : List (String × T)) (σ : T) : Bool :=
  match S.define σ with
  | .anything => false
  | .simple => true
  | .complex type => (symbols type.content).all fun t =>
      match t with
      | .element tag τ => region.any fun entry => entry.2 == τ && entry.1 == tag
      | .wildcard _ _ => false

/-- Declarations that the children of their elements do not leave, but for elements with open content. -/
def Region (S : Schema T) (isOpen : String → Bool) (region : List (String × T)) : Prop :=
  ∀ entry ∈ region, isOpen entry.1 = false → ∀ σ, S.derivesIn S.depth σ entry.2 = true → S.isAbstract σ = false →
    S.closedIn region σ = true

/-- A tag is declared in the content of a type that stands for another. -/
def DeclaredBelow (S : Schema T) (τ : T) (tag : String) (ρ : T) : Prop :=
  ∃ σ type, S.derivesIn S.depth σ τ = true ∧ S.isAbstract σ = false ∧ S.define σ = .complex type ∧
    .element tag ρ ∈ symbols type.content

variable {isOpen : String → Bool} {region : List (String × T)} {τ : T} {e d : Element}

/-- A child of an element of a region is declared below it, in the region, and valid. -/
theorem Region.child (hregion : S.Region isOpen region) (h : S.Valid resolve τ e) (hdeclared : (e.tag, τ) ∈ region)
    (hclosed : isOpen e.tag = false) {c : Element} (hc : c ∈ e.children) :
    ∃ ρ, (c.tag, ρ) ∈ region ∧ S.Valid resolve ρ c ∧ S.DeclaredBelow τ c.tag ρ := by
  obtain ⟨σ, hσ, hdefinition⟩ := valid_iff.mp h
  obtain ⟨_, hderives⟩ := Option.filter_eq_some_iff.mp hσ
  rw [Bool.and_eq_true, Bool.not_eq_true'] at hderives
  have hin := hregion (e.tag, τ) hdeclared hclosed σ hderives.1 hderives.2
  unfold closedIn at hin
  split at hin
  · contradiction
  · rename_i hsimple
    rw [hsimple] at hdefinition
    rw [hdefinition] at hc
    contradiction
  · rename_i type htype
    rw [htype] at hdefinition
    obtain ⟨_, terms, hterms, hchildren⟩ := hdefinition
    obtain ⟨j, hj, hget⟩ := List.getElem_of_mem hc
    have hj' : j < terms.length := hchildren.length_eq ▸ hj
    have hadmitted := hchildren.get hj' hj
    rw [List.get_eq_getElem, List.get_eq_getElem, hget] at hadmitted
    have hsymbol := mem_symbols hterms (List.getElem_mem hj')
    have hletter := List.all_eq_true.mp hin _ hsymbol
    cases hterm : terms[j] with
    | wildcard namespaces strict => simp [hterm] at hletter
    | element tag ρ =>
        rw [hterm] at hadmitted hsymbol hletter
        obtain ⟨rfl, hvalid⟩ := hadmitted
        obtain ⟨⟨tag, ρ'⟩, hmem, hsame⟩ := List.any_eq_true.mp hletter
        rw [Bool.and_eq_true, beq_iff_eq, beq_iff_eq] at hsame
        obtain ⟨rfl, rfl⟩ := hsame
        exact ⟨ρ', hmem, hvalid, σ, type, hderives.1, hderives.2, htype, hsymbol⟩

/-- What lies below an element of a region, and below no open one, is in the region and valid. -/
theorem Region.descendant (hregion : S.Region isOpen region) (h : S.Valid resolve τ e)
    (hdeclared : (e.tag, τ) ∈ region) {path : List ℕ} (hd : e.at? path = some d)
    (hclosed : ∀ above a, above <+: path → above ≠ path → e.at? above = some a → isOpen a.tag = false) :
    ∃ ρ, (d.tag, ρ) ∈ region ∧ S.Valid resolve ρ d := by
  induction path generalizing e τ with
  | nil =>
      obtain rfl : e = d := by simpa using hd
      exact ⟨τ, hdeclared, h⟩
  | cons i path ih =>
      rw [Element.at?_cons] at hd
      obtain ⟨c, hc, hd⟩ := Option.bind_eq_some_iff.mp hd
      have hroot : isOpen e.tag = false :=
        hclosed [] e List.nil_prefix (List.cons_ne_nil i path).symm (Element.at?_nil e)
      obtain ⟨ρ, hρ, hvalid, _⟩ := hregion.child h hdeclared hroot (List.mem_of_getElem? hc)
      refine ih hvalid hρ hd fun above a hprefix hne ha => ?_
      refine hclosed (i :: above) a ((List.prefix_cons_inj i).mpr hprefix) (fun heq => hne (List.cons.inj heq).2) ?_
      rw [Element.at?_cons, hc, Option.bind_some, ha]

/-- What lies below an element of a region, and below no open one, is declared below its parent. -/
theorem Region.parent (hregion : S.Region isOpen region) (h : S.Valid resolve τ e) (hdeclared : (e.tag, τ) ∈ region)
    {path : List ℕ} {i : ℕ} (hd : e.at? (path ++ [i]) = some d)
    (hclosed : ∀ above a, above <+: path → e.at? above = some a → isOpen a.tag = false) :
    ∃ parent τ' ρ, e.at? path = some parent ∧ (parent.tag, τ') ∈ region ∧ isOpen parent.tag = false ∧
      S.DeclaredBelow τ' d.tag ρ := by
  rw [Element.at?_append] at hd
  obtain ⟨parent, hparent, hchild⟩ := Option.bind_eq_some_iff.mp hd
  obtain ⟨τ', hτ', hvalid⟩ := hregion.descendant h hdeclared hparent fun above a hprefix _ ha => hclosed above a hprefix ha
  have hopen := hclosed path parent (List.prefix_refl path) hparent
  rw [Element.at?_singleton] at hchild
  obtain ⟨ρ, _, _, hbelow⟩ := hregion.child hvalid hτ' hopen (List.mem_of_getElem? hchild)
  exact ⟨parent, τ', ρ, hparent, hτ', hopen, hbelow⟩

end Regions

end Schema

end XmlSchema
