import ApronSaml.Deployment

/-!
# What acceptance of the Conditions means

The conditions check accepts exactly when one `Conditions` element states a window that
holds the current time, names this audience in every restriction and has only evaluable
children. Consequences follow from that characterization alone: the order of the children
is irrelevant, a further child never helps, and audiences anywhere but directly below an
audience restriction never count.
-/

namespace ApronSaml

open Raising Whitespace ElementTree Chronology

/-- The stated window holds the current time, in the terms of the two time tests. -/
def WindowHolds (env : Environment) (conditions : Element) (now : DateTime) (clockSkew : TimeDelta) : Prop :=
  ∃ notBefore expiry, WindowBounds env conditions notBefore expiry ∧ hasExpired now expiry clockSkew = .ok false ∧
    ∀ start ∈ notBefore, isNotYetValid now start clockSkew = .ok false

/-- The stripped texts of the audiences directly below an element. -/
def audienceTexts (e : Element) : List String := (e.findall audienceTag).map fun a => strip a.allText

/-- The two time tests together decide the widened window. -/
theorem windowHolds_iff {env : Environment} {conditions : Element} {now : DateTime} {clockSkew : TimeDelta}
    (hnow : now.Aware) (hskew : 0 ≤ clockSkew.micros) :
    WindowHolds env conditions now clockSkew ↔
      ∃ notBefore expiry, WindowBounds env conditions notBefore expiry ∧
        now.utc ∈ Window.widened (notBefore.map DateTime.utc) expiry.utc clockSkew.micros := by
  refine exists_congr fun notBefore => exists_congr fun expiry => and_congr_right fun hbounds => ?_
  rw [hasExpired_of_aware hnow hbounds.aware_expiry hskew, Except.ok.injEq, decide_eq_false_iff_not, not_le]
  have hstart : (∀ start ∈ notBefore, isNotYetValid now start clockSkew = .ok false) ↔
      ∀ t ∈ notBefore.map DateTime.utc, t - clockSkew.micros ≤ now.utc := by
    cases notBefore with
    | none => simp
    | some start =>
      simp only [Option.mem_some_iff, forall_eq', Option.map_some]
      rw [isNotYetValid_of_aware hnow (hbounds.aware_notBefore rfl) hskew, Except.ok.injEq, decide_eq_false_iff_not,
        not_lt]
  rw [hstart]
  exact and_comm

/-- Whether the window holds depends on the attributes alone. -/
theorem WindowHolds.congr {env : Environment} {conditions conditions' : Element} {now : DateTime}
    {clockSkew : TimeDelta} (hattrib : conditions'.attrib = conditions.attrib)
    (h : WindowHolds env conditions now clockSkew) : WindowHolds env conditions' now clockSkew := by
  obtain ⟨notBefore, expiry, hbounds, htests⟩ := h
  exact ⟨notBefore, expiry, hbounds.congr hattrib, htests⟩

/-- Naming an audience is a matter of the direct children and the audience texts directly below them. -/
theorem audienceNamed_iff {conditions : Element} {audience : String} :
    AudienceNamed conditions audience ↔ (∃ child ∈ conditions.children, child.tag = audienceRestrictionTag) ∧
      ∀ child ∈ conditions.children, child.tag = audienceRestrictionTag → audience ∈ audienceTexts child := by
  simp only [AudienceNamed, audienceTexts, ne_eq, List.eq_nil_iff_forall_not_mem, Element.mem_findall, not_forall,
    not_not, and_imp, List.mem_map]

section Semantics

variable {env : Environment} {audience : String} {now : DateTime} {clockSkew : TimeDelta}

/-- The checks on a `Conditions` element in the terms of its window, its audiences and its children. -/
theorem checkConditions_ok_iff_holds {conditions : Element} (hne : audience ≠ "") (hnow : now.Aware)
    (hskew : 0 ≤ clockSkew.micros) :
    checkConditions env conditions audience now clockSkew = .ok () ↔
      WindowHolds env conditions now clockSkew ∧ AudienceNamed conditions audience ∧ Evaluable conditions := by
  rw [checkConditions_ok_iff hne hnow hskew, windowHolds_iff hnow hskew]

/-- An element that agrees in its attributes, keeps an audience restriction and has no children but those
of an accepted element is accepted. -/
theorem checkConditions_ok_of_children {conditions conditions' : Element} (hne : audience ≠ "") (hnow : now.Aware)
    (hskew : 0 ≤ clockSkew.micros) (hattrib : conditions'.attrib = conditions.attrib)
    (hrestriction : ∃ child ∈ conditions'.children, child.tag = audienceRestrictionTag)
    (hchildren : ∀ child ∈ conditions'.children, ∃ child' ∈ conditions.children, child'.tag = child.tag ∧
      (child.tag = audienceRestrictionTag → audienceTexts child' = audienceTexts child))
    (h : checkConditions env conditions audience now clockSkew = .ok ()) :
    checkConditions env conditions' audience now clockSkew = .ok () := by
  rw [checkConditions_ok_iff_holds hne hnow hskew, audienceNamed_iff] at h ⊢
  obtain ⟨hwindow, ⟨_, haudience⟩, hevaluable⟩ := h
  refine ⟨hwindow.congr hattrib, ⟨hrestriction, fun child hchild htag => ?_⟩, fun child hchild => ?_⟩
  · obtain ⟨child', hmem, htag', htexts⟩ := hchildren child hchild
    rw [← htexts htag]
    exact haudience child' hmem (htag'.trans htag)
  · obtain ⟨child', hmem, htag', _⟩ := hchildren child hchild
    exact htag' ▸ hevaluable child' hmem

/-- Validation with an aware current time is the checks on the sole `Conditions` element. -/
theorem validateConditions_eq {assertion conditions : Element} (hnow : now.Aware)
    (hsole : assertion.findall conditionsTag = [conditions]) :
    validateConditions env assertion audience now clockSkew =
      checkConditions env conditions audience now clockSkew := by
  rw [validateConditions, requireAware_of_aware hnow, ok_bind, hsole]

end Semantics

/-- Two children that neither their tags nor the audiences directly below them tell apart. -/
def SameToConditions (child child' : Element) : Prop :=
  child'.tag = child.tag ∧ (child.tag = audienceRestrictionTag → audienceTexts child' = audienceTexts child)

/-- The relation is symmetric. -/
theorem SameToConditions.symm {child child' : Element} (h : SameToConditions child child') :
    SameToConditions child' child :=
  ⟨h.1.symm, fun htag => (h.2 (h.1.symm.trans htag)).symm⟩

/-- In paired lists every element of the second has its partner in the first. -/
theorem exists_partner {A : Type} {R : A → A → Prop} {items items' : List A} (h : List.Forall₂ R items items')
    {a' : A} (ha' : a' ∈ items') : ∃ a ∈ items, R a a' := by
  induction h with
  | nil => cases ha'
  | cons hfirst _ ih =>
    rcases List.mem_cons.mp ha' with rfl | hrest
    · exact ⟨_, List.mem_cons_self, hfirst⟩
    · obtain ⟨a, ha, hR⟩ := ih hrest
      exact ⟨a, List.mem_cons_of_mem _ ha, hR⟩

/-- Pairing children of the same standing is symmetric. -/
theorem forall₂_same_symm {children children' : List Element}
    (h : List.Forall₂ SameToConditions children children') :
    List.Forall₂ SameToConditions children' children :=
  List.Forall₂.flip (h.imp fun _ _ hsame => hsame.symm)

section Children

variable {env : Environment} {audience : String} {now : DateTime} {clockSkew : TimeDelta}
  {conditions conditions' : Element} (hne : audience ≠ "") (hnow : now.Aware) (hskew : 0 ≤ clockSkew.micros)
  (hattrib : conditions'.attrib = conditions.attrib)
include hne hnow hskew hattrib

/-- Reordering the children never turns acceptance into rejection. -/
theorem checkConditions_ok_of_perm (hperm : conditions'.children.Perm conditions.children)
    (h : checkConditions env conditions audience now clockSkew = .ok ()) :
    checkConditions env conditions' audience now clockSkew = .ok () := by
  have hnamed := ((checkConditions_ok_iff_holds hne hnow hskew).mp h).2.1
  obtain ⟨child, hchild, htag⟩ := (audienceNamed_iff.mp hnamed).1
  exact checkConditions_ok_of_children hne hnow hskew hattrib ⟨child, hperm.mem_iff.mpr hchild, htag⟩
    (fun child hchild => ⟨child, hperm.mem_iff.mp hchild, rfl, fun _ => rfl⟩) h

/-- Where an audience restriction is left, removing a child never turns acceptance into rejection. -/
theorem checkConditions_ok_of_remove {before after : List Element} {child : Element}
    (hchildren : conditions.children = before ++ child :: after)
    (hchildren' : conditions'.children = before ++ after)
    (hrestriction : conditions'.findall audienceRestrictionTag ≠ [])
    (h : checkConditions env conditions audience now clockSkew = .ok ()) :
    checkConditions env conditions' audience now clockSkew = .ok () := by
  obtain ⟨restriction, hmem⟩ := List.exists_mem_of_ne_nil _ hrestriction
  refine checkConditions_ok_of_children hne hnow hskew hattrib ⟨restriction, Element.mem_findall.mp hmem⟩
    (fun other hother => ⟨other, ?_, rfl, fun _ => rfl⟩) h
  rw [hchildren'] at hother
  rw [hchildren]
  exact List.mem_append.mpr ((List.mem_append.mp hother).imp_right (List.mem_cons_of_mem child))

/-- Content below the children other than the audiences of restrictions never turns acceptance into rejection. -/
theorem checkConditions_ok_of_same (hsame : List.Forall₂ SameToConditions conditions.children conditions'.children)
    (h : checkConditions env conditions audience now clockSkew = .ok ()) :
    checkConditions env conditions' audience now clockSkew = .ok () := by
  have hnamed := ((checkConditions_ok_iff_holds hne hnow hskew).mp h).2.1
  obtain ⟨child, hchild, htag⟩ := (audienceNamed_iff.mp hnamed).1
  obtain ⟨child', hchild', hpartner⟩ := exists_partner (forall₂_same_symm hsame) hchild
  refine checkConditions_ok_of_children hne hnow hskew hattrib ⟨child', hchild', hpartner.1.symm.trans htag⟩
    (fun other hother => ?_) h
  obtain ⟨partner, hmem, hsame⟩ := exists_partner hsame hother
  exact ⟨partner, hmem, hsame.symm.1, hsame.symm.2⟩

end Children

/-- Conditions are accepted exactly when one `Conditions` element states a window that holds the current
time, every one of its restrictions names the audience and there is one, and every child is evaluable. So
the order of the children is irrelevant, a further child never helps, and only audiences directly below an
audience restriction count. The window is reported before the audience, and the audience before a child
that cannot be evaluated. -/
theorem validateConditions_exact {env : Environment} {audience : String} {now : DateTime} {clockSkew : TimeDelta}
    (hne : audience ≠ "") (hnow : now.Aware) (hskew : 0 ≤ clockSkew.micros) :
    (∀ assertion, validateConditions env assertion audience now clockSkew = .ok () ↔
      ∃ conditions, assertion.findall conditionsTag = [conditions] ∧ WindowHolds env conditions now clockSkew ∧
        AudienceNamed conditions audience ∧ Evaluable conditions) ∧
    (∀ assertion assertion' conditions conditions', assertion.findall conditionsTag = [conditions] →
      assertion'.findall conditionsTag = [conditions'] → conditions'.attrib = conditions.attrib →
      (conditions'.children.Perm conditions.children →
        (validateConditions env assertion' audience now clockSkew = .ok () ↔
          validateConditions env assertion audience now clockSkew = .ok ())) ∧
      (∀ before child after, conditions.children = before ++ after →
        conditions'.children = before ++ child :: after → conditions.findall audienceRestrictionTag ≠ [] →
        validateConditions env assertion' audience now clockSkew = .ok () →
          validateConditions env assertion audience now clockSkew = .ok ()) ∧
      (List.Forall₂ SameToConditions conditions.children conditions'.children →
        (validateConditions env assertion' audience now clockSkew = .ok () ↔
          validateConditions env assertion audience now clockSkew = .ok ()))) ∧
    (∀ assertion conditions e, assertion.findall conditionsTag = [conditions] →
      (enforceValidityWindow env conditions now clockSkew = .error e →
        validateConditions env assertion audience now clockSkew = .error e) ∧
      (enforceValidityWindow env conditions now clockSkew = .ok () → requireAudience conditions audience = .error e →
        validateConditions env assertion audience now clockSkew = .error e) ∧
      (enforceValidityWindow env conditions now clockSkew = .ok () → requireAudience conditions audience = .ok () →
        rejectUnevaluableConditions conditions = .error e →
        validateConditions env assertion audience now clockSkew = .error e)) := by
  refine ⟨fun assertion => ?_, fun assertion assertion' conditions conditions' hsole hsole' hattrib => ?_,
    fun assertion conditions e hsole => ?_⟩
  · rw [validateConditions_ok_iff]
    simp only [hnow, true_and, checkConditions_ok_iff_holds hne hnow hskew]
  · rw [validateConditions_eq hnow hsole, validateConditions_eq hnow hsole']
    refine ⟨fun hperm => ⟨?_, ?_⟩, fun before child after hchildren hchildren' hrestriction => ?_,
      fun hsame => ⟨?_, ?_⟩⟩
    · exact checkConditions_ok_of_perm hne hnow hskew hattrib.symm hperm.symm
    · exact checkConditions_ok_of_perm hne hnow hskew hattrib hperm
    · exact checkConditions_ok_of_remove hne hnow hskew hattrib.symm hchildren' hchildren hrestriction
    · exact checkConditions_ok_of_same hne hnow hskew hattrib.symm (forall₂_same_symm hsame)
    · exact checkConditions_ok_of_same hne hnow hskew hattrib hsame
  · rw [validateConditions_eq hnow hsole, checkConditions]
    refine ⟨fun hwindow => ?_, fun hwindow haudience => ?_, fun hwindow haudience hevaluable => ?_⟩
    · rw [hwindow, error_bind]
    · rw [hwindow, ok_bind, haudience, error_bind]
    · rw [hwindow, ok_bind, haudience, ok_bind, hevaluable]

/-- The demonstration assertion meets the characterization at the demonstration time. -/
theorem validateConditions_exact_demo :
    ∃ conditions, (demoAssertion demoIssuer).findall conditionsTag = [conditions] ∧
      WindowHolds demoEnvironment conditions demoNow defaultClockSkew ∧ AudienceNamed conditions demoEntityId ∧
        Evaluable conditions :=
  ((validateConditions_exact (by decide) (by decide) (by decide)).1 _).mp (by decide +kernel)

end ApronSaml
