import ApronSaml.Timestamps

/-!
# The assertion's Conditions

The validity window, the audience restrictions and the rejection of conditions that cannot
be evaluated, in that order. Each check is characterized by what it requires of the
`Conditions` element, and their conjunction by what it requires of the assertion.
-/

namespace ApronSaml

open Raising Whitespace ElementTree Chronology

/-- The tag of the conditions of an assertion. -/
def conditionsTag : String := qname samlNs "Conditions"

/-- The tag of an audience restriction. -/
def audienceRestrictionTag : String := qname samlNs "AudienceRestriction"

/-- The tag of an audience. -/
def audienceTag : String := qname samlNs "Audience"

/-- The tag of a proxy restriction. -/
def proxyRestrictionTag : String := qname samlNs "ProxyRestriction"

/-- Condition elements this service provider can evaluate as valid. -/
def evaluableConditions : List String := [audienceRestrictionTag, proxyRestrictionTag]

/-- `_local_name(tag)`. -/
def localName (tag : String) : String :=
  let after := String.ofList (Url.afterLast '\x7d' tag.toList)
  if after = "" then tag else after

/-- The checks on an optional `NotBefore`: it precedes the expiry, and has been reached. -/
def enforceNotBefore (env : Environment) (conditions : Element) (expiry now : DateTime) (clockSkew : TimeDelta) :
    Py Unit :=
  match conditions.get "NotBefore" with
  | none => .ok ()
  | some notBeforeRaw => do
    let notBefore ← parseInstant env notBeforeRaw "assertion Conditions NotBefore"
    let inverted ← liftTime (notBefore.ge expiry)
    raiseIf (inverted = true) (.malformedResponse "assertion Conditions NotBefore is not before NotOnOrAfter")
    let early ← isNotYetValid now notBefore clockSkew
    raiseIf (early = true) (.saml .assertionExpiredError "assertion is not yet valid")

/-- `_enforce_validity_window(conditions, now=…, clock_skew=…)`. -/
def enforceValidityWindow (env : Environment) (conditions : Element) (now : DateTime) (clockSkew : TimeDelta) :
    Py Unit := do
  let notOnOrAfter ← required (conditions.get "NotOnOrAfter")
    (.malformedResponse "assertion Conditions has no NotOnOrAfter, so its validity is unbounded")
  let expiry ← parseInstant env notOnOrAfter "assertion Conditions NotOnOrAfter"
  enforceNotBefore env conditions expiry now clockSkew
  let expired ← hasExpired now expiry clockSkew
  raiseIf (expired = true) (.saml .assertionExpiredError "assertion has expired")

/-- The audiences a restriction names: the whole text of each, stripped, blank ones discarded. -/
def audienceValues (restriction : Element) : List String :=
  ((restriction.findall audienceTag).map fun a => strip a.allText).filter fun text => text ≠ ""

/-- `_require_audience(conditions, audience)`. -/
def requireAudience (conditions : Element) (audience : String) : Py Unit := do
  let restrictions := conditions.findall audienceRestrictionTag
  raiseIf (restrictions.isEmpty = true)
    (.saml .audienceMismatchError "assertion carries no audience restriction naming this service provider")
  forM restrictions fun restriction =>
    raiseIf (audience ∉ audienceValues restriction)
      (.saml .audienceMismatchError "assertion audience restriction does not name this service provider")

/-- `_reject_unevaluable_conditions(conditions)`. -/
def rejectUnevaluableConditions (conditions : Element) : Py Unit :=
  forM conditions.children fun child =>
    raiseIf (child.tag ∉ evaluableConditions)
      (.malformedResponse ("assertion Conditions carries a condition this service provider cannot evaluate: " ++
        localName child.tag))

/-- The checks on the one `Conditions` element, in order. -/
def checkConditions (env : Environment) (conditions : Element) (audience : String) (now : DateTime)
    (clockSkew : TimeDelta) : Py Unit := do
  enforceValidityWindow env conditions now clockSkew
  requireAudience conditions audience
  rejectUnevaluableConditions conditions

/-- `validate_conditions(assertion, audience=…, now=…, clock_skew=…)`. -/
def validateConditions (env : Environment) (assertion : Element) (audience : String) (now : DateTime)
    (clockSkew : TimeDelta) : Py Unit := do
  requireAware now
  match assertion.findall conditionsTag with
  | [] => .error (.malformedResponse "assertion has no Conditions")
  | [conditions] => checkConditions env conditions audience now clockSkew
  | _ => .error (.malformedResponse "assertion carries more than one Conditions")

/-- The bounds the `Conditions` element states: a parseable expiry, and an earlier parseable start if any. -/
structure WindowBounds (env : Environment) (conditions : Element) (notBefore : Option DateTime)
    (expiry : DateTime) : Prop where
  expiry_eq : (conditions.get "NotOnOrAfter").bind (instant? env) = some expiry
  notBefore_eq : (conditions.get "NotBefore").map (instant? env) = notBefore.map some
  ordered : ∀ start ∈ notBefore, start.utc < expiry.utc

/-- Every restriction names the audience by the stripped text of a direct child, and there is one. -/
def AudienceNamed (conditions : Element) (audience : String) : Prop :=
  conditions.findall audienceRestrictionTag ≠ [] ∧
    ∀ restriction ∈ conditions.findall audienceRestrictionTag,
      ∃ a ∈ restriction.findall audienceTag, strip a.allText = audience

/-- Every direct child is an audience restriction or a proxy restriction. -/
def Evaluable (conditions : Element) : Prop :=
  ∀ child ∈ conditions.children, child.tag = audienceRestrictionTag ∨ child.tag = proxyRestrictionTag

/-- The stated expiry has an offset. -/
theorem WindowBounds.aware_expiry {env : Environment} {conditions : Element} {notBefore : Option DateTime}
    {expiry : DateTime} (h : WindowBounds env conditions notBefore expiry) : expiry.Aware := by
  obtain ⟨raw, _, hraw⟩ := Option.bind_eq_some_iff.mp h.expiry_eq
  exact aware_of_instant hraw

/-- A stated start has an offset. -/
theorem WindowBounds.aware_notBefore {env : Environment} {conditions : Element} {notBefore : Option DateTime}
    {expiry start : DateTime} (h : WindowBounds env conditions notBefore expiry) (hstart : start ∈ notBefore) :
    start.Aware := by
  have hbounds := h.notBefore_eq
  rw [Option.mem_def.mp hstart, Option.map_some, Option.map_eq_some_iff] at hbounds
  obtain ⟨raw, _, hraw⟩ := hbounds
  exact aware_of_instant hraw

/-- The stated bounds are determined by the element. -/
theorem WindowBounds.unique {env : Environment} {conditions : Element} {notBefore notBefore' : Option DateTime}
    {expiry expiry' : DateTime} (h : WindowBounds env conditions notBefore expiry)
    (h' : WindowBounds env conditions notBefore' expiry') : notBefore = notBefore' ∧ expiry = expiry' := by
  have hexpiry := h.expiry_eq.symm.trans h'.expiry_eq
  have hnotBefore := h.notBefore_eq.symm.trans h'.notBefore_eq
  exact ⟨Option.map_injective (Option.some_injective _) hnotBefore, Option.some_injective _ hexpiry⟩

/-- The bounds are stated by the attributes alone. -/
theorem WindowBounds.congr {env : Environment} {conditions conditions' : Element} {notBefore : Option DateTime}
    {expiry : DateTime} (hattrib : conditions'.attrib = conditions.attrib)
    (h : WindowBounds env conditions notBefore expiry) : WindowBounds env conditions' notBefore expiry := by
  have hget (name : String) : conditions'.get name = conditions.get name := by simp only [Element.get, hattrib]
  exact ⟨by rw [hget, h.expiry_eq], by rw [hget, h.notBefore_eq], h.ordered⟩

section Window

variable {env : Environment} {conditions : Element} {now : DateTime} {clockSkew : TimeDelta}

/-- The start check passes exactly when no start is stated, or one that precedes the expiry and has
been reached within the skew. -/
theorem enforceNotBefore_ok_iff {expiry : DateTime} (hnow : now.Aware) (hexpiry : expiry.Aware)
    (hskew : 0 ≤ clockSkew.micros) :
    enforceNotBefore env conditions expiry now clockSkew = .ok () ↔
      ∃ notBefore : Option DateTime, (conditions.get "NotBefore").map (instant? env) = notBefore.map some ∧
        ∀ start ∈ notBefore, start.utc < expiry.utc ∧ start.utc - clockSkew.micros ≤ now.utc := by
  unfold enforceNotBefore
  cases hraw : conditions.get "NotBefore" with
  | none => exact ⟨fun _ => ⟨none, rfl, by simp⟩, fun _ => rfl⟩
  | some raw =>
    simp only [bind_ok_iff, parseInstant_eq_ok_iff_instant, Option.map_some]
    constructor
    · intro h
      obtain ⟨start, hstart, hrest⟩ := h
      have haware := aware_of_instant hstart
      rw [DateTime.ge_of_aware haware hexpiry, isNotYetValid_of_aware hnow haware hskew] at hrest
      refine ⟨some start, by rw [hstart, Option.map_some], ?_⟩
      rintro _ ⟨rfl⟩
      simpa using hrest
    · intro h
      obtain ⟨notBefore, heq, hbounds⟩ := h
      obtain ⟨start, rfl, hstart⟩ := Option.map_eq_some_iff.mp heq.symm
      have haware := aware_of_instant hstart.symm
      refine ⟨start, hstart.symm, ?_⟩
      rw [DateTime.ge_of_aware haware hexpiry, isNotYetValid_of_aware hnow haware hskew]
      simpa using hbounds start rfl

/-- The window check passes exactly at the instants of the stated window, widened by the skew. -/
theorem enforceValidityWindow_ok_iff (hnow : now.Aware) (hskew : 0 ≤ clockSkew.micros) :
    enforceValidityWindow env conditions now clockSkew = .ok () ↔
      ∃ notBefore expiry, WindowBounds env conditions notBefore expiry ∧
        now.utc ∈ Window.widened (notBefore.map DateTime.utc) expiry.utc clockSkew.micros := by
  simp only [enforceValidityWindow, bind_ok_iff, required_ok_iff, parseInstant_eq_ok_iff_instant]
  constructor
  · intro h
    obtain ⟨raw, hraw, expiry, hexpiry, _, hstart, expired, hexpired, hopen⟩ := h
    have haware := aware_of_instant hexpiry
    obtain ⟨notBefore, heq, hbounds⟩ := (enforceNotBefore_ok_iff hnow haware hskew).mp hstart
    rw [hasExpired_of_aware hnow haware hskew, Except.ok.injEq] at hexpired
    refine ⟨notBefore, expiry, ⟨by simp [hraw, hexpiry], heq, fun start h => (hbounds start h).1⟩, ?_, ?_⟩
    · intro t ht
      obtain ⟨start, hstart, rfl⟩ := Option.map_eq_some_iff.mp ht
      exact (hbounds start hstart).2
    · simpa [← hexpired] using hopen
  · intro h
    obtain ⟨notBefore, expiry, hbounds, hentered, hopen⟩ := h
    obtain ⟨raw, hraw, hexpiry⟩ := Option.bind_eq_some_iff.mp hbounds.expiry_eq
    have haware := aware_of_instant hexpiry
    refine ⟨raw, hraw, expiry, hexpiry, (), ?_, _, hasExpired_of_aware hnow haware hskew, by simpa using hopen⟩
    refine (enforceNotBefore_ok_iff hnow haware hskew).mpr ⟨notBefore, hbounds.notBefore_eq, fun start hstart => ?_⟩
    exact ⟨hbounds.ordered start hstart, hentered start.utc (Option.mem_map_of_mem _ hstart)⟩

end Window

/-- An audience is among the values of a restriction when the stripped text of a direct child is it. -/
theorem mem_audienceValues {restriction : Element} {audience : String} (hne : audience ≠ "") :
    audience ∈ audienceValues restriction ↔ ∃ a ∈ restriction.findall audienceTag, strip a.allText = audience := by
  simp [audienceValues, hne]

/-- The audience check passes exactly when every restriction names the audience, and there is one. -/
theorem requireAudience_ok_iff {conditions : Element} {audience : String} (hne : audience ≠ "") :
    requireAudience conditions audience = .ok () ↔ AudienceNamed conditions audience := by
  simp only [requireAudience, raiseIf_bind_ok_iff, forM_ok_iff, raiseIf_ok_iff, not_not, mem_audienceValues hne,
    List.isEmpty_iff, AudienceNamed, ne_eq]

/-- The evaluability check passes exactly when every child is evaluable. -/
theorem rejectUnevaluableConditions_ok_iff {conditions : Element} :
    rejectUnevaluableConditions conditions = .ok () ↔ Evaluable conditions := by
  simp only [rejectUnevaluableConditions, forM_ok_iff, raiseIf_ok_iff, not_not, evaluableConditions, List.mem_cons,
    List.not_mem_nil, or_false, Evaluable]

/-- The checks on the `Conditions` element pass exactly when its window holds the current time, its
restrictions name the audience and its children are evaluable. -/
theorem checkConditions_ok_iff {env : Environment} {conditions : Element} {audience : String} {now : DateTime}
    {clockSkew : TimeDelta} (hne : audience ≠ "") (hnow : now.Aware) (hskew : 0 ≤ clockSkew.micros) :
    checkConditions env conditions audience now clockSkew = .ok () ↔
      (∃ notBefore expiry, WindowBounds env conditions notBefore expiry ∧
        now.utc ∈ Window.widened (notBefore.map DateTime.utc) expiry.utc clockSkew.micros) ∧
        AudienceNamed conditions audience ∧ Evaluable conditions := by
  rw [← enforceValidityWindow_ok_iff hnow hskew, ← requireAudience_ok_iff hne, ← rejectUnevaluableConditions_ok_iff]
  simp only [checkConditions, bind_ok_iff]
  exact ⟨fun ⟨_, hwindow, _, haudience, heval⟩ => ⟨hwindow, haudience, heval⟩,
    fun ⟨hwindow, haudience, heval⟩ => ⟨(), hwindow, (), haudience, heval⟩⟩

/-- With an aware current time, validation of the conditions is the checks on the one `Conditions` element. -/
theorem validateConditions_ok_iff {env : Environment} {assertion : Element} {audience : String} {now : DateTime}
    {clockSkew : TimeDelta} :
    validateConditions env assertion audience now clockSkew = .ok () ↔
      now.Aware ∧ ∃ conditions, assertion.findall conditionsTag = [conditions] ∧
        checkConditions env conditions audience now clockSkew = .ok () := by
  rw [validateConditions, requireAware, raiseIf_bind_ok_iff, not_not]
  refine and_congr_right fun _ => ?_
  constructor
  · intro h
    split at h
    · cases h
    · rename_i conditions hone
      exact ⟨conditions, hone, h⟩
    · cases h
  · intro h
    obtain ⟨conditions, hone, hcheck⟩ := h
    simpa [hone] using hcheck

end ApronSaml
