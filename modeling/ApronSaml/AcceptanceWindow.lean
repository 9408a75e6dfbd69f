import Mathlib.Data.Int.ConditionallyCompleteOrder
import ApronSaml.BearerSemantics
import ApronSaml.ConditionsSemantics

/-!
# The exact acceptance window

Of all that the two validators check, only the window of the Conditions and the expiries of
the bearer confirmations look at the current time. Where everything else passes, the
accepted instants are one half-open interval on the UTC line: it opens at the start less
the skew, and closes at the earlier of the Conditions' expiry and the latest expiry of a
confirmation, both later by the skew.
-/

namespace ApronSaml

open Raising Whitespace ElementTree Chronology

/-- The expiries, on the UTC line, of the bearer confirmations whose other requirements are met. -/
def bearerEnds (env : Environment) (acsUrl : String) (expectedInResponseTo : Option String) (subject : Element) :
    Set ℤ :=
  {t | ∃ confirmation ∈ subject.children, IsBearer confirmation ∧
    ∃ expiry, BearerExpiry env acsUrl expectedInResponseTo confirmation expiry ∧ expiry.utc = t}

/-- Both validators return. -/
def Accepted (env : Environment) (parsed : ParsedResponse) (config : SamlConfig env.tables)
    (expectedInResponseTo : Option String) (now : DateTime) : Prop :=
  validateConditions env parsed.assertion config.entityId now config.clockSkew = .ok () ∧
    validateSubjectConfirmation env parsed config expectedInResponseTo now = .ok ()

/-- Every check that does not look at the current time passes, for the Conditions with these bounds and
for the bearer confirmations with these ends. -/
structure TimelessChecks (env : Environment) (parsed : ParsedResponse) (config : SamlConfig env.tables)
    (expectedInResponseTo : Option String) (notBefore : Option DateTime) (expiry : DateTime) (ends : Set ℤ) :
    Prop where
  request_ne : ∀ request ∈ expectedInResponseTo, strip request ≠ ""
  addressed : Addressed config parsed.root expectedInResponseTo
  conditions : ∃ conditions, parsed.assertion.findall conditionsTag = [conditions] ∧
    WindowBounds env conditions notBefore expiry ∧ AudienceNamed conditions config.entityId ∧ Evaluable conditions
  subject : ∃ subject, parsed.assertion.findall subjectTag = [subject] ∧
    bearerEnds env config.acsUrl expectedInResponseTo subject = ends
  ends_nonempty : ends.Nonempty

section Window

variable {env : Environment} {parsed : ParsedResponse} {config : SamlConfig env.tables}
  {expectedInResponseTo : Option String} {notBefore : Option DateTime} {expiry now : DateTime} {ends : Set ℤ}

/-- The bearer confirmations of a subject have finitely many expiries. -/
theorem finite_bearerEnds (acsUrl : String) (subject : Element) :
    (bearerEnds env acsUrl expectedInResponseTo subject).Finite := by
  have hone (confirmation : Element) :
      {t | ∃ expiry, BearerExpiry env acsUrl expectedInResponseTo confirmation expiry ∧
        expiry.utc = t}.Subsingleton := by
    rintro _ ⟨expiry, h, rfl⟩ _ ⟨expiry', h', rfl⟩
    rw [h.unique h']
  refine (Set.Finite.biUnion (List.finite_toSet subject.children) fun c _ => (hone c).finite).subset ?_
  rintro t ⟨confirmation, hmem, _, hexpiry⟩
  exact Set.mem_biUnion hmem hexpiry

/-- With the timeless checks passed, the conditions hold exactly within their widened window. -/
theorem TimelessChecks.validateConditions_iff
    (h : TimelessChecks env parsed config expectedInResponseTo notBefore expiry ends) (hnow : now.Aware) :
    validateConditions env parsed.assertion config.entityId now config.clockSkew = .ok () ↔
      now.utc ∈ Window.widened (notBefore.map DateTime.utc) expiry.utc config.clockSkew.micros := by
  obtain ⟨conditions, hsole, hbounds, haudience, hevaluable⟩ := h.conditions
  rw [validateConditions_eq hnow hsole, checkConditions_ok_iff config.entityId_ne hnow config.clockSkew_nonneg]
  constructor
  · intro hchecks
    obtain ⟨⟨notBefore', expiry', hbounds', hwindow⟩, _⟩ := hchecks
    obtain ⟨rfl, rfl⟩ := hbounds.unique hbounds'
    exact hwindow
  · exact fun hwindow => ⟨⟨notBefore, expiry, hbounds, hwindow⟩, haudience, hevaluable⟩

/-- With the timeless checks passed, the confirmations hold exactly before the latest of their ends. -/
theorem TimelessChecks.validateSubjectConfirmation_iff
    (htimestamps : ∀ value, RaisesOnly (fun e => isTimestampError e = true) (env.fromisoformat value))
    (h : TimelessChecks env parsed config expectedInResponseTo notBefore expiry ends) (hnow : now.Aware)
    {greatest : ℤ} (hgreatest : IsGreatest ends greatest) :
    validateSubjectConfirmation env parsed config expectedInResponseTo now = .ok () ↔
      now.utc < greatest + config.clockSkew.micros := by
  obtain ⟨subject, hsole, rfl⟩ := h.subject
  rw [validateSubjectConfirmation_ok_iff htimestamps hnow h.request_ne,
    ← Window.exists_lt_iff_lt_greatest hgreatest]
  have hopen {e : DateTime} (he : e.Aware) :
      hasExpired now e config.clockSkew = .ok false ↔ now.utc < e.utc + config.clockSkew.micros := by
    rw [hasExpired_of_aware hnow he config.clockSkew_nonneg, Except.ok.injEq, decide_eq_false_iff_not, not_le]
  constructor
  · intro hchecks
    obtain ⟨_, subject', hsole', confirmation, hchild, hbearer, data, hdata, hnotBefore, hrecipient, ⟨e, hexpiry,
      htest⟩, hrequest⟩ := hchecks
    obtain rfl : subject = subject' := by simpa [hsole] using hsole'
    have hends : BearerExpiry env config.acsUrl expectedInResponseTo confirmation e :=
      ⟨data, hdata, hnotBefore, hrecipient, hexpiry, hrequest⟩
    exact ⟨e.utc, ⟨confirmation, hchild, hbearer, e, hends, rfl⟩, (hopen hends.aware).mp htest⟩
  · intro hchecks
    obtain ⟨_, ⟨confirmation, hchild, hbearer, e, hends, rfl⟩, hlt⟩ := hchecks
    have htest := (hopen hends.aware).mpr hlt
    obtain ⟨data, hdata, hnotBefore, hrecipient, hexpiry, hrequest⟩ := hends
    exact ⟨h.addressed, subject, hsole, confirmation, hchild, hbearer, data, hdata, hnotBefore, hrecipient,
      ⟨e, hexpiry, htest⟩, hrequest⟩

/-- With the timeless checks passed, the accepted instants are those of one widened window. -/
theorem TimelessChecks.accepted_iff
    (htimestamps : ∀ value, RaisesOnly (fun e => isTimestampError e = true) (env.fromisoformat value))
    (h : TimelessChecks env parsed config expectedInResponseTo notBefore expiry ends) (hnow : now.Aware)
    {greatest : ℤ} (hgreatest : IsGreatest ends greatest) :
    Accepted env parsed config expectedInResponseTo now ↔
      now.utc ∈ Window.widened (notBefore.map DateTime.utc) (min expiry.utc greatest) config.clockSkew.micros := by
  rw [Accepted, h.validateConditions_iff hnow, h.validateSubjectConfirmation_iff htimestamps hnow hgreatest,
    ← Window.widened_inter]
  rfl

/-- The timeless checks do not look at the skew. -/
theorem TimelessChecks.of_skew {config' : SamlConfig env.tables}
    (h : TimelessChecks env parsed config expectedInResponseTo notBefore expiry ends)
    (hentity : config'.entityId = config.entityId) (hacs : config'.acsUrl = config.acsUrl)
    (hallow : config'.allowIdpInitiated = config.allowIdpInitiated) :
    TimelessChecks env parsed config' expectedInResponseTo notBefore expiry ends := by
  obtain ⟨hrequest, haddressed, hconditions, hsubject, hne⟩ := h
  refine ⟨hrequest, ?_, ?_, ?_, hne⟩
  · rwa [Addressed, hallow, hacs]
  · rwa [hentity]
  · rwa [hacs]

end Window

/-- Where the timeless checks pass, an instant is accepted exactly when the start less the skew has been
reached, and neither the Conditions nor the latest confirmation has ended, both extended by the skew. These
instants form one half-open interval, no comparison or subtraction behind them overflows, and a larger skew
accepts all of them. -/
theorem acceptance_window_exact {env : Environment} {parsed : ParsedResponse} {config : SamlConfig env.tables}
    {expectedInResponseTo : Option String} {notBefore : Option DateTime} {expiry : DateTime} {ends : Set ℤ}
    (htimestamps : ∀ value, RaisesOnly (fun e => isTimestampError e = true) (env.fromisoformat value))
    (h : TimelessChecks env parsed config expectedInResponseTo notBefore expiry ends) :
    (∃ greatest, IsGreatest ends greatest ∧
      (∀ now : DateTime, now.Aware → (Accepted env parsed config expectedInResponseTo now ↔
        (∀ start ∈ notBefore, start.utc - config.clockSkew.micros ≤ now.utc) ∧
          now.utc < expiry.utc + config.clockSkew.micros ∧ now.utc < greatest + config.clockSkew.micros)) ∧
      (∀ start ∈ notBefore, ∀ now : DateTime, now.Aware → (Accepted env parsed config expectedInResponseTo now ↔
        now.utc ∈ Set.Ico (start.utc - config.clockSkew.micros)
          (min expiry.utc greatest + config.clockSkew.micros))) ∧
      (notBefore = none → ∀ now : DateTime, now.Aware → (Accepted env parsed config expectedInResponseTo now ↔
        now.utc ∈ Set.Iio (min expiry.utc greatest + config.clockSkew.micros)))) ∧
    (∀ now bound : DateTime, now.Aware → bound.Aware →
      now.ge bound = .ok (decide (bound.utc ≤ now.utc)) ∧ now.lt bound = .ok (decide (now.utc < bound.utc)) ∧
      (∃ d : TimeDelta, now.sub bound = .ok d ∧ d.micros = now.utc - bound.utc) ∧
      ∀ skew : TimeDelta, 0 ≤ skew.micros →
        hasExpired now bound skew = .ok (decide (bound.utc + skew.micros ≤ now.utc)) ∧
        isNotYetValid now bound skew = .ok (decide (now.utc < bound.utc - skew.micros))) ∧
    (∀ config' : SamlConfig env.tables, config'.entityId = config.entityId → config'.acsUrl = config.acsUrl →
      config'.allowIdpInitiated = config.allowIdpInitiated → config.clockSkew.micros ≤ config'.clockSkew.micros →
      ∀ now : DateTime, now.Aware → Accepted env parsed config expectedInResponseTo now →
        Accepted env parsed config' expectedInResponseTo now) := by
  obtain ⟨subject, _, hends⟩ := h.subject
  obtain ⟨greatest, hgreatest⟩ :=
    Window.exists_greatest (hends ▸ finite_bearerEnds config.acsUrl subject) h.ends_nonempty
  refine ⟨⟨greatest, hgreatest, fun now hnow => ?_, ?_, ?_⟩, fun now bound hnow hbound => ?_,
    fun config' hentity hacs hallow hskew now hnow => ?_⟩
  · rw [h.accepted_iff htimestamps hnow hgreatest, ← Window.widened_inter]
    simp only [Window.widened, Set.mem_inter_iff, Set.mem_ofPred_eq, Option.forall_mem_map, and_assoc]
  · rintro start ⟨rfl⟩ now hnow
    rw [h.accepted_iff htimestamps hnow hgreatest, Option.map_some, Window.widened_some]
  · rintro rfl now hnow
    rw [h.accepted_iff htimestamps hnow hgreatest, Option.map_none, Window.widened_none]
  · exact ⟨DateTime.ge_of_aware hnow hbound, DateTime.lt_of_aware hnow hbound, DateTime.sub_of_aware hnow hbound,
      fun skew hskew => ⟨hasExpired_of_aware hnow hbound hskew, isNotYetValid_of_aware hnow hbound hskew⟩⟩
  · rw [h.accepted_iff htimestamps hnow hgreatest,
      (h.of_skew hentity hacs hallow).accepted_iff htimestamps hnow hgreatest]
    exact fun hmem => Window.widened_mono _ _ hskew hmem

/-- The demonstration Response passes the timeless checks, and its window ends at its one expiry. -/
theorem timelessChecks_demo :
    TimelessChecks demoEnvironment demoParsed demoConfig (some "r1") none demoExpiry {demoExpiry.utc} := by
  have hexpiry : BearerExpiry demoEnvironment demoAcsUrl (some "r1") demoConfirmation demoExpiry :=
    ⟨demoConfirmationData, rfl, rfl, rfl, rfl, rfl⟩
  refine ⟨by decide, ⟨Or.inl (by decide), by decide, by decide⟩,
    ⟨demoConditions, rfl, ⟨rfl, rfl, by simp⟩, (requireAudience_ok_iff (by decide)).mp (by decide +kernel),
      rejectUnevaluableConditions_ok_iff.mp (by decide +kernel)⟩, ⟨demoSubject, rfl, ?_⟩, Set.singleton_nonempty _⟩
  ext t
  constructor
  · intro hchecks
    obtain ⟨_, hmem, _, e, hends, rfl⟩ := hchecks
    obtain rfl := List.mem_singleton.mp hmem
    rw [hends.unique hexpiry, Set.mem_singleton_iff]
  · rintro rfl
    exact ⟨demoConfirmation, List.mem_singleton_self _, ⟨rfl, rfl⟩, demoExpiry, hexpiry, rfl⟩

/-- The demonstration Response is accepted at the demonstration time. -/
theorem acceptance_window_exact_demo : Accepted demoEnvironment demoParsed demoConfig (some "r1") demoNow := by
  have htimestamps := timestampErrors_tableEnvironment
    [(demoResponseXml demoIssuer, minimalResponse (some "r1") (demoAssertion demoIssuer))]
    [] [("2030-01-01T00:00:00Z", demoExpiry)] fun _ => none
  obtain ⟨⟨greatest, hgreatest, hwindow, _⟩, _⟩ := acceptance_window_exact htimestamps timelessChecks_demo
  obtain rfl : greatest = demoExpiry.utc := hgreatest.1
  exact (hwindow demoNow (by decide)).mpr (by decide)

end ApronSaml
