import ApronSaml.Environment
import ApronSaml.Library.Window

/-!
# Timestamps

Parsing of timestamp attributes and the two comparisons with the current time. The
comparisons measure a difference instead of shifting a bound by the skew; on instants with
a UTC offset they never overflow, and decide the ideal widened window.
-/

namespace ApronSaml

open Raising Chronology Whitespace

/-- Errors of the timestamp parser that `parse_instant` translates. -/
def isTimestampError (e : PyError) : Bool := e.isValueError || e == .overflowError

/-- `parse_instant(value, field=…)`. -/
def parseInstant (env : Environment) (value field : String) : Py DateTime := do
  let parsed ← reraise
    (fun e => if isTimestampError e then some (.malformedResponse (field ++ " is not a valid timestamp")) else none)
    (env.fromisoformat (strip value))
  raiseIf (¬ parsed.Aware) (.malformedResponse (field ++ " is not timezone-qualified"))
  .ok parsed

/-- `require_aware(now)`. -/
def requireAware (now : DateTime) : Py Unit :=
  raiseIf (¬ now.Aware)
    (.valueError "the time source returned a naive datetime; it must return a timezone-aware datetime")

/-- `has_expired(now, expiry, clock_skew)`: `now >= expiry and now - expiry >= clock_skew`. -/
def hasExpired (now expiry : DateTime) (clockSkew : TimeDelta) : Py Bool := do
  if ← liftTime (now.ge expiry) then do
    let elapsed ← liftTime (now.sub expiry)
    .ok (decide (clockSkew.micros ≤ elapsed.micros))
  else .ok false

/-- `is_not_yet_valid(now, not_before, clock_skew)`: `now < not_before and not_before - now > clock_skew`. -/
def isNotYetValid (now notBefore : DateTime) (clockSkew : TimeDelta) : Py Bool := do
  if ← liftTime (now.lt notBefore) then do
    let missing ← liftTime (notBefore.sub now)
    .ok (decide (clockSkew.micros < missing.micros))
  else .ok false

/-- The value a timestamp attribute stands for, where it stands for one. -/
def instant? (env : Environment) (value : String) : Option DateTime :=
  (env.fromisoformat (strip value)).toOption.filter fun parsed => decide parsed.Aware

/-- An accepted timestamp is the parsed instant, and carries an offset. -/
theorem parseInstant_ok_iff {env : Environment} {value field : String} {parsed : DateTime} :
    parseInstant env value field = .ok parsed ↔ env.fromisoformat (strip value) = .ok parsed ∧ parsed.Aware := by
  simp only [parseInstant, bind_ok_iff, reraise_ok_iff, raiseIf_ok_iff, not_not, Except.ok.injEq]
  constructor
  · intro h
    obtain ⟨a, hparse, _, haware, rfl⟩ := h
    exact ⟨hparse, haware⟩
  · intro h
    obtain ⟨hparse, haware⟩ := h
    exact ⟨parsed, hparse, (), haware, rfl⟩

/-- An accepted timestamp does not depend on the field it is read from. -/
theorem parseInstant_eq_ok_iff_instant {env : Environment} {value field : String} {parsed : DateTime} :
    parseInstant env value field = .ok parsed ↔ instant? env value = some parsed := by
  rw [parseInstant_ok_iff, instant?, Option.filter_eq_some_iff, decide_eq_true_eq]
  cases env.fromisoformat (strip value) <;> simp [Except.toOption]

/-- With a timestamp parser that fails as documented, a refused timestamp is a malformed response. -/
theorem parseInstant_raisesOnly {env : Environment}
    (htimestamps : ∀ value, RaisesOnly (fun e => isTimestampError e = true) (env.fromisoformat value))
    (value field : String) :
    RaisesOnly (fun e => PyError.isSamlError e = true) (parseInstant env value field) := by
  refine RaisesOnly.bind (RaisesOnly.reraise (htimestamps (strip value)) fun e he => ?_) fun parsed _ => ?_
  · simp [he, PyError.malformedResponse, PyError.isSamlError]
  · exact RaisesOnly.bind (RaisesOnly.raiseIf rfl) fun _ _ => RaisesOnly.ok parsed

/-- A timestamp stands for an instant with an offset. -/
theorem aware_of_instant {env : Environment} {value : String} {parsed : DateTime}
    (h : instant? env value = some parsed) : parsed.Aware := by
  have hparse : parseInstant env value "" = .ok parsed := parseInstant_eq_ok_iff_instant.mpr h
  exact (parseInstant_ok_iff.mp hparse).2

/-- A current time with an offset is accepted as it is. -/
theorem requireAware_of_aware {now : DateTime} (haware : now.Aware) : requireAware now = .ok () :=
  raiseIf_ok_iff.mpr (not_not.mpr haware)

/-- Between instants with offsets, having expired is having reached the shifted bound. -/
theorem hasExpired_of_aware {now expiry : DateTime} {clockSkew : TimeDelta} (hnow : now.Aware) (hexpiry : expiry.Aware)
    (hskew : 0 ≤ clockSkew.micros) :
    hasExpired now expiry clockSkew = .ok (decide (expiry.utc + clockSkew.micros ≤ now.utc)) := by
  obtain ⟨elapsed, hsub, helapsed⟩ := DateTime.sub_of_aware hnow hexpiry
  simp only [hasExpired, DateTime.ge_of_aware hnow hexpiry, hsub, liftTime_ok, ok_bind, helapsed]
  simp only [← Window.reached_iff hskew]
  by_cases hreached : expiry.utc ≤ now.utc <;> simp [hreached]

/-- Between instants with offsets, not being valid yet is missing the shifted bound. -/
theorem isNotYetValid_of_aware {now notBefore : DateTime} {clockSkew : TimeDelta} (hnow : now.Aware)
    (hnotBefore : notBefore.Aware) (hskew : 0 ≤ clockSkew.micros) :
    isNotYetValid now notBefore clockSkew = .ok (decide (now.utc < notBefore.utc - clockSkew.micros)) := by
  obtain ⟨missing, hsub, hmissing⟩ := DateTime.sub_of_aware hnotBefore hnow
  simp only [isNotYetValid, DateTime.lt_of_aware hnow hnotBefore, hsub, liftTime_ok, ok_bind, hmissing]
  simp only [← Window.missed_iff hskew]
  by_cases hmissed : now.utc < notBefore.utc <;> simp [hmissed]

end ApronSaml
