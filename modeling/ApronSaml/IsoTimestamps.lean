import ApronSaml.Deployment
import ApronSaml.Library.XsDateTime

/-!
# Timestamps as texts

The accepted timestamps among the texts of the `xs:dateTime` shape with an unsigned year of
four digits, with any blanks around them, when the timestamps are read by
`datetime.fromisoformat`. A text with a zone whose fields are in range stands for its exact
instant, rounded down to the microsecond, and every other text is refused with the error of
its defect. The window of a `Conditions` element is then the one its texts state, closed at
most one microsecond early and opened at most one microsecond early.
-/

namespace ApronSaml

open Raising Whitespace ElementTree Chronology IsoFormat

/-- Timestamps are read by `datetime.fromisoformat`. -/
def ReadsIsoFormat (env : Environment) : Prop :=
  ∀ value, match IsoFormat.fromisoformat value with
    | some parsed => env.fromisoformat value = .ok parsed
    | none => ∃ e, isTimestampError e = true ∧ env.fromisoformat value = .error e

/-- An environment whose timestamps are read by `datetime.fromisoformat`. -/
def readingIsoFormat (env : Environment) : Environment :=
  { env with
    fromisoformat value := required (IsoFormat.fromisoformat value) (.valueError "Invalid isoformat string") }

/-- Such an environment reads its timestamps so. -/
theorem readsIsoFormat_readingIsoFormat (env : Environment) : ReadsIsoFormat (readingIsoFormat env) := by
  intro value
  have hread : (readingIsoFormat env).fromisoformat value =
      required (IsoFormat.fromisoformat value) (.valueError "Invalid isoformat string") := rfl
  rw [hread]
  cases IsoFormat.fromisoformat value with
  | some parsed => rfl
  | none => exact ⟨.valueError "Invalid isoformat string", rfl, rfl⟩

/-- A text with blanks around it. -/
structure PaddedText where
  before : List Char
  text : InstantText
  after : List Char
  before_blank : ∀ c ∈ before, isSpace c = true
  after_blank : ∀ c ∈ after, isSpace c = true

namespace PaddedText

variable (padded : PaddedText)

/-- The attribute value. -/
def value : String := String.ofList (padded.before ++ (padded.text.toString.toList ++ padded.after))

/-- The blanks are stripped. -/
theorem strip_value : strip padded.value = padded.text.toString :=
  padded.text.strip_pad padded.before_blank padded.after_blank

end PaddedText

section Reader

variable {env : Environment}

/-- A text out of range is no valid timestamp. -/
theorem parseInstant_of_not_inRange (henv : ReadsIsoFormat env) (padded : PaddedText) (h : ¬ padded.text.InRange)
    (field : String) :
    parseInstant env padded.value field = .error (.malformedResponse (field ++ " is not a valid timestamp")) := by
  have hread := henv padded.text.toString
  rw [padded.text.fromisoformat_of_not_inRange h] at hread
  obtain ⟨e, he, herror⟩ := hread
  rw [parseInstant, padded.strip_value, herror, reraise, he]
  rfl

/-- A text in range is the instant it writes when it has a zone, and is refused for the lack of one otherwise. -/
theorem parseInstant_of_inRange (henv : ReadsIsoFormat env) (padded : PaddedText) (h : padded.text.InRange)
    (field : String) :
    ∃ parsed : DateTime, parsed.utcoffset = padded.text.offset ∧ parsed.utc = ⌊1000000 * padded.text.seconds⌋ ∧
      parseInstant env padded.value field =
        if padded.text.zone = none then .error (.malformedResponse (field ++ " is not timezone-qualified"))
        else .ok parsed := by
  obtain ⟨parsed, hparse, hoffset, hwall⟩ := padded.text.fromisoformat_of_inRange h
  have hread := henv padded.text.toString
  rw [hparse] at hread
  have haware : parsed.Aware ↔ padded.text.zone ≠ none := by
    rw [DateTime.Aware, hoffset, InstantText.offset, ne_eq, Option.map_eq_none_iff]
  refine ⟨parsed, hoffset, padded.text.utc_eq_floor hoffset hwall, ?_⟩
  rw [parseInstant, padded.strip_value, hread]
  by_cases hzone : padded.text.zone = none
  · have hnaive : ¬ parsed.Aware := fun h => haware.mp h hzone
    rw [if_pos hzone]
    exact raiseIf_bind_pos hnaive _ _
  · rw [if_neg hzone]
    exact raiseIf_bind_neg (not_not.mpr (haware.mpr hzone)) _ _

/-- Of the texts of the shape with an unsigned year of four digits, exactly those with a zone and with fields in range
are accepted, as the exact instant rounded down to the microsecond; a text of `xs:dateTime` with such a year is out of
range only at the end of a day. -/
theorem parseInstant_text_exact (henv : ReadsIsoFormat env) (padded : PaddedText) (field : String) :
    (padded.text.InRange → padded.text.zone ≠ none → ∃ parsed, parseInstant env padded.value field = .ok parsed ∧
      parsed.utcoffset = padded.text.offset ∧ parsed.utc = ⌊1000000 * padded.text.seconds⌋) ∧
    (padded.text.InRange → padded.text.zone = none → parseInstant env padded.value field =
      .error (.malformedResponse (field ++ " is not timezone-qualified"))) ∧
    (¬ padded.text.InRange → parseInstant env padded.value field =
      .error (.malformedResponse (field ++ " is not a valid timestamp"))) ∧
    (padded.text.Lexical → (padded.text.InRange ↔ padded.text.hour.val ≠ 24)) := by
  refine ⟨fun h hzone => ?_, fun h hzone => ?_, fun h => parseInstant_of_not_inRange henv padded h field,
    fun h => h.inRange_iff⟩
  · obtain ⟨parsed, hoffset, hutc, hparse⟩ := parseInstant_of_inRange henv padded h field
    rw [if_neg hzone] at hparse
    exact ⟨parsed, hparse, hoffset, hutc⟩
  · obtain ⟨parsed, _, _, hparse⟩ := parseInstant_of_inRange henv padded h field
    rw [hparse, if_pos hzone]

/-- No blanks. -/
theorem blank_nil : ∀ c ∈ ([] : List Char), isSpace c = true := List.forall_mem_nil _

/-- A line break. -/
theorem blank_newline : ∀ c ∈ ['\n'], isSpace c = true := List.all_eq_true.mp rfl

/-- Literals of decimal digits. -/
local instance neZero_digit : NeZero 10 := ⟨Nat.succ_ne_zero 9⟩

/-- Literals of fields of two digits. -/
local instance neZero_twoDigits : NeZero 100 := ⟨Nat.succ_ne_zero 99⟩

/-- Literals of years. -/
local instance neZero_fourDigits : NeZero 10000 := ⟨Nat.succ_ne_zero 9999⟩

/-- `2024-02-29T12:30:00.1234567+01:00`, with a line break behind it. -/
def leapDay : PaddedText where
  before := []
  text := ⟨2024, 2, 29, 12, 30, 0, [1, 2, 3, 4, 5, 6, 7], some (.offset false 1 0)⟩
  after := ['\n']
  before_blank := blank_nil
  after_blank := blank_newline

/-- `2024-03-01T00:00:00Z` -/
def nextDay : PaddedText where
  before := []
  text := ⟨2024, 3, 1, 0, 0, 0, [], some .utc⟩
  after := []
  before_blank := blank_nil
  after_blank := blank_nil

/-- The seventh fraction digit is cut off. -/
theorem parseInstant_text_exact_leapDay : ∃ parsed : DateTime,
    parseInstant (readingIsoFormat demoEnvironment) leapDay.value "NotBefore" = .ok parsed ∧
      parsed.utcoffset = some 3600000000 ∧ parsed.utc = 63844803000123456 := by
  obtain ⟨parsed, hparse, hoffset, hutc⟩ :=
    (parseInstant_text_exact (readsIsoFormat_readingIsoFormat demoEnvironment) leapDay "NotBefore").1 (by decide) (by decide)
  have hseconds : ⌊1000000 * leapDay.text.seconds⌋ = 63844803000123456 := by decide +kernel
  exact ⟨parsed, hparse, hoffset, hutc.trans hseconds⟩

/-- An instant with an offset of whole minutes is read back from its text, whatever blanks surround it. -/
theorem parseInstant_write (henv : ReadsIsoFormat env) {a : DateTime} (haware : a.Aware)
    (hminutes : ∀ offset ∈ a.utcoffset, 60000000 ∣ offset) {padded : PaddedText}
    (hpadded : padded.text = InstantText.write a) (field : String) :
    parseInstant env padded.value field = .ok a := by
  have hread := henv padded.text.toString
  rw [hpadded, InstantText.fromisoformat_write hminutes] at hread
  rw [parseInstant_ok_iff, padded.strip_value, hpadded]
  exact ⟨hread, haware⟩

/-- An instant of the demonstration is read back from its text between blanks. -/
theorem parseInstant_write_demo :
    parseInstant (readingIsoFormat demoEnvironment)
      (PaddedText.mk [' '] (InstantText.write demoNow) ['\n', ' '] (List.all_eq_true.mp rfl)
        (List.all_eq_true.mp rfl)).value "NotOnOrAfter" =
      .ok demoNow :=
  parseInstant_write (readsIsoFormat_readingIsoFormat demoEnvironment) (by decide) (by decide) rfl "NotOnOrAfter"

end Reader

/-- A text with a zone and with fields in range. -/
structure PaddedText.Qualified (padded : PaddedText) : Prop where
  inRange : padded.text.InRange
  zone : padded.text.zone ≠ none

/-- A qualified text stands for one instant. -/
theorem instant?_value {env : Environment} (henv : ReadsIsoFormat env) {padded : PaddedText} (h : padded.Qualified) :
    ∃ parsed, instant? env padded.value = some parsed ∧ parsed.utc = ⌊1000000 * padded.text.seconds⌋ := by
  obtain ⟨parsed, _, hutc, hparse⟩ := parseInstant_of_inRange henv padded h.inRange ""
  rw [if_neg h.zone] at hparse
  exact ⟨parsed, parseInstant_eq_ok_iff_instant.mp hparse, hutc⟩

/-- Where a text is given, it is qualified and stands for an instant. -/
theorem exists_instants {env : Environment} (henv : ReadsIsoFormat env) {start : Option PaddedText}
    (h : ∀ s ∈ start, s.Qualified) : ∃ notBefore : Option DateTime,
      (start.map PaddedText.value).map (instant? env) = notBefore.map some ∧
        notBefore.map DateTime.utc = start.map fun s => ⌊1000000 * s.text.seconds⌋ := by
  cases start with
  | none => exact ⟨none, rfl, rfl⟩
  | some s =>
    obtain ⟨parsed, hparsed, hutc⟩ := instant?_value henv (h s rfl)
    exact ⟨some parsed, by simp [hparsed], by simp [hutc]⟩

/-- The window that the texts of a `Conditions` element state is enforced to the microsecond: nothing is accepted from
the stated end on, nor a microsecond or more before the stated start, and everything is accepted from the start on that
is a microsecond or more before the end. -/
theorem enforceValidityWindow_texts {env : Environment} (henv : ReadsIsoFormat env) {conditions : Element}
    {start : Option PaddedText} {finish : PaddedText} {now : DateTime} {clockSkew : TimeDelta}
    (hfinish : conditions.get "NotOnOrAfter" = some finish.value ∧ finish.Qualified)
    (hstart : conditions.get "NotBefore" = start.map PaddedText.value ∧ ∀ s ∈ start, s.Qualified)
    (hnow : now.Aware) (hskew : 0 ≤ clockSkew.micros) :
    (enforceValidityWindow env conditions now clockSkew = .ok () →
      (now.utc : ℚ) < 1000000 * finish.text.seconds + clockSkew.micros ∧
        ∀ s ∈ start, 1000000 * s.text.seconds - clockSkew.micros < now.utc + 1) ∧
    ((now.utc : ℚ) + 1 ≤ 1000000 * finish.text.seconds + clockSkew.micros →
      (∀ s ∈ start, 1000000 * s.text.seconds - clockSkew.micros ≤ now.utc ∧
        1000000 * s.text.seconds + 1 ≤ 1000000 * finish.text.seconds) →
      enforceValidityWindow env conditions now clockSkew = .ok ()) := by
  obtain ⟨expiry, hexpiry, hend⟩ := instant?_value henv hfinish.2
  obtain ⟨notBefore, hnotBefore, hbounds⟩ := exists_instants henv hstart.2
  rw [← hstart.1] at hnotBefore
  have hordered : (∀ s ∈ notBefore, s.utc < expiry.utc) ↔
      ∀ s ∈ start, ⌊1000000 * s.text.seconds⌋ < ⌊1000000 * finish.text.seconds⌋ := by
    rw [← hend, ← Option.forall_mem_map (f := DateTime.utc) (p := fun t => t < expiry.utc), hbounds, Option.forall_mem_map]
  have hopen : (∀ s ∈ notBefore.map DateTime.utc, s - clockSkew.micros ≤ now.utc) ↔
      ∀ s ∈ start, ⌊1000000 * s.text.seconds⌋ - clockSkew.micros ≤ now.utc := by
    rw [hbounds, Option.forall_mem_map]
  have hexpiryEq : (conditions.get "NotOnOrAfter").bind (instant? env) = some expiry := by
    rw [hfinish.1, Option.bind_some, hexpiry]
  rw [enforceValidityWindow_ok_iff hnow hskew]
  constructor
  · rintro ⟨notBefore', expiry', hstated, hentered, hleft⟩
    obtain rfl : notBefore = notBefore' :=
      Option.map_injective (Option.some_injective _) (hnotBefore.symm.trans hstated.notBefore_eq)
    obtain rfl : expiry = expiry' := Option.some_injective _ (hexpiryEq.symm.trans hstated.expiry_eq)
    rw [hend] at hleft
    have hfloor := Int.floor_le (1000000 * finish.text.seconds)
    have hlt : (now.utc : ℚ) < ⌊1000000 * finish.text.seconds⌋ + clockSkew.micros := by exact_mod_cast hleft
    refine ⟨by linarith, fun s hs => ?_⟩
    have hfloor' := Int.lt_floor_add_one (1000000 * s.text.seconds)
    have hle : (⌊1000000 * s.text.seconds⌋ : ℚ) - clockSkew.micros ≤ now.utc := by exact_mod_cast hopen.mp hentered s hs
    linarith
  · intro hbefore hafter
    refine ⟨notBefore, expiry, ⟨hexpiryEq, hnotBefore, hordered.mpr fun s hs => ?_⟩, hopen.mpr fun s hs => ?_, ?_⟩
    · have hfloor := Int.floor_le (1000000 * s.text.seconds)
      have hgap := (hafter s hs).2
      exact Int.lt_floor_iff.mpr (by linarith)
    · have hfloor := Int.floor_le (1000000 * s.text.seconds)
      have hreached := (hafter s hs).1
      have hle : (⌊1000000 * s.text.seconds⌋ : ℚ) - clockSkew.micros ≤ now.utc := by linarith
      exact_mod_cast hle
    · have hfloor := Int.lt_floor_add_one (1000000 * finish.text.seconds)
      have hlt : (now.utc : ℚ) < ⌊1000000 * finish.text.seconds⌋ + clockSkew.micros := by linarith
      rw [hend]
      exact_mod_cast hlt

/-- A window that opens on the leap day and closes with it. -/
def leapDayConditions : Element :=
  ⟨conditionsTag, [("NotBefore", leapDay.value), ("NotOnOrAfter", nextDay.value)], none, [], none⟩

/-- An instant of the leap day, two hours after the opening. -/
def leapDayNow : DateTime := ⟨63844810000000000, some 0, by decide, by decide, demoNow.offset_bound⟩

/-- The instant lies within the window. -/
theorem enforceValidityWindow_texts_leapDay :
    enforceValidityWindow (readingIsoFormat demoEnvironment) leapDayConditions leapDayNow demoConfig.clockSkew =
      .ok () := by
  have hfinish : leapDayConditions.get "NotOnOrAfter" = some nextDay.value ∧ nextDay.Qualified :=
    ⟨rfl, by decide, by decide⟩
  have hstart : leapDayConditions.get "NotBefore" = (some leapDay).map PaddedText.value ∧
      ∀ s ∈ some leapDay, s.Qualified := ⟨rfl, by rintro _ ⟨rfl⟩; exact ⟨by decide, by decide⟩⟩
  have hbounds : (leapDayNow.utc : ℚ) + 1 ≤ 1000000 * nextDay.text.seconds + demoConfig.clockSkew.micros ∧
      1000000 * leapDay.text.seconds - demoConfig.clockSkew.micros ≤ leapDayNow.utc ∧
        1000000 * leapDay.text.seconds + 1 ≤ 1000000 * nextDay.text.seconds := by decide +kernel
  refine (enforceValidityWindow_texts (readsIsoFormat_readingIsoFormat demoEnvironment) hfinish hstart (by decide)
    demoConfig.clockSkew_nonneg).2 hbounds.1 ?_
  rintro _ ⟨rfl⟩
  exact hbounds.2

end ApronSaml
