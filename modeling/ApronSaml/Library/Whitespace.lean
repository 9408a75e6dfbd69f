import Mathlib.Data.List.DropRight

/-!
# Stripping, splitting and joining around blank characters

Text handling over an arbitrary alphabet with a chosen set of blanks, followed by the
two sets that matter for Python programs reading XML: the characters `str.split` and
`str.strip` treat as blank, and the four that XML itself does. Words are maximal runs of
non-blank characters. Joining words by a blank and splitting again only regroups them,
so collapsing a text with a smaller blank set never changes its words under a larger one.
-/

namespace Whitespace

section Alphabet

variable {A : Type*} (blank : A → Bool)

/-- Remove the blanks at both ends. -/
def stripBlanks (text : List A) : List A := (text.dropWhile blank).rdropWhile blank

/-- The maximal runs of non-blank characters, in order. -/
def splitBlanks (text : List A) : List (List A) := (text.splitOnP blank).filter (fun word => !word.isEmpty)

/-- An empty text has no words. -/
@[simp] theorem splitBlanks_nil : splitBlanks blank [] = [] := by simp [splitBlanks]

variable {blank}

/-- A blank separates the words before it from the words after it. -/
theorem splitBlanks_append_cons {sep : A} (hsep : blank sep = true) (before after : List A) :
    splitBlanks blank (before ++ sep :: after) = splitBlanks blank before ++ splitBlanks blank after := by
  simp only [splitBlanks, List.splitOnP_append_cons before after hsep, List.filter_append]

/-- A leading blank adds no word. -/
theorem splitBlanks_cons_blank {sep : A} (hsep : blank sep = true) (after : List A) :
    splitBlanks blank (sep :: after) = splitBlanks blank after := by
  simpa using splitBlanks_append_cons hsep [] after

/-- A non-empty text without blanks is one word. -/
theorem splitBlanks_word {word : List A} (hword : ∀ c ∈ word, blank c = false) :
    splitBlanks blank word = if word = [] then [] else [word] := by
  rw [splitBlanks, List.splitOnP_eq_singleton hword]
  cases word <;> simp

/-- Blanks before a text add no word. -/
theorem splitBlanks_append_left {pad : List A} (hpad : ∀ c ∈ pad, blank c = true) (text : List A) :
    splitBlanks blank (pad ++ text) = splitBlanks blank text := by
  induction pad with
  | nil => rfl
  | cons c pad ih =>
    rw [List.forall_mem_cons] at hpad
    rw [List.cons_append, splitBlanks_cons_blank hpad.1, ih hpad.2]

/-- Blanks after a text add no word. -/
theorem splitBlanks_append_right {pad : List A} (hpad : ∀ c ∈ pad, blank c = true) (text : List A) :
    splitBlanks blank (text ++ pad) = splitBlanks blank text := by
  cases pad with
  | nil => rw [List.append_nil]
  | cons c pad =>
    rw [List.forall_mem_cons] at hpad
    have hnone : splitBlanks blank pad = [] := by
      simpa using splitBlanks_append_left hpad.2 ([] : List A)
    rw [splitBlanks_append_cons hpad.1, hnone, List.append_nil]

/-- Stripping removes a block of blanks on either side and nothing else. -/
theorem exists_stripBlanks (blank : A → Bool) (text : List A) :
    ∃ before after, (∀ c ∈ before, blank c = true) ∧ (∀ c ∈ after, blank c = true) ∧
      text = before ++ (stripBlanks blank text ++ after) := by
  refine ⟨text.takeWhile blank, (text.dropWhile blank).rtakeWhile blank, ?_, ?_, ?_⟩
  · exact fun c hc => List.mem_takeWhile_imp hc
  · exact fun c hc => List.mem_rtakeWhile_imp hc
  · rw [stripBlanks, List.rdropWhile_append_rtakeWhile, List.takeWhile_append_dropWhile]

/-- Stripping twice is stripping once. -/
theorem stripBlanks_idem (text : List A) : stripBlanks blank (stripBlanks blank text) = stripBlanks blank text := by
  have hprefix : stripBlanks blank text <+: text.dropWhile blank :=
    List.rdropWhile_prefix blank (text.dropWhile blank)
  have hdrop : (stripBlanks blank text).dropWhile blank = stripBlanks blank text := by
    rw [List.dropWhile_eq_self_iff]
    intro hlength
    rw [List.IsPrefix.getElem hprefix hlength]
    exact List.dropWhile_get_zero_not blank text (hlength.trans_le hprefix.length_le)
  calc stripBlanks blank (stripBlanks blank text)
      = (stripBlanks blank text).rdropWhile blank := congrArg _ hdrop
    _ = stripBlanks blank text := List.rdropWhile_idempotent blank (text.dropWhile blank)

/-- A text and its stripped form have the same words. -/
theorem splitBlanks_strip (text : List A) :
    splitBlanks blank (stripBlanks blank text) = splitBlanks blank text := by
  obtain ⟨before, after, hbefore, hafter, htext⟩ := exists_stripBlanks blank text
  conv_rhs => rw [htext]
  rw [splitBlanks_append_left hbefore, splitBlanks_append_right hafter]

/-- Joining words by a blank and splitting again splits every word on its own. -/
theorem splitBlanks_intercalate {sep : A} (hsep : blank sep = true) (words : List (List A)) :
    splitBlanks blank ([sep].intercalate words) = words.flatMap (splitBlanks blank) := by
  induction words with
  | nil => simp
  | cons word rest ih =>
    cases rest with
    | nil => simp
    | cons next rest =>
      rw [List.intercalate_cons_cons, List.flatMap_cons, List.append_assoc, List.singleton_append,
        splitBlanks_append_cons hsep, ih]

/-- Words of a larger blank set are found inside the words of a smaller one. -/
theorem splitBlanks_refine {fine : A → Bool} (hfine : ∀ c, fine c = true → blank c = true) (text : List A) :
    (splitBlanks fine text).flatMap (splitBlanks blank) = splitBlanks blank text := by
  suffices h : ∀ word, (∀ c ∈ word, fine c = false) →
      (splitBlanks fine (word ++ text)).flatMap (splitBlanks blank) = splitBlanks blank (word ++ text) by
    simpa using h [] (by simp)
  induction text with
  | nil =>
    intro word hword
    rw [List.append_nil, splitBlanks_word hword]
    by_cases hnil : word = [] <;> simp [hnil]
  | cons c text ih =>
    intro word hword
    by_cases hc : fine c = true
    · have hhead := ih [] (by simp)
      have hbefore : (splitBlanks fine word).flatMap (splitBlanks blank) = splitBlanks blank word := by
        rw [splitBlanks_word hword]
        by_cases hnil : word = [] <;> simp [hnil]
      rw [List.nil_append] at hhead
      rw [splitBlanks_append_cons hc, splitBlanks_append_cons (hfine c hc), List.flatMap_append, hbefore, hhead]
    · have hlonger := ih (word ++ [c]) (by
        intro d hd
        rcases List.mem_append.mp hd with hd | hd
        · exact hword d hd
        · rw [List.mem_singleton.mp hd]
          simpa using hc)
      simpa using hlonger

/-- Collapsing a text with a smaller blank set keeps its words under the larger one. -/
theorem splitBlanks_collapse {fine : A → Bool} {sep : A} (hsep : blank sep = true)
    (hfine : ∀ c, fine c = true → blank c = true) (text : List A) :
    splitBlanks blank ([sep].intercalate (splitBlanks fine text)) = splitBlanks blank text := by
  rw [splitBlanks_intercalate hsep, splitBlanks_refine hfine]

/-- Gluing the words together removes exactly the blanks. -/
theorem flatten_splitBlanks (text : List A) :
    (splitBlanks blank text).flatten = text.filter (fun c => !blank c) := by
  have hkeep (words : List (List A)) : (words.filter (fun word => !word.isEmpty)).flatten = words.flatten := by
    induction words with
    | nil => rfl
    | cons word words ih => cases word <;> simp [ih]
  rw [splitBlanks, hkeep]
  induction text with
  | nil => simp
  | cons c text ih =>
    rw [List.splitOnP_cons_eq_if_modifyHead]
    by_cases hc : blank c = true
    · simp [hc, ih]
    · have hglue : ((text.splitOnP blank).modifyHead (List.cons c)).flatten =
          c :: (text.splitOnP blank).flatten := by
        obtain ⟨word, words, hwords⟩ := List.exists_cons_of_ne_nil (List.splitOnP_ne_nil blank text)
        simp [hwords]
      simp [hc, hglue, ih]

/-- Stripping leaves nothing exactly when every character is blank. -/
theorem stripBlanks_eq_nil_iff (text : List A) : stripBlanks blank text = [] ↔ ∀ c ∈ text, blank c = true := by
  constructor
  · intro hstrip
    obtain ⟨before, after, hbefore, hafter, htext⟩ := exists_stripBlanks blank text
    intro c hc
    rw [htext, hstrip, List.nil_append, List.mem_append] at hc
    exact hc.elim (hbefore c) (hafter c)
  · intro hblank
    have hdrop : text.dropWhile blank = [] := List.dropWhile_eq_nil_iff.mpr hblank
    rw [stripBlanks, hdrop, List.rdropWhile_nil]

/-- Blanks around a text without blanks are removed. -/
theorem stripBlanks_pad {before text after : List A} (hbefore : ∀ c ∈ before, blank c = true)
    (hafter : ∀ c ∈ after, blank c = true) (htext : ∀ c ∈ text, blank c = false) :
    stripBlanks blank (before ++ (text ++ after)) = text := by
  have hleft : (before ++ (text ++ after)).dropWhile blank = (text ++ after).dropWhile blank :=
    List.dropWhile_append_of_pos hbefore
  cases text with
  | nil => rw [stripBlanks_eq_nil_iff, List.nil_append, List.forall_mem_append]; exact ⟨hbefore, hafter⟩
  | cons c text =>
    have hlast : (c :: text).rdropWhile blank = c :: text := by
      rw [List.rdropWhile_eq_self_iff]
      exact fun hne => by simp [htext _ (List.getLast_mem hne)]
    have hright : (c :: text ++ after).rdropWhile blank = (c :: text).rdropWhile blank := by
      rw [List.rdropWhile, List.reverse_append, List.dropWhile_append_of_pos (by simpa using hafter)]
      rfl
    rw [stripBlanks, hleft, List.cons_append, List.dropWhile_cons_of_neg (by simp [htext c List.mem_cons_self]),
      ← List.cons_append, hright, hlast]

end Alphabet

/-- The code points for which Python's `str.isspace` holds; `str.split` and `str.strip` cut at these. -/
def isSpaceCode (code : ℕ) : Bool :=
  decide (0x09 ≤ code ∧ code ≤ 0x0d) || decide (0x1c ≤ code ∧ code ≤ 0x20) || code == 0x85 || code == 0xa0 ||
    code == 0x1680 || decide (0x2000 ≤ code ∧ code ≤ 0x200a) || code == 0x2028 || code == 0x2029 ||
    code == 0x202f || code == 0x205f || code == 0x3000

/-- Python's whitespace test on a scalar value. -/
def isSpace (c : Char) : Bool := isSpaceCode c.toNat

/-- The four whitespace characters of XML: space, tab, carriage return and line feed. -/
def isXmlSpace (c : Char) : Bool := c == ' ' || c == '\t' || c == '\r' || c == '\n'

/-- XML whitespace is Python whitespace. -/
theorem isSpace_of_isXmlSpace (c : Char) (h : isXmlSpace c = true) : isSpace c = true := by
  simp only [isXmlSpace, Bool.or_eq_true, beq_iff_eq] at h
  rcases h with ((rfl | rfl) | rfl) | rfl <;> decide

/-- `text.strip()`. -/
def strip (text : String) : String := String.ofList (stripBlanks isSpace text.toList)

/-- `" ".join(text.split())` for a chosen blank set. -/
def collapse (blank : Char → Bool) (text : String) : String :=
  String.ofList ([' '].intercalate (splitBlanks blank text.toList))

/-- Stripping twice is stripping once. -/
theorem strip_strip (text : String) : strip (strip text) = strip text := by
  simp only [strip, String.toList_ofList, stripBlanks_idem]

/-- Collapsing ignores the blanks `strip` removes. -/
theorem collapse_strip (text : String) : collapse isSpace (strip text) = collapse isSpace text := by
  simp only [collapse, strip, String.toList_ofList, splitBlanks_strip]

/-- A text normalized as XML does has the same collapsed form as the text itself. -/
theorem collapse_xmlCollapse (text : String) :
    collapse isSpace (collapse isXmlSpace text) = collapse isSpace text := by
  simp only [collapse, String.toList_ofList]
  rw [splitBlanks_collapse (by decide) isSpace_of_isXmlSpace]

end Whitespace
