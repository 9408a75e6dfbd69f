import ApronSaml.Library.Html

/-!
# Tokenizing HTML

The tokenizer of HTML as a state machine on characters, for markup made of tags with
double-quoted attribute values, of text without character references, and of script
elements. On anything else (comments, other attribute values, other elements with content
of their own, the end of the text inside a tag) it has no answer. An attribute value runs to the
next quotation mark, and its character references are read. Characters are taken as they
are; what a browser makes of null characters and carriage returns is left out.
-/

namespace Html

/-- A tag as far as it has been read. -/
structure Tag where
  closing : Bool
  name : List Char
  attributes : List (String × String)

/-- The states between two characters. -/
inductive State
  | data
  | tagOpen
  | endTagOpen
  | tagName (tag : Tag)
  | beforeAttributeName (tag : Tag)
  | attributeName (tag : Tag) (name : List Char)
  | beforeAttributeValue (tag : Tag) (name : List Char)
  | attributeValue (tag : Tag) (name raw : List Char)
  | afterAttributeValue (tag : Tag)
  | selfClosing (tag : Tag)
  | script
  | scriptLessThan
  | scriptEndTag (name : List Char)

/-- What the tokenizer emits. -/
inductive Token
  | startTag (name : String) (attributes : List (String × String)) (selfClosing : Bool)
  | endTag (name : String)
  | character (c : Char)
  deriving DecidableEq

/-- The blanks between attributes. -/
def isBlank (c : Char) : Bool := c == ' ' || c == '\t' || c == '\n' || c == '\x0c'

/-- Elements, scripts apart, whose content is not read as markup. -/
def rawContent : List String :=
  ["title", "textarea", "style", "xmp", "iframe", "noembed", "noframes", "noscript", "plaintext"]

/-- The end of a tag: it is emitted, and the content of a script is read as such. -/
def emit (tag : Tag) (selfClosing : Bool) : Option (State × List Token) :=
  let name := String.ofList tag.name
  if tag.closing then some (.data, [.endTag name])
  else if rawContent.contains name then none
  else some (if name = "script" then .script else .data, [.startTag name tag.attributes selfClosing])

/-- An attribute is added unless the tag has one of that name. -/
def Tag.addAttribute (tag : Tag) (name : List Char) (value : String) : Tag :=
  if tag.attributes.any fun present => present.1 == String.ofList name then tag
  else { tag with attributes := tag.attributes ++ [(String.ofList name, value)] }

/-- One character inside the content of a script. -/
def scriptStep (c : Char) : State × List Token := if c = '<' then (.scriptLessThan, []) else (.script, [.character c])

/-- One character, where the tokenizer has an answer. -/
def step (references : CharacterReferences) (state : State) (c : Char) : Option (State × List Token) :=
  match state with
  | .data =>
    if c = '<' then some (.tagOpen, []) else if c = '&' then none else some (.data, [.character c])
  | .tagOpen =>
    if c = '/' then some (.endTagOpen, [])
    else if c.isAlpha then some (.tagName ⟨false, [c.toLower], []⟩, [])
    else none
  | .endTagOpen => if c.isAlpha then some (.tagName ⟨true, [c.toLower], []⟩, []) else none
  | .tagName tag =>
    if isBlank c then some (.beforeAttributeName tag, [])
    else if c = '/' then some (.selfClosing tag, [])
    else if c = '>' then emit tag false
    else some (.tagName { tag with name := tag.name ++ [c.toLower] }, [])
  | .beforeAttributeName tag =>
    if isBlank c then some (.beforeAttributeName tag, [])
    else if c = '/' then some (.selfClosing tag, [])
    else if c = '>' then emit tag false
    else if c = '=' then none
    else some (.attributeName tag [c.toLower], [])
  | .attributeName tag name =>
    if isBlank c || c == '/' || c == '>' then none
    else if c = '=' then some (.beforeAttributeValue tag name, [])
    else some (.attributeName tag (name ++ [c.toLower]), [])
  | .beforeAttributeValue tag name =>
    if isBlank c then some (.beforeAttributeValue tag name, [])
    else if c = '"' then some (.attributeValue tag name [], [])
    else none
  | .attributeValue tag name raw =>
    if c = '"' then some (.afterAttributeValue (tag.addAttribute name (attributeText references raw)), [])
    else some (.attributeValue tag name (raw ++ [c]), [])
  | .afterAttributeValue tag =>
    if isBlank c then some (.beforeAttributeName tag, [])
    else if c = '/' then some (.selfClosing tag, [])
    else if c = '>' then emit tag false
    else none
  | .selfClosing tag => if c = '>' then emit tag true else none
  | .script => some (scriptStep c)
  | .scriptLessThan =>
    if c = '/' then some (.scriptEndTag [], [])
    else if c = '!' then none
    else
      let (state, tokens) := scriptStep c
      some (state, .character '<' :: tokens)
  | .scriptEndTag name =>
    if c.isAlpha then some (.scriptEndTag (name ++ [c.toLower]), [])
    else if name = "script".toList ∧ c = '>' then emit ⟨true, name, []⟩ false
    else none

/-- The characters of a text one after the other. -/
def run (references : CharacterReferences) (state : State) : List Char → Option (State × List Token)
  | [] => some (state, [])
  | c :: rest => do
    let (state, tokens) ← step references state c
    let (state, more) ← run references state rest
    some (state, tokens ++ more)

/-- The tokens of a text that ends outside every tag and script. -/
def tokenize (references : CharacterReferences) (text : String) : Option (List Token) :=
  match run references .data text.toList with
  | some (.data, tokens) => some tokens
  | _ => none

/-- A character is read before what follows. -/
theorem run_cons_of_eq {references : CharacterReferences} {state state' : State} {c : Char} {tokens : List Token}
    (h : step references state c = some (state', tokens)) (rest : List Char) :
    run references state (c :: rest) =
      (run references state' rest).map fun result => (result.1, tokens ++ result.2) := by
  rw [run, h]
  simp only [Option.bind_eq_bind, Option.bind_some]
  cases run references state' rest <;> rfl

/-- A text is read in two parts. -/
theorem run_append (references : CharacterReferences) (state : State) (text text' : List Char) :
    run references state (text ++ text') = (do
      let (state, tokens) ← run references state text
      let (state, more) ← run references state text'
      some (state, tokens ++ more)) := by
  induction text generalizing state with
  | nil => cases hrun : run references state text' <;> simp [run, hrun]
  | cons c text ih =>
    rw [List.cons_append]
    cases hstep : step references state c with
    | none => rw [run, run, hstep]; rfl
    | some result =>
      rw [run_cons_of_eq hstep, run_cons_of_eq hstep, ih]
      cases run references result.1 text with
      | none => rfl
      | some first => cases hsecond : run references first.1 text' <;> simp [hsecond]

/-- What has been read is read before what follows. -/
theorem run_append_of_eq {references : CharacterReferences} {state state' : State} {text : List Char}
    {tokens : List Token} (h : run references state text = some (state', tokens)) (text' : List Char) :
    run references state (text ++ text') =
      (run references state' text').map fun result => (result.1, tokens ++ result.2) := by
  rw [run_append, h]
  simp only [Option.bind_eq_bind, Option.bind_some]
  cases run references state' text' <;> rfl

/-- Characters other than the quotation mark belong to the attribute value. -/
theorem run_attributeValue (references : CharacterReferences) (tag : Tag) (name raw : List Char) {text : List Char}
    (h : '"' ∉ text) : run references (.attributeValue tag name raw) text =
      some (.attributeValue tag name (raw ++ text), []) := by
  induction text generalizing raw with
  | nil => rw [run, List.append_nil]
  | cons c text ih =>
    rw [List.mem_cons, not_or] at h
    have hstep : step references (.attributeValue tag name raw) c = some (.attributeValue tag name (raw ++ [c]), []) :=
      if_neg (Ne.symm h.1)
    rw [run_cons_of_eq hstep, ih _ h.2, List.append_assoc]
    rfl

/-- Escaped text between quotation marks is an attribute value, which stands for the text. -/
theorem run_escape (references : CharacterReferences) (tag : Tag) (name : List Char) (value : String) :
    run references (.attributeValue tag name []) ((escape value).toList ++ ['"']) =
      some (.afterAttributeValue (tag.addAttribute name value), []) := by
  rw [run_append_of_eq (run_attributeValue references tag name [] (quot_notMem_escape value)), List.nil_append]
  have hstep : run references (.attributeValue tag name (escape value).toList) ['"'] =
      some (.afterAttributeValue (tag.addAttribute name (attributeText references (escape value).toList)), []) := rfl
  rw [hstep, attributeText_escape]
  rfl

/-- The content of a script runs to the next markup. -/
theorem run_script (references : CharacterReferences) {text : List Char} (h : '<' ∉ text) :
    run references .script text = some (.script, text.map .character) := by
  induction text with
  | nil => rfl
  | cons c text ih =>
    rw [List.mem_cons, not_or] at h
    have hstep : step references .script c = some (.script, [.character c]) := by
      rw [step, scriptStep, if_neg (Ne.symm h.1)]
    rw [run_cons_of_eq hstep, ih h.2]
    rfl

end Html
