import Mathlib.Data.List.TakeWhile

/-!
# Splitting URLs

`urllib.parse.urlsplit` of Python 3.11 as a partial function: leading control characters
and spaces are stripped, tabs and line breaks removed, a scheme is recognized before the
first colon, and an authority after two slashes. The authority may be refused: for an
unbalanced bracket, for a bracketed host that is no IPv6 or future address, or because
Unicode compatibility normalization would produce a delimiter in it. The Unicode and
address tables behind the last two tests are parameters.
-/

namespace Url

/-- The five components. -/
structure SplitResult where
  scheme : List Char
  netloc : List Char
  path : List Char
  query : List Char
  fragment : List Char
  deriving DecidableEq

/-- Why an authority is refused; each is a `ValueError`. -/
inductive Malformed
  | unbalancedBracket
  | bracketedHost
  | normalization
  deriving DecidableEq

/-- The library tables the authority checks consult. -/
structure Tables where
  nfkc : List Char → List Char
  isIPv6 : List Char → Bool

/-- The text before the first occurrence of a character and the text after it, when it occurs. -/
def partition (sep : Char) (text : List Char) : List Char × Option (List Char) :=
  match text.dropWhile (fun c => c != sep) with
  | [] => (text, none)
  | _ :: after => (text.takeWhile (fun c => c != sep), some after)

/-- A text is cut at the first occurrence. -/
theorem partition_append_cons {sep : Char} {before : List Char} (hbefore : sep ∉ before) (after : List Char) :
    partition sep (before ++ sep :: after) = (before, some after) := by
  have hall : ∀ c ∈ before, (c != sep) = true := by
    intro c hc
    rw [bne_iff_ne]
    exact fun h => hbefore (h ▸ hc)
  rw [partition, List.dropWhile_append_of_pos hall, List.takeWhile_append_of_pos hall]
  simp

/-- A text without an occurrence is not cut. -/
theorem partition_of_notMem {sep : Char} {text : List Char} (h : sep ∉ text) : partition sep text = (text, none) := by
  have hdrop : text.dropWhile (fun c => c != sep) = [] := by
    rw [List.dropWhile_eq_nil_iff]
    intro c hc
    rw [bne_iff_ne]
    exact fun hsep => h (hsep ▸ hc)
  rw [partition, hdrop]

/-- A text is uncut, or cut at its first occurrence. -/
theorem partition_cases (sep : Char) (text : List Char) :
    (sep ∉ text ∧ partition sep text = (text, none)) ∨
      ∃ before after, text = before ++ sep :: after ∧ sep ∉ before ∧ partition sep text = (before, some after) := by
  by_cases h : sep ∈ text
  · obtain ⟨before, after, rfl, hbefore⟩ := List.eq_append_cons_of_mem h
    exact Or.inr ⟨before, after, rfl, hbefore, partition_append_cons hbefore after⟩
  · exact Or.inl ⟨h, partition_of_notMem h⟩

/-- The text after the last occurrence of a character, or the whole text. -/
def afterLast (sep : Char) (text : List Char) : List Char := (text.reverse.takeWhile (fun c => c != sep)).reverse

/-- ASCII letters. -/
def isAsciiAlpha (c : Char) : Bool := ('a' ≤ c && c ≤ 'z') || ('A' ≤ c && c ≤ 'Z')

/-- Characters valid in scheme names. -/
def isSchemeChar (c : Char) : Bool := isAsciiAlpha c || ('0' ≤ c && c ≤ '9') || c == '+' || c == '-' || c == '.'

/-- Hexadecimal digits. -/
def isHexDigit (c : Char) : Bool := ('0' ≤ c && c ≤ '9') || ('a' ≤ c && c ≤ 'f') || ('A' ≤ c && c ≤ 'F')

/-- An authority runs to the first slash, question mark or number sign. -/
def splitNetloc (url : List Char) : List Char × List Char :=
  (url.takeWhile (fun c => c != '/' && c != '?' && c != '#'),
    url.dropWhile (fun c => c != '/' && c != '?' && c != '#'))

/-- A bracketed host is an IPv6 address, or a future address: a version in hexadecimal, a dot and a name. -/
def bracketedHostOk (tables : Tables) (host : List Char) : Bool :=
  match host with
  | 'v' :: rest =>
    match partition '.' rest with
    | (version, some name) => !version.isEmpty && version.all isHexDigit && !name.isEmpty && !name.contains '\n'
    | (_, none) => false
  | _ => tables.isIPv6 host

/-- Refuse an authority with an unbalanced bracket or a bad bracketed host, as CPython 3.11.10 does; later patch releases
also refuse brackets with anything but a port around them. -/
def checkBrackets (tables : Tables) (netloc : List Char) : Except Malformed Unit :=
  if netloc.contains '[' != netloc.contains ']' then .error .unbalancedBracket
  else if netloc.contains '[' then
    let bracketed := (partition '[' netloc).2.getD []
    if bracketedHostOk tables (partition ']' bracketed).1 then .ok () else .error .bracketedHost
  else .ok ()

/-- Refuse an authority that normalization would give a further delimiter. -/
def checkNetloc (tables : Tables) (netloc : List Char) : Except Malformed Unit :=
  if netloc.all (fun c => c.toNat < 128) then .ok ()
  else
    let stripped := netloc.filter fun c => c != '@' && c != ':' && c != '#' && c != '?'
    let normalized := tables.nfkc stripped
    if stripped = normalized then .ok ()
    else if normalized.any (fun c => c == '/' || c == '?' || c == '#' || c == '@' || c == ':') then
      .error .normalization
    else .ok ()

/-- The scheme before the first colon, lower-cased, and the rest; no scheme leaves the text alone. -/
def splitScheme (url : List Char) : List Char × List Char :=
  match partition ':' url with
  | (c :: name, some rest) =>
    if isAsciiAlpha c && (c :: name).all isSchemeChar then ((c :: name).map Char.toLower, rest) else ([], url)
  | _ => ([], url)

/-- `urlsplit(url)`. -/
def urlsplit (tables : Tables) (text : String) : Except Malformed SplitResult := do
  let stripped := text.toList.dropWhile fun c => c.toNat ≤ 0x20
  let url := stripped.filter fun c => c != '\t' && c != '\r' && c != '\n'
  let (scheme, url) := splitScheme url
  let (netloc, url) := match url with
    | '/' :: '/' :: rest => splitNetloc rest
    | _ => ([], url)
  checkBrackets tables netloc
  let (url, fragment) := partition '#' url
  let (path, query) := partition '?' url
  checkNetloc tables netloc
  .ok ⟨scheme, netloc, path, query.getD [], fragment.getD []⟩

/-- The host in an authority: after the last at sign, between brackets or before a colon. -/
def SplitResult.host (parts : SplitResult) : List Char :=
  let hostinfo := afterLast '@' parts.netloc
  match partition '[' hostinfo with
  | (_, some bracketed) => (partition ']' bracketed).1
  | (_, none) => (partition ':' hostinfo).1

/-- `parts.hostname` is a non-empty text. -/
def SplitResult.hasHostname (parts : SplitResult) : Bool := !parts.host.isEmpty

/-- `parts.scheme in ("http", "https")`. -/
def SplitResult.isWeb (parts : SplitResult) : Bool :=
  parts.scheme == "http".toList || parts.scheme == "https".toList

end Url
