import ApronSaml.Library.Url

/-!
# Rebuilding URLs

`urllib.parse.urlunsplit`, and what a URL made of split parts is split into again. The parts
that splitting returns keep the delimiters of one component out of the others; with a new
query that is not empty, they are found again, but for a relative path behind a scheme that
takes an authority, which is made absolute.
-/

namespace Url

/-- The schemes whose URLs have an authority. -/
def usesNetloc : List String :=
  ["", "ftp", "http", "gopher", "nntp", "telnet", "imap", "wais", "file", "mms", "https", "shttp", "snews",
    "prospero", "rtsp", "rtsps", "rtspu", "rsync", "svn", "svn+ssh", "sftp", "nfs", "git", "git+ssh", "ws", "wss"]

/-- An authority is written, even an empty one behind some schemes and before a path that would read as one. -/
def SplitResult.writesNetloc (parts : SplitResult) : Bool :=
  !parts.netloc.isEmpty || (!parts.scheme.isEmpty && usesNetloc.contains (String.ofList parts.scheme)) ||
    ['/', '/'].isPrefixOf parts.path

/-- The path as it is written, absolute behind an authority. -/
def SplitResult.writtenPath (parts : SplitResult) : List Char :=
  if parts.writesNetloc && !parts.path.isEmpty && parts.path.head? != some '/' then '/' :: parts.path else parts.path

/-- The authority and the path. -/
def SplitResult.location (parts : SplitResult) : List Char :=
  if parts.writesNetloc then '/' :: '/' :: (parts.netloc ++ parts.writtenPath) else parts.path

/-- `urlunsplit(parts)`. -/
def urlunsplit (parts : SplitResult) : String :=
  let url := parts.location
  let url := if parts.scheme.isEmpty then url else parts.scheme ++ ':' :: url
  let url := if parts.query.isEmpty then url else url ++ '?' :: parts.query
  String.ofList (if parts.fragment.isEmpty then url else url ++ '#' :: parts.fragment)

/-- The text before a colon is a scheme name. -/
def isSchemeName : List Char → Bool
  | [] => false
  | c :: name => isAsciiAlpha c && (c :: name).all isSchemeChar

/-- No scheme name stands before the first colon. -/
def NoScheme (url : List Char) : Prop :=
  ∀ name rest, url = name ++ ':' :: rest → ':' ∉ name → isSchemeName name = false

/-- A scheme name has scheme characters only. -/
theorem forall_mem_of_isSchemeName {name : List Char} (h : isSchemeName name = true) :
    ∀ c ∈ name, isSchemeChar c = true := by
  cases name with
  | nil => simp
  | cons c name => exact List.all_eq_true.mp (Bool.and_eq_true_iff.mp h).2

/-- A character outside scheme names is in none. -/
theorem notMem_of_isSchemeName {sep : Char} (hsep : isSchemeChar sep = false) {name : List Char}
    (h : isSchemeName name = true) : sep ∉ name := by
  intro hmem
  rw [forall_mem_of_isSchemeName h sep hmem] at hsep
  contradiction

/-- A URL has no scheme, or one before its first colon. -/
theorem splitScheme_cases (url : List Char) :
    (NoScheme url ∧ splitScheme url = ([], url)) ∨
      ∃ name rest, url = name ++ ':' :: rest ∧ isSchemeName name = true ∧
        splitScheme url = (name.map Char.toLower, rest) := by
  obtain ⟨hnone, hpartition⟩ | ⟨name, rest, rfl, hname, hpartition⟩ := partition_cases ':' url
  · refine Or.inl ⟨fun name rest hurl _ => absurd (hurl ▸ by simp) hnone, ?_⟩
    rw [splitScheme, hpartition]
    cases url <;> rfl
  · cases hscheme : isSchemeName name with
    | true =>
      refine Or.inr ⟨name, rest, rfl, hscheme, ?_⟩
      cases name with
      | nil => simp [isSchemeName] at hscheme
      | cons c name =>
        rw [splitScheme, hpartition]
        exact if_pos hscheme
    | false =>
      refine Or.inl ⟨fun name' rest' hurl hname' => ?_, ?_⟩
      · have hpartition' := partition_append_cons hname' rest'
        rw [← hurl, hpartition, Prod.mk.injEq] at hpartition'
        rwa [← hpartition'.1]
      · cases name with
        | nil => rw [splitScheme, hpartition]
        | cons c name =>
          rw [splitScheme, hpartition]
          exact if_neg (by rw [← Bool.not_eq_true] at hscheme; exact hscheme)

/-- A URL without a scheme is left alone. -/
theorem splitScheme_of_noScheme {url : List Char} (h : NoScheme url) : splitScheme url = ([], url) := by
  obtain ⟨_, hsplit⟩ | ⟨name, rest, rfl, hname, _⟩ := splitScheme_cases url
  · exact hsplit
  · rw [h name rest rfl (notMem_of_isSchemeName (by decide) hname)] at hname
    contradiction

/-- A scheme name and a colon are split off. -/
theorem splitScheme_append_cons {name : List Char} (hname : isSchemeName name = true) (rest : List Char) :
    splitScheme (name ++ ':' :: rest) = (name.map Char.toLower, rest) := by
  have hcolon := notMem_of_isSchemeName (by decide : isSchemeChar ':' = false) hname
  obtain ⟨hnone, _⟩ | ⟨name', rest', hurl, hname', hsplit⟩ := splitScheme_cases (name ++ ':' :: rest)
  · rw [hnone name rest rfl hcolon] at hname
    contradiction
  · have hcolon' := notMem_of_isSchemeName (by decide : isSchemeChar ':' = false) hname'
    have hpartition := partition_append_cons hcolon rest
    rw [hurl, partition_append_cons hcolon', Prod.mk.injEq, Option.some.injEq] at hpartition
    rw [hsplit, hpartition.1, hpartition.2]

/-- Without a scheme in the whole URL there is none in its start. -/
theorem NoScheme.of_append {url rest : List Char} (h : NoScheme (url ++ rest)) : NoScheme url := by
  rintro name after rfl hname
  exact h name (after ++ rest) (by simp) hname

/-- A URL that starts with a slash has no scheme. -/
theorem NoScheme.of_slash (url : List Char) : NoScheme ('/' :: url) := by
  intro name rest hurl _
  cases name with
  | nil => rfl
  | cons c name =>
    obtain rfl : '/' = c := (List.cons.inj hurl).1
    rfl

/-- A query adds no scheme. -/
theorem NoScheme.append_query {url : List Char} (h : NoScheme url) (rest : List Char) :
    NoScheme (url ++ '?' :: rest) := by
  intro name after hurl hname
  obtain ⟨more, rfl, hmore⟩ | ⟨more, rfl, hmore⟩ := List.append_eq_append_iff.mp hurl
  · cases more with
    | nil => simp at hmore
    | cons c more =>
      obtain rfl : '?' = c := (List.cons.inj hmore).1
      rw [← Bool.not_eq_true]
      intro hscheme
      have hmark : '?' ∉ url ++ '?' :: more := notMem_of_isSchemeName (by decide) hscheme
      exact hmark (by simp)
  · cases more with
    | nil => simp at hmore
    | cons c more =>
      obtain rfl : ':' = c := (List.cons.inj hmore).1
      exact h name more rfl hname

/-- What a scheme character is lower-cased to is a scheme character, lower-cased already. -/
theorem toLower_spec : ∀ n < 128, isSchemeChar (Char.ofNat n) = true →
    isSchemeChar (Char.ofNat n).toLower = true ∧ (Char.ofNat n).toLower.toLower = (Char.ofNat n).toLower ∧
      isAsciiAlpha (Char.ofNat n).toLower = isAsciiAlpha (Char.ofNat n) := by
  decide +kernel

/-- Scheme characters are printable ASCII. -/
theorem lt_of_isSchemeChar {c : Char} (h : isSchemeChar c = true) : 0x20 < c.toNat ∧ c.toNat < 128 := by
  simp only [isSchemeChar, isAsciiAlpha, Bool.or_eq_true, Bool.and_eq_true, decide_eq_true_eq, beq_iff_eq,
    Char.le_def, UInt32.le_iff_toNat_le] at h
  change 0x20 < c.val.toNat ∧ c.val.toNat < 128
  obtain ((((⟨hfirst, hlast⟩ | ⟨hfirst, hlast⟩) | ⟨hfirst, hlast⟩) | rfl) | rfl) | rfl := h
  · exact ⟨lt_of_lt_of_le (by decide) hfirst, hlast.trans_lt (by decide)⟩
  · exact ⟨lt_of_lt_of_le (by decide) hfirst, hlast.trans_lt (by decide)⟩
  · exact ⟨lt_of_lt_of_le (by decide) hfirst, hlast.trans_lt (by decide)⟩
  · decide
  · decide
  · decide

/-- The characters a URL keeps. -/
def isKept (c : Char) : Bool := c != '\t' && c != '\r' && c != '\n'

/-- What holds of no removed character holds of kept characters only. -/
theorem isKept_of_holds (holds : Char → Prop) (hremoved : ¬holds '\t' ∧ ¬holds '\r' ∧ ¬holds '\n') {c : Char}
    (h : holds c) : isKept c = true := by
  obtain ⟨htab, hreturn, hnewline⟩ := hremoved
  unfold isKept
  rw [Bool.and_eq_true, Bool.and_eq_true, bne_iff_ne, bne_iff_ne, bne_iff_ne]
  refine ⟨⟨?_, ?_⟩, ?_⟩
  · rintro rfl
    exact htab h
  · rintro rfl
    exact hreturn h
  · rintro rfl
    exact hnewline h

/-- The text that is split: without leading control characters and spaces, tabs and line breaks. -/
def cleaned (text : List Char) : List Char := (text.dropWhile fun c => c.toNat ≤ 0x20).filter isKept

/-- A text that starts with neither and has none is split as it is. -/
theorem cleaned_eq_self {text : List Char} (hkept : ∀ c ∈ text, isKept c = true)
    (hhead : ∀ c ∈ text.head?, 0x20 < c.toNat) : cleaned text = text := by
  have hdrop : text.dropWhile (fun c => c.toNat ≤ 0x20) = text := by
    cases text with
    | nil => rfl
    | cons c text =>
      have hc : 0x20 < c.toNat := hhead c rfl
      rw [List.dropWhile_cons_of_neg (by simpa using hc)]
  rw [cleaned, hdrop, List.filter_eq_self]
  exact hkept

/-- What is split has none of the removed characters. -/
theorem isKept_of_mem_cleaned {text : List Char} : ∀ c ∈ cleaned text, isKept c = true := by
  intro c hc
  exact (List.mem_filter.mp hc).2

/-- What is split does not start with a control character or a space. -/
theorem lt_of_mem_head?_cleaned {text : List Char} : ∀ c ∈ (cleaned text).head?, 0x20 < c.toNat := by
  intro c hc
  unfold cleaned at hc
  cases hdrop : text.dropWhile (fun c => c.toNat ≤ 0x20) with
  | nil => simp [hdrop] at hc
  | cons first rest =>
    have hfirst : 0x20 < first.toNat := by
      have hhead := List.head_dropWhile_not (fun c : Char => decide (c.toNat ≤ 0x20)) (l := text) (by simp [hdrop])
      simpa [hdrop] using hhead
    have hkept : isKept first = true := isKept_of_holds (fun d => 0x20 < d.toNat) (by decide) hfirst
    rw [hdrop, List.filter_cons_of_pos hkept] at hc
    obtain rfl : first = c := by simpa using hc
    exact hfirst

/-- The authority of a URL without its scheme, and what follows it. -/
def splitAuthority (url : List Char) : List Char × List Char :=
  match url with
  | '/' :: '/' :: rest => splitNetloc rest
  | _ => ([], url)

/-- The five components of a cleaned text, before the authority is checked. -/
def splitParts (url : List Char) : SplitResult :=
  let scheme := splitScheme url
  let netloc := splitAuthority scheme.2
  let fragment := partition '#' netloc.2
  let query := partition '?' fragment.1
  ⟨scheme.1, netloc.1, query.1, query.2.getD [], fragment.2.getD []⟩

/-- Splitting succeeds when the authority passes its checks. -/
theorem urlsplit_ok_iff {tables : Tables} {text : String} {parts : SplitResult} :
    urlsplit tables text = .ok parts ↔ splitParts (cleaned text.toList) = parts ∧
      checkBrackets tables parts.netloc = .ok () ∧ checkNetloc tables parts.netloc = .ok () := by
  have hstages : urlsplit tables text = (do
      let parts := splitParts (cleaned text.toList)
      checkBrackets tables parts.netloc
      checkNetloc tables parts.netloc
      .ok parts) := rfl
  rw [hstages]
  constructor
  · intro h
    cases hbrackets : checkBrackets tables (splitParts (cleaned text.toList)).netloc with
    | error e => simp [hbrackets, bind, Except.bind] at h
    | ok _ =>
      cases hnormal : checkNetloc tables (splitParts (cleaned text.toList)).netloc with
      | error e => simp [hbrackets, hnormal, bind, Except.bind] at h
      | ok _ =>
        simp only [hbrackets, hnormal, bind, Except.bind, Except.ok.injEq] at h
        exact ⟨h, h ▸ hbrackets, h ▸ hnormal⟩
  · intro h
    obtain ⟨rfl, hbrackets, hnormal⟩ := h
    simp only [hbrackets, hnormal]
    rfl

/-- What holds of split parts: each component is free of the delimiters that would end it, and where nothing
stands before the path it does not read as something else. -/
structure WellSplit (parts : SplitResult) : Prop where
  scheme : parts.scheme = [] ∨ isSchemeName parts.scheme = true ∧ parts.scheme.map Char.toLower = parts.scheme
  netloc : ∀ c ∈ parts.netloc, (c != '/' && c != '?' && c != '#') = true
  query_free : '?' ∉ parts.path
  fragment_free : '#' ∉ parts.path
  absolute : parts.netloc ≠ [] → parts.path = [] ∨ parts.path.head? = some '/'
  relative : parts.scheme = [] → parts.netloc = [] →
    NoScheme parts.path ∧ ∀ c ∈ parts.path.head?, 0x20 < c.toNat
  kept : ∀ c ∈ parts.scheme ++ parts.netloc ++ parts.path ++ parts.fragment, isKept c = true

/-- A lower-cased scheme name is one, and stays as it is. -/
theorem isSchemeName_map_toLower {name : List Char} (h : isSchemeName name = true) :
    isSchemeName (name.map Char.toLower) = true ∧ (name.map Char.toLower).map Char.toLower = name.map Char.toLower := by
  have hlower {c : Char} (hc : isSchemeChar c = true) : isSchemeChar c.toLower = true ∧ c.toLower.toLower = c.toLower ∧
      isAsciiAlpha c.toLower = isAsciiAlpha c := by
    have hspec := toLower_spec c.toNat (lt_of_isSchemeChar hc).2
    rw [Char.ofNat_toNat] at hspec
    exact hspec hc
  have hchars := forall_mem_of_isSchemeName h
  constructor
  · cases name with
    | nil => exact h
    | cons c name =>
      have hfirst := (Bool.and_eq_true_iff.mp h).1
      rw [List.map_cons, isSchemeName, (hlower (hchars c (List.mem_cons_self))).2.2, hfirst, Bool.true_and,
        ← List.map_cons, List.all_map, List.all_eq_true]
      intro c' hc'
      exact (hlower (hchars c' hc')).1
  · rw [List.map_map]
    apply List.map_congr_left
    intro c hc
    exact (hlower (hchars c hc)).2.1

/-- An authority is free of the delimiters after it, and what follows it is empty or starts with one. -/
theorem splitNetloc_spec (url : List Char) :
    url = (splitNetloc url).1 ++ (splitNetloc url).2 ∧
      (∀ c ∈ (splitNetloc url).1, (c != '/' && c != '?' && c != '#') = true) ∧
      ∀ c ∈ (splitNetloc url).2.head?, (c != '/' && c != '?' && c != '#') = false := by
  refine ⟨List.takeWhile_append_dropWhile.symm, fun c hc => ?_, fun c hc => ?_⟩
  · exact List.mem_takeWhile_imp (p := fun c => c != '/' && c != '?' && c != '#') hc
  · have hhead := List.head?_dropWhile_not (fun c => c != '/' && c != '?' && c != '#') url
    rw [splitNetloc, Option.mem_def] at hc
    rw [hc] at hhead
    exact hhead

/-- A component cut off at a delimiter does not contain it, and both parts are of the text. -/
theorem partition_spec (sep : Char) (text : List Char) :
    sep ∉ (partition sep text).1 ∧ (∃ rest, text = (partition sep text).1 ++ rest) ∧
      ∀ c ∈ (partition sep text).2.getD [], c ∈ text := by
  obtain ⟨hnone, hpartition⟩ | ⟨before, after, rfl, hbefore, hpartition⟩ := partition_cases sep text
  · rw [hpartition]
    exact ⟨hnone, ⟨[], (List.append_nil _).symm⟩, by simp⟩
  · rw [hpartition]
    exact ⟨hbefore, ⟨sep :: after, rfl⟩, fun c hc => by simp at hc; simp [hc]⟩

/-- A scheme is split off with its colon, or there is none. -/
theorem splitScheme_spec (url : List Char) :
    (∃ before, url = before ++ (splitScheme url).2) ∧
      ((splitScheme url).1 = [] ∧ (splitScheme url).2 = url ∧ NoScheme url ∨
        isSchemeName (splitScheme url).1 = true ∧ (splitScheme url).1.map Char.toLower = (splitScheme url).1) := by
  obtain ⟨hnone, hsplit⟩ | ⟨name, rest, rfl, hname, hsplit⟩ := splitScheme_cases url
  · rw [hsplit]
    exact ⟨⟨[], rfl⟩, Or.inl ⟨rfl, rfl, hnone⟩⟩
  · rw [hsplit]
    exact ⟨⟨name ++ [':'], by simp⟩, Or.inr (isSchemeName_map_toLower hname)⟩

/-- An authority is split off with its slashes, or there is none. -/
theorem splitAuthority_spec (url : List Char) :
    (∀ c ∈ (splitAuthority url).1, (c != '/' && c != '?' && c != '#') = true) ∧
      ((splitAuthority url).1 = [] ∧ (splitAuthority url).2 = url ∨
        url = '/' :: '/' :: ((splitAuthority url).1 ++ (splitAuthority url).2) ∧
          ∀ c ∈ (splitAuthority url).2.head?, (c != '/' && c != '?' && c != '#') = false) := by
  unfold splitAuthority
  split
  · rename_i rest
    obtain ⟨hrest, hnetloc, hnext⟩ := splitNetloc_spec rest
    exact ⟨hnetloc, Or.inr ⟨congrArg (fun rest => '/' :: '/' :: rest) hrest, hnext⟩⟩
  · exact ⟨by simp, Or.inl ⟨rfl, rfl⟩⟩

/-- The path is cut off at the query and the fragment, and every part is of the text. -/
theorem splitPath_spec (url : List Char) :
    (∃ rest, url = (partition '?' (partition '#' url).1).1 ++ rest) ∧
      '?' ∉ (partition '?' (partition '#' url).1).1 ∧ '#' ∉ (partition '?' (partition '#' url).1).1 ∧
      ∀ c ∈ (partition '#' url).2.getD [], c ∈ url := by
  obtain ⟨hfragment, ⟨tail, htail⟩, hmem⟩ := partition_spec '#' url
  obtain ⟨hquery, ⟨middle, hmiddle⟩, _⟩ := partition_spec '?' (partition '#' url).1
  refine ⟨⟨middle ++ tail, ?_⟩, hquery, fun h => hfragment ?_, hmem⟩
  · rw [← List.append_assoc, ← hmiddle]
    exact htail
  · rw [hmiddle]
    exact List.mem_append_left middle h

/-- Behind an authority a path is empty or absolute. -/
theorem eq_nil_or_slash {path rest : List Char} (hquery : '?' ∉ path) (hfragment : '#' ∉ path)
    (hnext : ∀ c ∈ (path ++ rest).head?, (c != '/' && c != '?' && c != '#') = false) :
    path = [] ∨ path.head? = some '/' := by
  cases path with
  | nil => exact Or.inl rfl
  | cons c path =>
    have hc := hnext c rfl
    rw [List.mem_cons, not_or] at hquery hfragment
    simp only [bne, Bool.and_eq_false_iff, Bool.not_eq_false', beq_iff_eq] at hc
    obtain (rfl | rfl) | rfl := hc
    · exact Or.inr rfl
    · exact absurd rfl hquery.1
    · exact absurd rfl hfragment.1

/-- An empty or absolute path has no scheme. -/
theorem noScheme_of_nil_or_slash {path : List Char} (h : path = [] ∨ path.head? = some '/') : NoScheme path := by
  obtain rfl | hslash := h
  · exact fun name rest hurl _ => absurd hurl (by simp)
  · obtain ⟨rest, rfl⟩ := List.head?_eq_some_iff.mp hslash
    exact NoScheme.of_slash rest

/-- Scheme characters are kept. -/
theorem isKept_of_isSchemeChar {c : Char} (h : isSchemeChar c = true) : isKept c = true := by
  exact isKept_of_holds (fun d => isSchemeChar d = true) (by decide) h

/-- What splitting a cleaned text returns. -/
theorem wellSplit_splitParts {url : List Char} (hkept : ∀ c ∈ url, isKept c = true)
    (hhead : ∀ c ∈ url.head?, 0x20 < c.toNat) : WellSplit (splitParts url) := by
  obtain ⟨⟨before, hurl⟩, hscheme⟩ := splitScheme_spec url
  obtain ⟨hnetloc, hauthority⟩ := splitAuthority_spec (splitScheme url).2
  obtain ⟨⟨rest, hpath⟩, hquery, hfragment, hmem⟩ := splitPath_spec (splitAuthority (splitScheme url).2).2
  have hafter : ∀ c, c ∈ (splitAuthority (splitScheme url).2).1 ∨ c ∈ (splitAuthority (splitScheme url).2).2 →
      isKept c = true := by
    intro c hc
    apply hkept
    rw [hurl]
    obtain ⟨hnil, hsame⟩ | ⟨hslashes, _⟩ := hauthority
    · rw [hnil, hsame] at hc
      exact List.mem_append_right _ (hc.elim (fun h => absurd h List.not_mem_nil) id)
    · rw [hslashes]
      simp [hc]
  constructor
  · exact hscheme.imp (fun h => h.1) id
  · exact hnetloc
  · exact hquery
  · exact hfragment
  · intro hne
    obtain ⟨hnil, _⟩ | ⟨_, hnext⟩ := hauthority
    · exact absurd hnil hne
    · rw [hpath] at hnext
      exact eq_nil_or_slash hquery hfragment hnext
  · intro hnil hnetlocNil
    obtain ⟨_, hsame, hnone⟩ | ⟨hname, _⟩ := hscheme
    · obtain ⟨_, hwhole⟩ | ⟨_, hnext⟩ := hauthority
      · rw [hwhole, hsame] at hpath
        change NoScheme (partition '?' (partition '#' (splitAuthority (splitScheme url).2).2).1).1 ∧
          ∀ c ∈ (partition '?' (partition '#' (splitAuthority (splitScheme url).2).2).1).1.head?, 0x20 < c.toNat
        rw [hwhole, hsame]
        refine ⟨(hpath ▸ hnone).of_append, fun c hc => hhead c ?_⟩
        rw [hpath, List.head?_append, hc]
        rfl
      · rw [hpath] at hnext
        have hslash := eq_nil_or_slash hquery hfragment hnext
        refine ⟨noScheme_of_nil_or_slash hslash, fun c hc => ?_⟩
        change c ∈ (partition '?' (partition '#' (splitAuthority (splitScheme url).2).2).1).1.head? at hc
        obtain hnone | hsome := hslash
        · rw [hnone] at hc
          contradiction
        · rw [hsome] at hc
          obtain rfl : '/' = c := Option.some.inj hc
          decide
    · change (splitScheme url).1 = [] at hnil
      rw [hnil] at hname
      exact absurd hname (by decide)
  · intro c hc
    change c ∈ (splitScheme url).1 ++ (splitAuthority (splitScheme url).2).1 ++
      (partition '?' (partition '#' (splitAuthority (splitScheme url).2).2).1).1 ++
      (partition '#' (splitAuthority (splitScheme url).2).2).2.getD [] at hc
    rw [List.mem_append, List.mem_append, List.mem_append] at hc
    obtain ((hc | hc) | hc) | hc := hc
    · obtain ⟨hnil, _⟩ | ⟨hname, _⟩ := hscheme
      · rw [hnil] at hc
        exact absurd hc List.not_mem_nil
      · exact isKept_of_isSchemeChar (forall_mem_of_isSchemeName hname c hc)
    · exact hafter c (Or.inl hc)
    · apply hafter c
      rw [hpath]
      exact Or.inr (List.mem_append_left _ hc)
    · exact hafter c (Or.inr (hmem c hc))

/-- An authority ends where a delimiter follows. -/
theorem splitNetloc_append {netloc next : List Char} (hnetloc : ∀ c ∈ netloc, (c != '/' && c != '?' && c != '#') = true)
    (hnext : ∀ c ∈ next.head?, (c != '/' && c != '?' && c != '#') = false) :
    splitNetloc (netloc ++ next) = (netloc, next) := by
  rw [splitNetloc, List.takeWhile_append_of_pos hnetloc, List.dropWhile_append_of_pos hnetloc]
  cases next with
  | nil => simp
  | cons c next =>
    have hc := hnext c rfl
    rw [List.takeWhile_cons_of_neg (by simp only [hc, Bool.false_eq_true, not_false_eq_true]),
      List.dropWhile_cons_of_neg (by simp only [hc, Bool.false_eq_true, not_false_eq_true]), List.append_nil]

/-- A path without an authority before it does not read as one. -/
theorem SplitResult.of_not_writesNetloc {parts : SplitResult} (h : parts.writesNetloc = false) :
    parts.netloc = [] ∧ ['/', '/'].isPrefixOf parts.path = false := by
  rw [SplitResult.writesNetloc, Bool.or_eq_false_iff, Bool.or_eq_false_iff, Bool.not_eq_false',
    List.isEmpty_iff] at h
  exact ⟨h.1.1, h.2⟩

/-- A query does not make a path read as an authority. -/
theorem splitAuthority_append_query {path : List Char} (h : ['/', '/'].isPrefixOf path = false) (tail : List Char) :
    splitAuthority (path ++ '?' :: tail) = ([], path ++ '?' :: tail) := by
  unfold splitAuthority
  split
  · rename_i rest hpath
    exfalso
    match path with
    | [] => simp at hpath
    | [c] => simp at hpath
    | c :: c' :: path =>
      obtain ⟨rfl, rfl, _⟩ : c = '/' ∧ c' = '/' ∧ path ++ '?' :: tail = rest := by simpa using hpath
      simp at h
  · rfl

section Rebuild

variable {parts : SplitResult} (h : WellSplit parts)
include h

/-- The written path is free of the delimiters after it, and behind an authority it is empty or absolute. -/
theorem WellSplit.writtenPath_spec :
    '?' ∉ parts.writtenPath ∧ '#' ∉ parts.writtenPath ∧
      (parts.writesNetloc = true → parts.writtenPath = [] ∨ parts.writtenPath.head? = some '/') := by
  unfold SplitResult.writtenPath
  split
  · exact ⟨by simpa using h.query_free, by simpa using h.fragment_free, fun _ => Or.inr rfl⟩
  · rename_i hkeep
    refine ⟨h.query_free, h.fragment_free, fun hwrites => ?_⟩
    by_cases hnil : parts.path = []
    · exact Or.inl hnil
    · right
      by_contra hslash
      exact hkeep (by simp [hwrites, hnil, hslash])

/-- The location has no scheme of its own. -/
theorem WellSplit.noScheme_location (hscheme : parts.scheme = []) : NoScheme parts.location := by
  unfold SplitResult.location
  split
  · exact NoScheme.of_slash _
  · rename_i hwrites
    exact (h.relative hscheme (SplitResult.of_not_writesNetloc (by simpa using hwrites)).1).1

/-- The authority is split off again. -/
theorem WellSplit.splitAuthority_location (tail : List Char) :
    splitAuthority (parts.location ++ '?' :: tail) = (parts.netloc, parts.writtenPath ++ '?' :: tail) := by
  cases hwrites : parts.writesNetloc with
  | true =>
    rw [SplitResult.location, hwrites, if_pos rfl, List.cons_append, List.cons_append, List.append_assoc]
    apply splitNetloc_append h.netloc
    intro c hc
    obtain hnil | hslash := h.writtenPath_spec.2.2 hwrites
    · rw [hnil] at hc
      obtain rfl : '?' = c := Option.some.inj hc
      decide
    · rw [List.head?_append, hslash] at hc
      obtain rfl : '/' = c := Option.some.inj hc
      decide
  | false =>
    obtain ⟨hnetloc, hpath⟩ := SplitResult.of_not_writesNetloc hwrites
    rw [SplitResult.location, SplitResult.writtenPath, hwrites, hnetloc]
    exact splitAuthority_append_query hpath tail

/-- The scheme is split off again. -/
theorem WellSplit.splitScheme_location (tail : List Char) :
    splitScheme (if parts.scheme.isEmpty then parts.location ++ '?' :: tail
      else parts.scheme ++ ':' :: (parts.location ++ '?' :: tail)) = (parts.scheme, parts.location ++ '?' :: tail) := by
  obtain hnil | ⟨hname, hlower⟩ := h.scheme
  · rw [hnil]
    exact splitScheme_of_noScheme ((h.noScheme_location hnil).append_query tail)
  · have hne : parts.scheme.isEmpty = false := by
      cases hscheme : parts.scheme with
      | nil => simp [hscheme, isSchemeName] at hname
      | cons c name => rfl
    rw [hne, if_neg (by decide), splitScheme_append_cons hname, hlower]

omit h in
/-- The characters of a rebuilt URL whose query is not empty. -/
theorem toList_urlunsplit (hquery : parts.query ≠ []) :
    (urlunsplit parts).toList =
      let tail := parts.query ++ if parts.fragment.isEmpty then [] else '#' :: parts.fragment
      if parts.scheme.isEmpty then parts.location ++ '?' :: tail
      else parts.scheme ++ ':' :: (parts.location ++ '?' :: tail) := by
  have hempty : parts.query.isEmpty = false := by simpa using hquery
  rw [urlunsplit, String.toList_ofList, hempty]
  by_cases hscheme : parts.scheme.isEmpty = true <;> by_cases hfragment : parts.fragment.isEmpty = true <;>
    simp [hscheme, hfragment]

/-- Splitting a rebuilt URL whose query is not empty gives the parts back, with the path as it is written. -/
theorem WellSplit.splitParts_urlunsplit (hquery : parts.query ≠ []) (hfragment : '#' ∉ parts.query) :
    splitParts (urlunsplit parts).toList = { parts with path := parts.writtenPath } := by
  obtain ⟨hqueryFree, hfragmentFree, _⟩ := h.writtenPath_spec
  have hcut : '#' ∉ parts.writtenPath ++ '?' :: parts.query := by simp [hfragmentFree, hfragment]
  have hpartition : partition '#' (parts.writtenPath ++ '?' ::
      (parts.query ++ if parts.fragment.isEmpty then [] else '#' :: parts.fragment)) =
        (parts.writtenPath ++ '?' :: parts.query, if parts.fragment.isEmpty then none else some parts.fragment) := by
    cases hempty : parts.fragment.isEmpty with
    | true =>
      rw [if_pos rfl, if_pos rfl, List.append_nil]
      exact partition_of_notMem hcut
    | false =>
      rw [if_neg (by decide), if_neg (by decide), ← List.cons_append, ← List.append_assoc]
      exact partition_append_cons hcut parts.fragment
  rw [toList_urlunsplit hquery]
  simp only [splitParts, h.splitScheme_location, h.splitAuthority_location, hpartition,
    partition_append_cons hqueryFree, Option.getD_some]
  cases parts.fragment with
  | nil => simp
  | cons c fragment => simp

/-- The location has none of the removed characters. -/
theorem WellSplit.isKept_location : ∀ c ∈ parts.location, isKept c = true := by
  have hpath : ∀ c ∈ parts.path, isKept c = true := fun c hc => h.kept c (by simp [hc])
  have hwritten : ∀ c ∈ parts.writtenPath, isKept c = true := by
    unfold SplitResult.writtenPath
    split
    · rw [List.forall_mem_cons]
      exact ⟨by decide, hpath⟩
    · exact hpath
  unfold SplitResult.location
  split
  · rw [List.forall_mem_cons, List.forall_mem_cons, List.forall_mem_append]
    exact ⟨by decide, by decide, fun c hc => h.kept c (by simp [hc]), hwritten⟩
  · exact hpath

/-- Without a scheme the location does not start with a control character or a space. -/
theorem WellSplit.lt_of_mem_head?_location (hscheme : parts.scheme = []) : ∀ c ∈ parts.location.head?, 0x20 < c.toNat := by
  intro c hc
  cases hwrites : parts.writesNetloc with
  | true =>
    rw [SplitResult.location, hwrites] at hc
    obtain rfl : '/' = c := Option.some.inj hc
    decide
  | false =>
    rw [SplitResult.location, hwrites] at hc
    exact (h.relative hscheme (SplitResult.of_not_writesNetloc hwrites).1).2 c hc

/-- A rebuilt URL whose query is not empty and has none of the removed characters is split as it is. -/
theorem WellSplit.cleaned_urlunsplit (hquery : parts.query ≠ []) (hkept : ∀ c ∈ parts.query, isKept c = true) :
    cleaned (urlunsplit parts).toList = (urlunsplit parts).toList := by
  have hfragment : ∀ c ∈ (if parts.fragment.isEmpty then [] else '#' :: parts.fragment), isKept c = true := by
    split
    · simp
    · rw [List.forall_mem_cons]
      exact ⟨by decide, fun c hc => h.kept c (by simp [hc])⟩
  have hrest : ∀ c ∈ parts.location ++ '?' ::
      (parts.query ++ if parts.fragment.isEmpty then [] else '#' :: parts.fragment), isKept c = true := by
    rw [List.forall_mem_append, List.forall_mem_cons, List.forall_mem_append]
    exact ⟨h.isKept_location, by decide, hkept, hfragment⟩
  rw [toList_urlunsplit hquery]
  cases hscheme : parts.scheme with
  | nil =>
    apply cleaned_eq_self hrest
    intro c hc
    cases hlocation : parts.location with
    | nil =>
      obtain rfl : '?' = c := by simpa [hlocation] using hc
      decide
    | cons first rest =>
      obtain rfl : first = c := by simpa [hlocation] using hc
      exact h.lt_of_mem_head?_location hscheme first (by simp [hlocation])
  | cons first name =>
    have hname : isSchemeName (first :: name) = true := by
      rw [← hscheme]
      exact h.scheme.elim (fun hnil => absurd hnil (by simp [hscheme])) fun hname => hname.1
    apply cleaned_eq_self
    · rw [List.isEmpty_cons, if_neg (by decide), List.forall_mem_append]
      refine ⟨fun c hc => isKept_of_isSchemeChar (forall_mem_of_isSchemeName hname c hc), ?_⟩
      rw [List.forall_mem_cons]
      exact ⟨by decide, hrest⟩
    · intro c hc
      obtain rfl : first = c := by simpa using hc
      exact (lt_of_isSchemeChar (forall_mem_of_isSchemeName hname first List.mem_cons_self)).1

/-- Splitting gives the parts back when their authority passes its checks. -/
theorem WellSplit.urlsplit_urlunsplit {tables : Tables} (hquery : parts.query ≠ [])
    (hkept : ∀ c ∈ parts.query, isKept c = true) (hfragment : '#' ∉ parts.query)
    (hbrackets : checkBrackets tables parts.netloc = .ok ()) (hnormal : checkNetloc tables parts.netloc = .ok ()) :
    urlsplit tables (urlunsplit parts) = .ok { parts with path := parts.writtenPath } := by
  rw [urlsplit_ok_iff, h.cleaned_urlunsplit hquery hkept]
  exact ⟨h.splitParts_urlunsplit hquery hfragment, hbrackets, hnormal⟩

end Rebuild

/-- What splitting returns is well split. -/
theorem wellSplit_of_urlsplit {tables : Tables} {text : String} {parts : SplitResult}
    (h : urlsplit tables text = .ok parts) : WellSplit parts := by
  obtain ⟨rfl, _⟩ := urlsplit_ok_iff.mp h
  exact wellSplit_splitParts isKept_of_mem_cleaned lt_of_mem_head?_cleaned

/-- Behind an authority the path is written as it is. -/
theorem WellSplit.writtenPath_of_netloc {parts : SplitResult} (h : WellSplit parts) (hnetloc : parts.netloc ≠ []) :
    parts.writtenPath = parts.path := by
  unfold SplitResult.writtenPath
  obtain hnil | hslash := h.absolute hnetloc
  · simp [hnil]
  · simp [hslash]

/-- A URL that can be split can be given a new query: it is split into the same parts, with the path as it is
written. -/
theorem urlsplit_urlunsplit_of_ok {tables : Tables} {text : String} {parts : SplitResult}
    (hsplit : urlsplit tables text = .ok parts) {query : List Char} (hquery : query ≠ [])
    (hkept : ∀ c ∈ query, isKept c = true) (hfragment : '#' ∉ query) :
    urlsplit tables (urlunsplit { parts with query := query }) =
      .ok { parts with query := query, path := parts.writtenPath } := by
  obtain ⟨_, hbrackets, hnormal⟩ := urlsplit_ok_iff.mp hsplit
  have hwell : WellSplit { parts with query := query } := { wellSplit_of_urlsplit hsplit with }
  exact hwell.urlsplit_urlunsplit hquery hkept hfragment hbrackets hnormal

end Url
