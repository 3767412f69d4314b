import MultisiteCrawler.Foundation.PythonUrls

/-!
# URLs without secret parts

A plain URL is one of `http` or `https` without user-info, query and fragment.
Such is what `urlunsplit` makes of the scheme, the host name, the port and the
path which `urlsplit` finds, provided that lower-casing a host name adds no
character which delimits a part of a URL.
-/

namespace Foundation.PythonUrls

open Foundation.PythonErrors
open Foundation.PythonText

/-! ## Plain URLs -/

/-- A character which ends user-info or a network location. -/
def isUrlDelimiter (character : Char) : Bool :=
  ['@', '/', '?', '#'].contains character

/-- The schemes of plain URLs. -/
def isHttp (scheme : List Char) : Bool :=
  ["http".toList, "https".toList].contains scheme

/-- A URL of a scheme, a network location without user-info, and a path. -/
inductive IsPlainUrl : List Char → Prop where
  | mk {scheme location path : List Char}
      (scheme_isHttp : isHttp scheme = true)
      (named : location ≠ [])
      (plain : ∀ character ∈ location, isUrlDelimiter character = false)
      (rooted : path = [] ∨ path.head? = some '/')
      (ends : ∀ character ∈ path, character ≠ '?' ∧ character ≠ '#') :
      IsPlainUrl (scheme ++ ':' :: '/' :: '/' :: (location ++ path))

/-- A plain URL has no query. -/
theorem IsPlainUrl.not_mem {url : List Char} (plain : IsPlainUrl url) :
    '?' ∉ url := by
  cases plain with
  | @mk scheme location path scheme_isHttp named plain rooted ends =>
      intro member
      rcases List.mem_append.mp member with inScheme | inRest
      · have known := List.contains_iff_mem.mp scheme_isHttp
        rcases List.mem_pair.mp known with rfl | rfl
        · exact absurd inScheme (by decide)
        · exact absurd inScheme (by decide)
      · have inParts : '?' ∈ location ++ path := by simpa using inRest
        rcases List.mem_append.mp inParts with inLocation | inPath
        · exact absurd (plain '?' inLocation) (by decide)
        · exact (ends '?' inPath).1 rfl

/-- Lower-casing a text adds no delimiter. -/
def DelimitersKept (rules : UnicodeRules) : Prop :=
  ∀ text character, isUrlDelimiter character = true →
    character ∈ rules.lower text → character ∈ text

theorem delimitersKept_asciiRules : DelimitersKept asciiRules := by
  intro text character delimits member
  rcases List.mem_map.mp member with ⟨original, isOriginal, isLower⟩
  unfold lowerAscii at isLower
  split_ifs at isLower with isUpper
  · have letter :
        isUrlDelimiter (Char.ofNat (original.toNat + 32)) = false := by
      have bounds := isUpper
      generalize original.toNat = code at bounds
      rcases bounds with ⟨low, high⟩
      interval_cases code <;> rfl
    rw [isLower, delimits] at letter
    cases letter
  · rw [← isLower]
    exact isOriginal

/-! ## Parts of a split URL -/

section Parts

variable {separator character : Char} {text : List Char}

theorem mem_of_mem_partition_fst
    (member : character ∈ (partition separator text).1) : character ∈ text :=
  (List.takeWhile_sublist _).subset member

theorem mem_of_mem_partition_snd
    (member : character ∈ (partition separator text).2) : character ∈ text :=
  (List.dropWhile_sublist _).subset (List.mem_of_mem_drop member)

theorem ne_of_mem_partition_fst
    (member : character ∈ (partition separator text).1) :
    character ≠ separator := by
  have different := List.mem_takeWhile_imp member
  simpa using different

theorem mem_of_mem_afterLast
    (member : character ∈ afterLast separator text) : character ∈ text :=
  (List.rtakeWhile_suffix _ _).subset member

theorem ne_of_mem_afterLast
    (member : character ∈ afterLast separator text) :
    character ≠ separator := by
  have different := List.mem_rtakeWhile_imp member
  simpa using different

end Parts

theorem mem_splitNetloc_fst
    {url : List Char} {character : Char}
    (member : character ∈ (splitNetloc url).1) :
    endsNetloc character = false := by
  unfold splitNetloc at member
  split at member
  · have inside := List.mem_takeWhile_imp member
    simpa using inside
  · cases member

section Split

variable {rules : UrlRules} {url : List Char} {parsed : SplitResult}

theorem netloc_of_urlsplit
    (isSplit : urlsplit rules url = .ok parsed)
    {character : Char} (member : character ∈ parsed.netloc) :
    endsNetloc character = false := by
  rw [urlsplit] at isSplit
  split_ifs at isSplit
  cases isSplit
  exact mem_splitNetloc_fst member

theorem path_of_urlsplit
    (isSplit : urlsplit rules url = .ok parsed)
    {character : Char} (member : character ∈ parsed.path) :
    character ≠ '?' ∧ character ≠ '#' := by
  rw [urlsplit] at isSplit
  split_ifs at isSplit
  cases isSplit
  constructor
  · exact ne_of_mem_partition_fst member
  · exact ne_of_mem_partition_fst (mem_of_mem_partition_fst member)

theorem mem_hostInfo_fst
    {netloc : List Char} {character : Char}
    (member : character ∈ (hostInfo netloc).1) :
    character ∈ afterLast '@' netloc := by
  unfold hostInfo at member
  simp only at member
  split_ifs at member
  · exact mem_of_mem_partition_snd (mem_of_mem_partition_fst member)
  · exact mem_of_mem_partition_fst member

theorem mem_hostname
    (kept : DelimitersKept rules.toUnicodeRules) {netloc : List Char}
    {character : Char} (delimits : isUrlDelimiter character = true)
    (member : character ∈ hostname rules netloc) :
    character ∈ afterLast '@' netloc := by
  apply mem_hostInfo_fst
  rcases List.mem_append.mp member with isLower | isZone
  · exact (List.takeWhile_sublist _).subset
      (kept _ _ delimits isLower)
  · exact (List.dropWhile_sublist _).subset isZone

/-- The host name of a split URL has no delimiter. -/
theorem hostname_plain
    (kept : DelimitersKept rules.toUnicodeRules)
    (isSplit : urlsplit rules url = .ok parsed) {character : Char}
    (member : character ∈ hostname rules parsed.netloc) :
    isUrlDelimiter character = false := by
  by_contra delimits
  rw [Bool.not_eq_false] at delimits
  have inHost := mem_hostname kept delimits member
  have inside := netloc_of_urlsplit isSplit (mem_of_mem_afterLast inHost)
  have notAt := ne_of_mem_afterLast inHost
  simp only [isUrlDelimiter, endsNetloc, List.contains_eq_mem, List.mem_cons,
    List.not_mem_nil, or_false, decide_eq_true_eq, decide_eq_false_iff_not,
    not_or] at delimits inside
  rcases delimits with isAt | isSlash | isQuery | isFragment
  · exact notAt isAt
  · exact inside.1 isSlash
  · exact inside.2.1 isQuery
  · exact inside.2.2 isFragment

end Split

theorem isUrlDelimiter_of_isDigit
    {character : Char} (digit : character.isDigit = true) :
    isUrlDelimiter character = false := by
  by_contra delimits
  rw [Bool.not_eq_false, isUrlDelimiter, List.contains_eq_mem,
    decide_eq_true_eq] at delimits
  simp only [List.mem_cons, List.not_mem_nil, or_false] at delimits
  rcases delimits with rfl | rfl | rfl | rfl <;> cases digit

/-- A host name followed by a port, if there is one. -/
theorem location_plain
    {host : List Char} {port : Option ℕ}
    (plain : ∀ character ∈ host, isUrlDelimiter character = false) :
    ∀ character ∈
        (match port with
        | none => host
        | some number => host ++ ':' :: Nat.toDigits 10 number),
      isUrlDelimiter character = false := by
  cases port with
  | none => exact plain
  | some number =>
      intro character member
      rcases List.mem_append.mp member with inHost | inPort
      · exact plain character inHost
      · rcases List.mem_cons.mp inPort with rfl | isDigit
        · rfl
        · exact isUrlDelimiter_of_isDigit
            (Nat.isDigit_of_mem_toDigits (by decide) (by decide) isDigit)

/-! ## Joined URLs -/

/-- Without query and fragment, the joined URL is plain. -/
theorem isPlainUrl_urlunsplit
    {scheme location path : List Char} (scheme_isHttp : isHttp scheme = true)
    (named : location ≠ [])
    (plain : ∀ character ∈ location, isUrlDelimiter character = false)
    (ends : ∀ character ∈ path, character ≠ '?' ∧ character ≠ '#') :
    IsPlainUrl (urlunsplit ⟨scheme, location, path, [], []⟩) := by
  have isScheme : scheme.isEmpty = false := by
    rcases List.mem_pair.mp (List.contains_iff_mem.mp scheme_isHttp) with
      rfl | rfl
    · rfl
    · rfl
  unfold urlunsplit
  simp only [List.isEmpty_nil, if_true, isScheme, Bool.false_eq_true, if_false]
  split_ifs with rooted
  · refine .mk scheme_isHttp named plain ?_ ends
    rw [Bool.or_eq_true, List.isEmpty_iff, beq_iff_eq] at rooted
    exact rooted
  · refine .mk scheme_isHttp named plain (Or.inr rfl) ?_
    intro character member
    rcases List.mem_cons.mp member with rfl | inPath
    · decide
    · exact ends character inPath

end Foundation.PythonUrls
