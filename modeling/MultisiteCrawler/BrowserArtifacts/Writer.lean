import MultisiteCrawler.BrowserArtifacts.Sanitizer
import MultisiteCrawler.Foundation.PythonErrors

/-!
# Failure artifacts

What `BrowserArtifactWriter.write_failure` checks and writes.  A source id
must match `[a-z0-9_]+`, the fragment must be a single table, and a screenshot
must begin with the signature of a PNG file; the screenshot is checked when
the fragment has been written already.
-/

namespace MultisiteCrawler.BrowserArtifacts

open Foundation.Markup
open Foundation.PythonErrors
open Foundation.PythonText

/-- What a `BrowserOperationError` carries. -/
structure BrowserFailure where
  message : String
  sourceId : String
  safeHtml : Option String
  /-- The content of a `RedactedPng`, if there is one. -/
  redactedPng : Option (List UInt8)
deriving DecidableEq

/-- `BrowserFailureArtifact`, with the names of the files. -/
structure BrowserFailureArtifact where
  htmlPath : String
  screenshotPath : Option String

/-- What the writer uses of the standard library. -/
structure WriterSurroundings where
  rules : UnicodeRules
  /-- The calls an `HTMLParser` makes for a text. -/
  parse : String → Except PyError (List Event)
  /-- `uuid4().hex`. -/
  artifactId : String
  writeText : String → Text → Except PyError Unit
  writeBytes : String → List UInt8 → Except PyError Unit

/-- A character of `[a-z0-9_]`. -/
def isArtifactSourceChar (character : Char) : Bool :=
  ('a' ≤ character && character ≤ 'z') ||
    ('0' ≤ character && character ≤ '9') || character == '_'

/-- `_SOURCE_ID_PATTERN`. -/
def matchesArtifactSource (text : String) : Bool :=
  fullmatch isArtifactSourceChar text

/-- `_validate_source_id`. -/
def validateSourceId (sourceId : String) : Except PyError Unit :=
  if matchesArtifactSource sourceId then .ok ()
  else .error (.value "source_id must match [a-z0-9_]+")

/-- The first bytes of a PNG file. -/
def pngSignature : List UInt8 :=
  [0x89, 0x50, 0x4e, 0x47, 0x0d, 0x0a, 0x1a, 0x0a]

section Writer

variable (surroundings : WriterSurroundings)

/-- `_validate_safe_html`. -/
def validateSafeHtml (safeHtml : Option String) : Except PyError String :=
  match safeHtml with
  | none => .error (.value "safe fragment is required")
  | some html =>
      let fragment := strip html
      if fragment = "" then
        .error
          (.value
            "safe fragment must be an adapter-supplied table fragment")
      else do
        let events ← surroundings.parse fragment
        if isValid surroundings.rules events then .ok fragment
        else
          .error
            (.value
              "safe fragment must be an adapter-supplied single <table> root")

/-- The name of a file of an artifact. -/
def artifactPath (sourceId suffix : String) : String :=
  sourceId ++ "_" ++ surroundings.artifactId ++ suffix

/-- `_write_redacted_png`. -/
def writeRedactedPng (sourceId : String)
    (screenshot : Option (List UInt8)) : Except PyError (Option String) :=
  match screenshot with
  | none => .ok none
  | some content =>
      if pngSignature.isPrefixOf content then do
        let path := artifactPath surroundings sourceId ".png"
        surroundings.writeBytes path content
        .ok (some path)
      else .error (.value "redacted screenshot must be a PNG")

/-- `BrowserArtifactWriter.write_failure`. -/
def writeFailure (sourceId : String) (safeHtml : Option String)
    (screenshot : Option (List UInt8)) :
    Except PyError BrowserFailureArtifact := do
  validateSourceId sourceId
  let fragment ← validateSafeHtml surroundings safeHtml
  let events ← surroundings.parse fragment
  let htmlPath := artifactPath surroundings sourceId ".html"
  surroundings.writeText htmlPath (sanitize surroundings.rules events)
  let screenshotPath ← writeRedactedPng surroundings sourceId screenshot
  .ok ⟨htmlPath, screenshotPath⟩

/-! ## Accepted failures -/

/-- The fragment is a single table and can be written. -/
def FragmentWritten (sourceId : String) (safeHtml : Option String) : Prop :=
  ∃ html events,
    safeHtml = some html ∧ strip html ≠ "" ∧
      surroundings.parse (strip html) = .ok events ∧
      isValid surroundings.rules events = true ∧
      surroundings.writeText (artifactPath surroundings sourceId ".html")
        (sanitize surroundings.rules events) = .ok ()

/-- A screenshot, if there is one, is a PNG and can be written. -/
def ScreenshotWritten (sourceId : String)
    (screenshot : Option (List UInt8)) : Prop :=
  ∀ content, screenshot = some content →
    pngSignature <+: content ∧
      surroundings.writeBytes (artifactPath surroundings sourceId ".png")
        content = .ok ()

/-- A failure which is written without an exception. -/
structure Accepts (sourceId : String) (safeHtml : Option String)
    (screenshot : Option (List UInt8)) : Prop where
  source : matchesArtifactSource sourceId = true
  fragment : FragmentWritten surroundings sourceId safeHtml
  screenshot : ScreenshotWritten surroundings sourceId screenshot

variable {surroundings}

theorem validateSourceId_eq_ok_iff (sourceId : String) (reply : Unit) :
    validateSourceId sourceId = .ok reply ↔
      matchesArtifactSource sourceId = true := by
  rw [validateSourceId]
  split_ifs with accepted
  · exact iff_of_true rfl accepted
  · exact iff_of_false nofun accepted

theorem validateSafeHtml_eq_ok_iff
    (safeHtml : Option String) (fragment : String) :
    validateSafeHtml surroundings safeHtml = .ok fragment ↔
      ∃ html events,
        safeHtml = some html ∧ strip html ≠ "" ∧ strip html = fragment ∧
          surroundings.parse fragment = .ok events ∧
          isValid surroundings.rules events = true := by
  cases safeHtml with
  | none => exact iff_of_false nofun fun ⟨_, _, absent, _⟩ => by cases absent
  | some html =>
      rw [validateSafeHtml]
      split_ifs with blank
      · refine iff_of_false nofun ?_
        rintro ⟨_, _, ⟨⟩, nonblank, _⟩
        exact nonblank blank
      · rw [bind_eq_ok_iff]
        constructor
        · rintro ⟨events, parsed, accepted⟩
          split_ifs at accepted with valid
          cases accepted
          exact ⟨html, events, rfl, blank, rfl, parsed, valid⟩
        · rintro ⟨_, events, ⟨⟩, _, rfl, parsed, valid⟩
          exact ⟨events, parsed, if_pos valid⟩

theorem writeRedactedPng_isOk_iff
    (sourceId : String) (screenshot : Option (List UInt8)) :
    (∃ path, writeRedactedPng surroundings sourceId screenshot = .ok path) ↔
      ScreenshotWritten surroundings sourceId screenshot := by
  cases screenshot with
  | none => exact iff_of_true ⟨none, rfl⟩ fun _ absent => by cases absent
  | some content =>
      simp only [ScreenshotWritten, Option.some.injEq, forall_eq',
        ← List.isPrefixOf_iff_prefix]
      rw [writeRedactedPng]
      split_ifs with signed
      · simp only [signed, true_and, bind_eq_ok_iff]
        constructor
        · rintro ⟨_, _, written, _⟩
          exact written
        · intro written
          exact ⟨_, (), written, rfl⟩
      · simp [signed]

/-- Exactly the accepted failures are written. -/
theorem writeFailure_isOk_iff
    (sourceId : String) (safeHtml : Option String)
    (screenshot : Option (List UInt8)) :
    (∃ artifact,
        writeFailure surroundings sourceId safeHtml screenshot =
          .ok artifact) ↔
      Accepts surroundings sourceId safeHtml screenshot := by
  simp only [writeFailure, bind_eq_ok_iff, validateSourceId_eq_ok_iff,
    validateSafeHtml_eq_ok_iff]
  constructor
  · rintro ⟨_, _, source, fragment, ⟨html, events, rfl, nonblank, rfl, parsed,
      valid⟩, _, parsedAgain, _, written, path, png, _⟩
    rw [parsed] at parsedAgain
    cases parsedAgain
    exact ⟨source, ⟨html, events, rfl, nonblank, parsed, valid, written⟩,
      (writeRedactedPng_isOk_iff sourceId screenshot).mp ⟨path, png⟩⟩
  · rintro ⟨source, ⟨html, events, rfl, nonblank, parsed, valid, written⟩,
      shot⟩
    rcases (writeRedactedPng_isOk_iff sourceId screenshot).mpr shot with
      ⟨path, png⟩
    exact ⟨_, (), source, strip html,
      ⟨html, events, rfl, nonblank, rfl, parsed, valid⟩, events, parsed, (),
      written, path, png, rfl⟩

end Writer

end MultisiteCrawler.BrowserArtifacts
