import MultisiteCrawler.Foundation.JsonLimits
import MultisiteCrawler.Observability.EventLines

/-!
# Redaction on an interpreter with limits

`redact_value` opens a frame for every value inside another one, and
`json.dumps` writes neither too deep values nor too long integers.  Within
these limits both do what they do without any; beyond them an exception is
raised.

How many frames are needed, how deep the result is and which integers are in
it can be told from the value: nothing below a sensitive key is looked at.
-/

namespace MultisiteCrawler.Observability

open Foundation.AwareTime
open Foundation.JsonLimits
open Foundation.JsonOrder
open Foundation.JsonText
open Foundation.PythonErrors
open Foundation.PythonUrls

/-! ## Frames -/

/-- The limits of an interpreter, and what is left of its stack. -/
structure Interpreter (Object : Type) extends InterpreterLimits where
  /-- How many frames can be opened for a call of `redact_value`. -/
  frames : ℕ
  /-- How many frames are opened for what such a call calls, itself apart. -/
  helpers : Option String → PyValue Object → ℕ

/-- A call with so many frames left, of which the first is its own. -/
def enter {Result : Type} (frames helpers : ℕ)
    (inside : ℕ → Except PyError Result) : Except PyError Result :=
  match frames with
  | 0 => .error recursionError
  | remaining + 1 =>
      if helpers ≤ remaining then inside remaining else .error recursionError

theorem enter_eq_ok_iff
    {Result : Type} {frames helpers : ℕ}
    {inside : ℕ → Except PyError Result} {result : Result} :
    enter frames helpers inside = .ok result ↔
      ∃ remaining, frames = remaining + 1 ∧ helpers ≤ remaining ∧
        inside remaining = .ok result := by
  cases frames with
  | zero => simp [enter]
  | succ remaining =>
      rw [enter]
      split_ifs with enough
      · constructor
        · intro returned
          exact ⟨remaining, rfl, enough, returned⟩
        · rintro ⟨_, ⟨⟩, _, returned⟩
          exact returned
      · refine iff_of_false not_false ?_
        rintro ⟨_, ⟨⟩, fits, _⟩
        exact enough fits

section Frames

variable (rules : UrlRules) {Object : Type}
variable (helpers : Option String → PyValue Object → ℕ)

mutual

/-- `redact_value`, with so many frames left. -/
def redactWithin (frames : ℕ) (key : Option String) :
    PyValue Object → Except PyError Json
  | .mapping members =>
      enter frames (helpers key (.mapping members)) fun remaining =>
        unlessSensitive rules key
          ((redactMembersWithin remaining members).map .obj)
  | .list items =>
      enter frames (helpers key (.list items)) fun remaining =>
        unlessSensitive rules key
          ((redactItemsWithin remaining items).map .arr)
  | .tuple items =>
      enter frames (helpers key (.tuple items)) fun remaining =>
        unlessSensitive rules key
          ((redactItemsWithin remaining items).map .arr)
  | value =>
      enter frames (helpers key value) fun _ => redactValue rules key value

/-- The items of a sequence, without a key. -/
def redactItemsWithin (frames : ℕ) :
    List (PyValue Object) → Except PyError (List Json)
  | [] => .ok []
  | item :: rest => do
      let first ← redactWithin frames none item
      let others ← redactItemsWithin frames rest
      .ok (first :: others)

/-- The members of a mapping, each with its key. -/
def redactMembersWithin (frames : ℕ) :
    List (String × PyValue Object) → Except PyError (List (String × Json))
  | [] => .ok []
  | (key, value) :: rest => do
      let first ← redactWithin frames (some key) value
      let others ← redactMembersWithin frames rest
      .ok ((key, first) :: others)

end

/-- Nothing is needed for what is below a sensitive key. -/
def unlessHidden (key : Option String) (needed : ℕ) : ℕ :=
  if key.any (isSensitiveKey rules) then 0 else needed

mutual

/-- How many frames `redact_value` needs. -/
def framesNeeded (key : Option String) : PyValue Object → ℕ
  | .mapping members =>
      max (helpers key (.mapping members))
          (unlessHidden rules key (framesForMembers members)) + 1
  | .list items =>
      max (helpers key (.list items))
          (unlessHidden rules key (framesForItems items)) + 1
  | .tuple items =>
      max (helpers key (.tuple items))
          (unlessHidden rules key (framesForItems items)) + 1
  | value => helpers key value + 1

/-- The most frames needed for an item. -/
def framesForItems : List (PyValue Object) → ℕ
  | [] => 0
  | item :: rest => max (framesNeeded none item) (framesForItems rest)

/-- The most frames needed for a member. -/
def framesForMembers : List (String × PyValue Object) → ℕ
  | [] => 0
  | (key, value) :: rest =>
      max (framesNeeded (some key) value) (framesForMembers rest)

end

end Frames

/-! ## What is shown -/

section Shown

variable (rules : UrlRules) {Object : Type}

mutual

/-- The depth of a value, down to its sensitive keys. -/
def shownDepth (key : Option String) : PyValue Object → ℕ
  | .mapping members =>
      unlessHidden rules key (shownDepthMembers members + 1)
  | .list items => unlessHidden rules key (shownDepthItems items + 1)
  | .tuple items => unlessHidden rules key (shownDepthItems items + 1)
  | _ => 0

/-- The greatest depth of an item. -/
def shownDepthItems : List (PyValue Object) → ℕ
  | [] => 0
  | item :: rest => max (shownDepth none item) (shownDepthItems rest)

/-- The greatest depth of a member. -/
def shownDepthMembers : List (String × PyValue Object) → ℕ
  | [] => 0
  | (key, value) :: rest =>
      max (shownDepth (some key) value) (shownDepthMembers rest)

end

variable (limits : InterpreterLimits)

/-- A key is sensitive, or what is below it is short. -/
def hiddenOr (key : Option String) (short : Bool) : Bool :=
  key.any (isSensitiveKey rules) || short

mutual

/-- No integer has more digits than are written, sensitive keys apart. -/
def showsShortIntegers (key : Option String) : PyValue Object → Bool
  | .int value => hiddenOr rules key (!limits.isLong value)
  | .mapping members => hiddenOr rules key (showsShortMembers members)
  | .list items => hiddenOr rules key (showsShortItems items)
  | .tuple items => hiddenOr rules key (showsShortItems items)
  | _ => true

/-- `showsShortIntegers` for every item. -/
def showsShortItems : List (PyValue Object) → Bool
  | [] => true
  | item :: rest => showsShortIntegers none item && showsShortItems rest

/-- `showsShortIntegers` for every member. -/
def showsShortMembers : List (String × PyValue Object) → Bool
  | [] => true
  | (key, value) :: rest =>
      showsShortIntegers (some key) value && showsShortMembers rest

end

end Shown

/-! ## Enough frames -/

section Enough

variable {rules : UrlRules} {Object : Type}
variable {frames needed inner : ℕ} {key : Option String} {result : Json}

/-- Any call for a value which is not looked into. -/
theorem enter_scalar_iff {outcome : Except PyError Json} :
    (enter frames needed fun _ => outcome) = .ok result ↔
      outcome = .ok result ∧ needed + 1 ≤ frames := by
  rw [enter_eq_ok_iff]
  constructor
  · rintro ⟨remaining, rfl, enough, returned⟩
    exact ⟨returned, Nat.succ_le_succ enough⟩
  · rintro ⟨returned, enough⟩
    exact ⟨frames - 1, by omega, by omega, returned⟩

/-- A call for a value whose parts are redacted with the remaining frames. -/
theorem enter_container_iff
    {Part : Type} {make : Part → Json} {within : ℕ → Except PyError Part}
    {outcome : Except PyError Part}
    (same : ∀ remaining part,
      within remaining = .ok part ↔ outcome = .ok part ∧ inner ≤ remaining) :
    (enter frames needed fun remaining =>
        unlessSensitive rules key ((within remaining).map make)) =
          .ok result ↔
      unlessSensitive rules key (outcome.map make) = .ok result ∧
        max needed (unlessHidden rules key inner) + 1 ≤ frames := by
  unfold unlessSensitive unlessHidden
  split_ifs with sensitive
  · rw [enter_scalar_iff, max_eq_left (Nat.zero_le needed)]
  · simp only [enter_eq_ok_iff, map_eq_ok_iff, same]
    constructor
    · rintro ⟨remaining, rfl, enough, part, ⟨returned, fits⟩, made⟩
      exact
        ⟨⟨part, returned, made⟩, Nat.succ_le_succ (max_le enough fits)⟩
    · rintro ⟨⟨part, returned, made⟩, enough⟩
      exact
        ⟨frames - 1, by omega, by omega, part, ⟨returned, by omega⟩, made⟩

variable {helpers : Option String → PyValue Object → ℕ}

mutual

/-- With enough frames the result is the same, and otherwise there is none. -/
theorem redactWithin_eq_ok_iff
    {frames : ℕ} {key : Option String} {result : Json} :
    (value : PyValue Object) →
      (redactWithin rules helpers frames key value = .ok result ↔
        redactValue rules key value = .ok result ∧
          framesNeeded rules helpers key value ≤ frames)
  | .mapping members =>
      enter_container_iff fun _ _ => redactMembersWithin_eq_ok_iff members
  | .list items =>
      enter_container_iff fun _ _ => redactItemsWithin_eq_ok_iff items
  | .tuple items =>
      enter_container_iff fun _ _ => redactItemsWithin_eq_ok_iff items
  | .null => enter_scalar_iff
  | .bool _ => enter_scalar_iff
  | .int _ => enter_scalar_iff
  | .float _ => enter_scalar_iff
  | .nonFinite _ => enter_scalar_iff
  | .str _ => enter_scalar_iff
  | .other _ => enter_scalar_iff

theorem redactItemsWithin_eq_ok_iff
    {frames : ℕ} :
    (items : List (PyValue Object)) → {results : List Json} →
      (redactItemsWithin rules helpers frames items = .ok results ↔
        redactItems rules items = .ok results ∧
          framesForItems rules helpers items ≤ frames)
  | [], _ => by simp [redactItemsWithin, redactItems, framesForItems]
  | item :: rest, _ => by
      simp only [redactItemsWithin, redactItems, framesForItems,
        bind_eq_ok_iff, redactWithin_eq_ok_iff item,
        redactItemsWithin_eq_ok_iff rest, max_le_iff]
      tauto

theorem redactMembersWithin_eq_ok_iff
    {frames : ℕ} :
    (members : List (String × PyValue Object)) →
      {results : List (String × Json)} →
      (redactMembersWithin rules helpers frames members = .ok results ↔
        redactMembers rules members = .ok results ∧
          framesForMembers rules helpers members ≤ frames)
  | [], _ => by simp [redactMembersWithin, redactMembers, framesForMembers]
  | (key, value) :: rest, _ => by
      simp only [redactMembersWithin, redactMembers, framesForMembers,
        bind_eq_ok_iff, redactWithin_eq_ok_iff value,
        redactMembersWithin_eq_ok_iff rest, max_le_iff]
      tauto

end

end Enough

/-! ## The result has what is shown -/

section Results

variable {rules : UrlRules} {Object : Type} (limits : InterpreterLimits)

/-- How deep a result is, and whether its integers are short. -/
structure HasShape (depths : ℕ) (short : Bool) (result : Json) : Prop where
  depth : depth result = depths
  short : hasShortIntegers limits result = short

variable {limits} {key : Option String} {result : Json}

/-- What is shown of a value has its shape, unless its key is sensitive. -/
theorem hasShape_unlessSensitive
    {shown : Except PyError Json} {depths : ℕ} {short : Bool}
    (shaped : ∀ value, shown = .ok value → HasShape limits depths short value)
    (returned : unlessSensitive rules key shown = .ok result) :
    HasShape limits (unlessHidden rules key depths)
      (hiddenOr rules key short) result := by
  unfold unlessSensitive at returned
  unfold unlessHidden hiddenOr
  split_ifs at returned ⊢ with sensitive
  · cases returned
    exact ⟨rfl, by rw [sensitive]; rfl⟩
  · rw [eq_false_of_ne_true sensitive]
    exact shaped result returned

/-- What has one shape whatever its key is. -/
theorem hasShape_flat
    {shown : Except PyError Json}
    (shaped : ∀ value, shown = .ok value → HasShape limits 0 true value)
    (returned : unlessSensitive rules key shown = .ok result) :
    HasShape limits 0 true result := by
  have shape := hasShape_unlessSensitive shaped returned
  rwa [unlessHidden, ite_self, hiddenOr, Bool.or_true] at shape

theorem hasShape_str
    {text : String}
    (returned : redactValue rules key (.str text : PyValue Object) =
      .ok result) :
    HasShape limits 0 true result := by
  refine hasShape_flat ?_ returned
  intro value isShown
  split_ifs at isShown
  · rcases map_eq_ok_iff.mp isShown with ⟨url, _, rfl⟩
    exact ⟨rfl, rfl⟩
  · cases isShown
    exact ⟨rfl, rfl⟩

/-- The shape of a value which is shown as it is. -/
theorem hasShape_constant
    {constant : Json} {short : Bool}
    (shaped : HasShape limits 0 short constant)
    (returned : unlessSensitive rules key (.ok constant) = .ok result) :
    HasShape limits 0 (hiddenOr rules key short) result := by
  have shape :=
    hasShape_unlessSensitive
      (fun value (isValue : Except.ok constant = .ok value) =>
        Except.ok.inj isValue ▸ shaped)
      returned
  rwa [unlessHidden, ite_self] at shape

theorem hasShape_int (value : ℤ) :
    HasShape limits 0 (!limits.isLong value) (.int value) := by
  have isShort :
      hasShortIntegers limits (.int value) =
        (if limits.isLong value then some DumpFault.digits
          else none).isNone := rfl
  refine ⟨rfl, ?_⟩
  rw [isShort]
  cases limits.isLong value <;> rfl

mutual

/-- The result has the shape which can be told from the value. -/
theorem hasShape_redactValue
    {key : Option String} {result : Json} :
    (value : PyValue Object) → redactValue rules key value = .ok result →
      HasShape limits (shownDepth rules key value)
        (showsShortIntegers rules limits key value) result
  | .str _, returned => hasShape_str returned
  | .null, returned =>
      hasShape_flat (fun _ isValue => Except.ok.inj isValue ▸ ⟨rfl, rfl⟩)
        returned
  | .bool _, returned =>
      hasShape_flat (fun _ isValue => Except.ok.inj isValue ▸ ⟨rfl, rfl⟩)
        returned
  | .int value, returned => hasShape_constant (hasShape_int value) returned
  | .float _, returned =>
      hasShape_flat (fun _ isValue => Except.ok.inj isValue ▸ ⟨rfl, rfl⟩)
        returned
  | .nonFinite _, returned =>
      hasShape_flat (fun _ isValue => Except.ok.inj isValue ▸ ⟨rfl, rfl⟩)
        returned
  | .other _, returned =>
      hasShape_flat (fun _ isValue => Except.ok.inj isValue ▸ ⟨rfl, rfl⟩)
        returned
  | .mapping members, returned => by
      refine hasShape_unlessSensitive ?_ returned
      intro value isShown
      rcases map_eq_ok_iff.mp isShown with ⟨results, isResults, rfl⟩
      have ⟨depths, short⟩ := shape_redactMembers members isResults
      exact ⟨congrArg (· + 1) depths, short⟩
  | .list items, returned => by
      refine hasShape_unlessSensitive ?_ returned
      intro value isShown
      rcases map_eq_ok_iff.mp isShown with ⟨results, isResults, rfl⟩
      have ⟨depths, short⟩ := shape_redactItems items isResults
      exact ⟨congrArg (· + 1) depths, short⟩
  | .tuple items, returned => by
      refine hasShape_unlessSensitive ?_ returned
      intro value isShown
      rcases map_eq_ok_iff.mp isShown with ⟨results, isResults, rfl⟩
      have ⟨depths, short⟩ := shape_redactItems items isResults
      exact ⟨congrArg (· + 1) depths, short⟩

theorem shape_redactItems :
    (items : List (PyValue Object)) → {results : List Json} →
      redactItems rules items = .ok results →
        depthItems results = shownDepthItems rules items ∧
          allScalarsItems (isWritable limits true) results =
            showsShortItems rules limits items
  | [], _, returned => by
      cases returned
      exact ⟨rfl, rfl⟩
  | item :: rest, _, returned => by
      rw [redactItems, bind_eq_ok_iff] at returned
      rcases returned with ⟨first, isFirst, returned⟩
      rw [bind_eq_ok_iff] at returned
      rcases returned with ⟨others, isOthers, isResults⟩
      cases isResults
      have ⟨firstDepth, firstShort⟩ := hasShape_redactValue item isFirst
      have ⟨otherDepths, otherShort⟩ := shape_redactItems rest isOthers
      exact
        ⟨congrArg₂ max firstDepth otherDepths,
          congrArg₂ and firstShort otherShort⟩

theorem shape_redactMembers :
    (members : List (String × PyValue Object)) →
      {results : List (String × Json)} →
      redactMembers rules members = .ok results →
        depthMembers results = shownDepthMembers rules members ∧
          allScalarsMembers (isWritable limits true) results =
            showsShortMembers rules limits members
  | [], _, returned => by
      cases returned
      exact ⟨rfl, rfl⟩
  | (key, value) :: rest, _, returned => by
      rw [redactMembers, bind_eq_ok_iff] at returned
      rcases returned with ⟨first, isFirst, returned⟩
      rw [bind_eq_ok_iff] at returned
      rcases returned with ⟨others, isOthers, isResults⟩
      cases isResults
      have ⟨firstDepth, firstShort⟩ := hasShape_redactValue value isFirst
      have ⟨otherDepths, otherShort⟩ := shape_redactMembers rest isOthers
      exact
        ⟨congrArg₂ max firstDepth otherDepths,
          congrArg₂ and firstShort otherShort⟩

end

end Results

/-! ## Lines within the limits -/

section Lines

variable (rules : FormatRules) {Object : Type}
variable (interpreter : Interpreter Object)

/-- The line of the fields of a run event. -/
def fieldsLineWithin (fields : List (String × Json)) :
    Except PyError String :=
  dumpsWithin interpreter.toInterpreterLimits compactStyle
    (sortKeys (.obj fields))

/-- The line of a run event, with its redacted extra data if there is any. -/
def eventLineWithin (timestamp levelname : String)
    (event : LoggedEvent Object) : Except PyError String :=
  let fields := fixedFields rules timestamp levelname event.toRunEvent
  if event.extra.isEmpty then fieldsLineWithin interpreter fields
  else do
    let details ←
      redactWithin rules.toUrlRules interpreter.helpers interpreter.frames
        none (.mapping event.extra)
    fieldsLineWithin interpreter (fields ++ [("details", details)])

/-- `JsonEventFormatter.format`, on an interpreter with limits. -/
def formatRecordWithin (record : LogRecord Object) :
    Except PyError String := do
  let created ← rules.fromtimestamp record.created
  match record.runEvent with
  | none =>
      dumpsWithin interpreter.toInterpreterLimits compactStyle
        (.obj
          [("timestamp", .str (created.isoformat rules.zones)),
            ("level", .str record.levelname),
            ("event", .str "unstructured_log_suppressed")])
  | some event =>
      eventLineWithin rules interpreter (created.isoformat rules.zones)
        record.levelname event

/-- The number of items of an event can be written. -/
def HasShortCount (event : RunEvent) : Prop :=
  ∀ count ∈ event.itemCount, interpreter.isLong count = false

variable {rules interpreter}
variable {timestamp levelname : String}

variable (rules interpreter) in
/-- What a value needs to be redacted, and written below a key. -/
structure WithinLimits (value : PyValue Object) : Prop where
  frames :
    framesNeeded rules.toUrlRules interpreter.helpers none value ≤
      interpreter.frames
  nests :
    max 1 (shownDepth rules.toUrlRules none value) < interpreter.nesting
  short :
    showsShortIntegers rules.toUrlRules interpreter.toInterpreterLimits none
      value = true

/-- The redacted value can be written below a key. -/
theorem WithinLimits.fits
    {value : PyValue Object} {result : Json}
    (within : WithinLimits rules interpreter value)
    (returned : redactValue rules.toUrlRules none value = .ok result) :
    depth result + 1 ≤ interpreter.nesting ∧
      hasShortIntegers interpreter.toInterpreterLimits result = true := by
  have shape :
      HasShape interpreter.toInterpreterLimits _ _ result :=
    hasShape_redactValue value returned
  rw [shape.depth, shape.short]
  exact ⟨(max_lt_iff.mp within.nests).2, within.short⟩

end Lines

end MultisiteCrawler.Observability
