import Mathlib.Data.List.TakeWhile
import Mathlib.Order.Lattice
import Mathlib.Tactic

/-!
# Civil dates and times

The proleptic Gregorian calendar from year 1 to year 9999 and the ISO 8601
texts of its dates and times, as Python's `datetime` has them.

A naive datetime is a count of microseconds, so that comparison and addition
are those of numbers.  Its calendar fields are computed from the count, and
`ofFields_fields` shows that they determine it.  On top of this,
`readIso_isoformat` reads the ISO text of a naive datetime back.
-/

namespace Foundation.CivilTime

/-! ## The calendar -/

/-- Leap years. -/
def isLeap (year : ℕ) : Bool :=
  year % 4 == 0 && (year % 100 != 0 || year % 400 == 0)

/-- The lengths of the twelve months. -/
def monthLengths (leap : Bool) : List ℕ :=
  [31, 28 + leap.toNat, 31, 30, 31, 30, 31, 31, 30, 31, 30, 31]

/-- The number of days of a month, none for a month which does not exist. -/
def daysInMonth (leap : Bool) (month : ℕ) : ℕ :=
  (monthLengths leap).getD (month - 1) 0

/-- Days of the year before the first of the month. -/
def daysBeforeMonth (leap : Bool) (month : ℕ) : ℕ :=
  ((monthLengths leap).take (month - 1)).sum

/-- Days before the first of January. -/
def daysBeforeYear (year : ℕ) : ℕ :=
  (year - 1) * 365 + (year - 1) / 4 - (year - 1) / 100 + (year - 1) / 400

/-- Find the month containing a day, and the days before it in the month. -/
def locate : List ℕ → ℕ → ℕ × ℕ
  | [], day => (0, day)
  | length :: rest, day =>
      if day < length then (0, day)
      else ((locate rest (day - length)).1 + 1,
        (locate rest (day - length)).2)

theorem locate_spec
    (lengths : List ℕ) (day : ℕ) (bound : day < lengths.sum) :
    (locate lengths day).1 < lengths.length ∧
      (lengths.take (locate lengths day).1).sum +
          (locate lengths day).2 = day ∧
      (locate lengths day).2 < lengths.getD (locate lengths day).1 0 := by
  induction lengths generalizing day with
  | nil => simp at bound
  | cons length rest induction =>
      rw [List.sum_cons] at bound
      by_cases here : day < length
      · simp [locate, here]
      · rcases induction (day - length) (by omega) with
          ⟨index, total, remainder⟩
        simp only [locate, if_neg here, List.length_cons,
          List.take_succ_cons, List.sum_cons, List.getD_cons_succ]
        exact ⟨by omega, by omega, remainder⟩

/-- A calendar date. -/
structure Date where
  year : ℕ
  month : ℕ
  day : ℕ
deriving DecidableEq, Repr

/-- The dates Python accepts. -/
def Date.Valid (date : Date) : Prop :=
  1 ≤ date.year ∧ date.year ≤ 9999 ∧
    1 ≤ date.month ∧ date.month ≤ 12 ∧
    1 ≤ date.day ∧ date.day ≤ daysInMonth (isLeap date.year) date.month

instance (date : Date) : Decidable date.Valid := by
  unfold Date.Valid
  infer_instance

/-- Days from 0001-01-01 to a date. -/
def Date.toDays (date : Date) : ℕ :=
  daysBeforeYear date.year +
    daysBeforeMonth (isLeap date.year) date.month + (date.day - 1)

/-- The date of a day of a year, both counted from their start. -/
def Date.ofYearDay (year dayOfYear : ℕ) : Date :=
  let found := locate (monthLengths (isLeap year)) dayOfYear
  ⟨year, found.1 + 1, found.2 + 1⟩

/-- The date a number of days after 0001-01-01. -/
def Date.ofDays (days : ℕ) : Date :=
  let n400 := days / 146097
  let n100 := days % 146097 / 36524
  let n4 := days % 146097 % 36524 / 1461
  let n1 := days % 146097 % 36524 % 1461 / 365
  let years := n400 * 400 + n100 * 100 + n4 * 4 + n1
  if n1 = 4 ∨ n100 = 4 then ⟨years, 12, 31⟩
  else Date.ofYearDay (years + 1) (days % 146097 % 36524 % 1461 % 365)

/-- The number of days from 0001-01-01 to 9999-12-31, both included. -/
def calendarDays : ℕ := 3652059

theorem monthLengths_sum (leap : Bool) :
    (monthLengths leap).sum = 365 + leap.toNat := by
  cases leap <;> rfl

theorem ofYearDay_spec
    (year dayOfYear : ℕ) (first : 1 ≤ year) (last : year ≤ 9999)
    (bound : dayOfYear < 365 + (isLeap year).toNat) :
    (Date.ofYearDay year dayOfYear).Valid ∧
      (Date.ofYearDay year dayOfYear).toDays =
        daysBeforeYear year + dayOfYear := by
  rw [← monthLengths_sum] at bound
  rcases locate_spec _ _ bound with ⟨index, total, remainder⟩
  have twelve : (monthLengths (isLeap year)).length = 12 := rfl
  rw [twelve] at index
  constructor
  · refine ⟨first, last, ?_, ?_, ?_, ?_⟩
    · exact Nat.le_add_left 1 _
    · exact index
    · exact Nat.le_add_left 1 _
    · exact remainder
  · simp only [Date.toDays, Date.ofYearDay, daysBeforeMonth,
      Nat.add_sub_cancel]
    omega

theorem isLeap_iff (year : ℕ) :
    isLeap year = true ↔
      year % 4 = 0 ∧ (year % 100 ≠ 0 ∨ year % 400 = 0) := by
  simp [isLeap]

/-- The days before a year written in its four-hundred-year cycle. -/
theorem daysBeforeYear_cycle
    (n400 n100 n4 n1 : ℕ) (century : n100 ≤ 3) (group : n4 ≤ 24)
    (single : n1 ≤ 3) :
    daysBeforeYear (n400 * 400 + n100 * 100 + n4 * 4 + n1 + 1) =
      n400 * 146097 + n100 * 36524 + n4 * 1461 + n1 * 365 := by
  unfold daysBeforeYear
  omega

theorem isLeap_cycle
    (n400 n100 n4 n1 : ℕ) (century : n100 ≤ 3) (group : n4 ≤ 24)
    (single : n1 ≤ 3) :
    isLeap (n400 * 400 + n100 * 100 + n4 * 4 + n1 + 1) = true ↔
      n1 = 3 ∧ (n4 ≠ 24 ∨ n100 = 3) := by
  rw [isLeap_iff]
  omega

/-- The last day of a leap year, which the cycle counts separately. -/
theorem lastDay_spec
    (n400 n100 n4 year : ℕ) (century : n100 ≤ 3) (group : n4 ≤ 24)
    (leap : n4 ≠ 24 ∨ n100 = 3)
    (yearEq : year = n400 * 400 + n100 * 100 + n4 * 4 + 3 + 1)
    (last : year ≤ 9999) :
    Date.Valid ⟨year, 12, 31⟩ ∧
      Date.toDays ⟨year, 12, 31⟩ =
        n400 * 146097 + n100 * 36524 + n4 * 1461 + 1460 := by
  have isLeapYear : isLeap year = true := by
    rw [yearEq]
    exact (isLeap_cycle n400 n100 n4 3 century group le_rfl).mpr
      ⟨rfl, leap⟩
  have before :
      daysBeforeYear year =
        n400 * 146097 + n100 * 36524 + n4 * 1461 + 3 * 365 := by
    rw [yearEq]
    exact daysBeforeYear_cycle n400 n100 n4 3 century group le_rfl
  constructor
  · have positive : 1 ≤ year := by omega
    refine ⟨positive, last, by norm_num, by norm_num, by norm_num, ?_⟩
    have december : daysInMonth true 12 = 31 := rfl
    simp only [isLeapYear, december, le_refl]
  · have december : daysBeforeMonth true 12 = 335 := rfl
    simp only [Date.toDays, isLeapYear, before, december]

/-- Every day of the calendar is the day of its date. -/
theorem ofDays_spec (days : ℕ) (bound : days < calendarDays) :
    (Date.ofDays days).Valid ∧ (Date.ofDays days).toDays = days := by
  unfold calendarDays at bound
  unfold Date.ofDays
  obtain ⟨n400, cycle400⟩ : ∃ n, n = days / 146097 := ⟨_, rfl⟩
  obtain ⟨n100, cycle100⟩ : ∃ n, n = days % 146097 / 36524 := ⟨_, rfl⟩
  obtain ⟨n4, cycle4⟩ : ∃ n, n = days % 146097 % 36524 / 1461 := ⟨_, rfl⟩
  obtain ⟨n1, cycle1⟩ :
      ∃ n, n = days % 146097 % 36524 % 1461 / 365 := ⟨_, rfl⟩
  obtain ⟨day, dayEq⟩ :
      ∃ n, n = days % 146097 % 36524 % 1461 % 365 := ⟨_, rfl⟩
  simp only [← cycle400, ← cycle100, ← cycle4, ← cycle1, ← dayEq]
  split_ifs with last
  · by_cases century : n100 = 4
    · rcases lastDay_spec n400 3 24 (n400 * 400 + n100 * 100 + n4 * 4 + n1)
          le_rfl le_rfl (Or.inr rfl) (by omega) (by omega) with
        ⟨valid, total⟩
      exact ⟨valid, total.trans (by omega)⟩
    · rcases lastDay_spec n400 n100 n4 (n400 * 400 + n100 * 100 + n4 * 4 + n1)
          (by omega) (by omega) (by omega) (by omega) (by omega) with
        ⟨valid, total⟩
      exact ⟨valid, total.trans (by omega)⟩
  · have century : n100 ≤ 3 := by omega
    have group : n4 ≤ 24 := by omega
    have single : n1 ≤ 3 := by omega
    have before := daysBeforeYear_cycle n400 n100 n4 n1 century group single
    rcases ofYearDay_spec (n400 * 400 + n100 * 100 + n4 * 4 + n1 + 1) day
        (Nat.le_add_left 1 _) (by omega) (by omega) with
      ⟨valid, total⟩
    exact ⟨valid, by rw [total, before]; omega⟩

/-! ## Naive datetimes -/

/-- Microseconds in a day. -/
def dayMicroseconds : ℕ := 86400000000

/--
A datetime without a timezone, as the microseconds since
0001-01-01T00:00:00.
-/
structure NaiveDateTime where
  microseconds : ℕ
  bound : microseconds < calendarDays * dayMicroseconds
deriving DecidableEq

/-- The calendar has a first moment. -/
theorem zero_lt_calendar : 0 < calendarDays * dayMicroseconds := by
  decide

namespace NaiveDateTime

theorem microseconds_injective :
    Function.Injective NaiveDateTime.microseconds := by
  rintro ⟨left, _⟩ ⟨right, _⟩ equal
  cases equal
  rfl

instance : LinearOrder NaiveDateTime :=
  LinearOrder.lift' NaiveDateTime.microseconds microseconds_injective

theorem le_iff (left right : NaiveDateTime) :
    left ≤ right ↔ left.microseconds ≤ right.microseconds := Iff.rfl

/--
`value + timedelta(seconds=seconds)`; `none` is the `OverflowError` of a
result outside the calendar.
-/
def addSeconds (value : NaiveDateTime) (seconds : ℤ) :
    Option NaiveDateTime :=
  if bound :
      (value.microseconds + seconds * 1000000).toNat <
          calendarDays * dayMicroseconds ∧
        0 ≤ value.microseconds + seconds * 1000000
  then some ⟨(value.microseconds + seconds * 1000000).toNat, bound.1⟩
  else none

/-- What a successful addition returns. -/
theorem addSeconds_eq_some_iff
    (value result : NaiveDateTime) (seconds : ℤ) :
    value.addSeconds seconds = some result ↔
      (result.microseconds : ℤ) =
        value.microseconds + seconds * 1000000 := by
  have resultBound := result.bound
  unfold addSeconds
  split_ifs with bound
  · rw [Option.some.injEq, ← microseconds_injective.eq_iff]
    constructor
    · intro equal
      rw [← equal]
      exact Int.toNat_of_nonneg bound.2
    · intro equal
      simp only [← equal, Int.toNat_natCast]
  · constructor
    · intro impossible
      cases impossible
    · intro equal
      exact (bound (by
        rw [← equal, Int.toNat_natCast]
        exact ⟨resultBound, Int.natCast_nonneg _⟩)).elim

/-- The datetime at a count of microseconds, if the calendar has it. -/
def ofMicroseconds (count : ℤ) : Option NaiveDateTime :=
  if bound :
      count.toNat < calendarDays * dayMicroseconds ∧ 0 ≤ count
  then some ⟨count.toNat, bound.1⟩
  else none

theorem ofMicroseconds_eq_none_iff (count : ℤ) :
    ofMicroseconds count = none ↔
      count < 0 ∨ calendarDays * dayMicroseconds ≤ count := by
  rw [ofMicroseconds, dite_eq_right_iff]
  simp only [reduceCtorEq, imp_false, calendarDays, dayMicroseconds]
  omega

/-- Adding a positive number of seconds moves forward. -/
theorem lt_of_addSeconds
    (value result : NaiveDateTime) (seconds : ℤ) (positive : 0 < seconds)
    (added : value.addSeconds seconds = some result) :
    value < result := by
  rw [addSeconds_eq_some_iff] at added
  rw [← not_le, le_iff]
  omega

end NaiveDateTime

/-! ## Calendar fields -/

/-- The fields of a datetime. -/
structure Fields where
  date : Date
  hour : ℕ
  minute : ℕ
  second : ℕ
  microsecond : ℕ
deriving DecidableEq, Repr

/-- The fields Python accepts. -/
def Fields.Valid (fields : Fields) : Prop :=
  fields.date.Valid ∧ fields.hour < 24 ∧ fields.minute < 60 ∧
    fields.second < 60 ∧ fields.microsecond < 1000000

instance (fields : Fields) : Decidable fields.Valid := by
  unfold Fields.Valid
  infer_instance

/-- The count the fields denote. -/
def Fields.toMicroseconds (fields : Fields) : ℕ :=
  fields.date.toDays * dayMicroseconds +
    (fields.hour * 3600 + fields.minute * 60 + fields.second) * 1000000 +
    fields.microsecond

/-- The calendar fields of a datetime. -/
def NaiveDateTime.fields (value : NaiveDateTime) : Fields where
  date := Date.ofDays (value.microseconds / dayMicroseconds)
  hour := value.microseconds % dayMicroseconds / 3600000000
  minute := value.microseconds % dayMicroseconds / 60000000 % 60
  second := value.microseconds % dayMicroseconds / 1000000 % 60
  microsecond := value.microseconds % 1000000

/--
The datetime of its fields; `none` is the `ValueError` of a field out of
range.  The bound holds of all valid fields.
-/
def NaiveDateTime.ofFields (fields : Fields) : Option NaiveDateTime :=
  if valid :
      fields.Valid ∧
        fields.toMicroseconds < calendarDays * dayMicroseconds
  then some ⟨fields.toMicroseconds, valid.2⟩
  else none

theorem NaiveDateTime.fields_spec (value : NaiveDateTime) :
    value.fields.Valid ∧ value.fields.toMicroseconds = value.microseconds := by
  have bound := value.bound
  have days : value.microseconds / dayMicroseconds < calendarDays :=
    Nat.div_lt_of_lt_mul (by rw [Nat.mul_comm]; exact bound)
  rcases ofDays_spec _ days with ⟨dateValid, dateDays⟩
  have inDay : value.microseconds % dayMicroseconds < 86400000000 :=
    Nat.mod_lt _ (by decide)
  constructor
  · refine ⟨dateValid, ?_, Nat.mod_lt _ (by decide),
      Nat.mod_lt _ (by decide), Nat.mod_lt _ (by decide)⟩
    exact Nat.div_lt_of_lt_mul inDay
  · simp only [Fields.toMicroseconds, NaiveDateTime.fields, dateDays]
    have split :
        dayMicroseconds * (value.microseconds / dayMicroseconds) +
            value.microseconds % dayMicroseconds =
          value.microseconds :=
      Nat.div_add_mod _ _
    unfold dayMicroseconds at split inDay ⊢
    omega

/-- A datetime is determined by its fields. -/
theorem NaiveDateTime.ofFields_fields (value : NaiveDateTime) :
    NaiveDateTime.ofFields value.fields = some value := by
  rcases value.fields_spec with ⟨valid, count⟩
  have bound := value.bound
  rw [← count] at bound
  rw [NaiveDateTime.ofFields, dif_pos ⟨valid, bound⟩, Option.some.injEq]
  exact NaiveDateTime.microseconds_injective count

/-! ## Fixed-width digits -/

/-- The last `width` decimal digits of a number. -/
def digitsText : ℕ → ℕ → List Char
  | 0, _ => []
  | width + 1, value =>
      digitsText width (value / 10) ++ [Nat.digitChar (value % 10)]

/-- Exactly `width` decimal digits. -/
def readDigits (width : ℕ) (text : List Char) : Option (ℕ × List Char) :=
  if (text.take width).length = width ∧
      (text.take width).all Char.isDigit = true then
    some (Nat.ofDigitChars 10 (text.take width) 0, text.drop width)
  else none

@[simp]
theorem digitsText_length (width value : ℕ) :
    (digitsText width value).length = width := by
  induction width generalizing value with
  | zero => rfl
  | succ width induction => simp [digitsText, induction]

theorem digitsText_all_isDigit (width value : ℕ) :
    (digitsText width value).all Char.isDigit = true := by
  induction width generalizing value with
  | zero => rfl
  | succ width induction =>
      have small : value % 10 < 10 := Nat.mod_lt _ (by decide)
      have digit : (Nat.digitChar (value % 10)).isDigit = true := by
        interval_cases value % 10 <;> decide
      simp [digitsText, List.all_append, induction, digit]

theorem ofDigitChars_digitsText
    (width value : ℕ) (small : value < 10 ^ width) :
    Nat.ofDigitChars 10 (digitsText width value) 0 = value := by
  induction width generalizing value with
  | zero =>
      have zero : value = 0 := by simpa using small
      subst zero
      rfl
  | succ width induction =>
      have quotient : value / 10 < 10 ^ width := by
        rw [Nat.pow_succ] at small
        omega
      rw [digitsText, Nat.ofDigitChars_append, induction _ quotient,
        Nat.ofDigitChars_cons_digitChar_of_lt_ten
          (Nat.mod_lt _ (by decide)),
        Nat.ofDigitChars_nil]
      omega

/-- Fixed-width digits are read back. -/
theorem readDigits_digitsText
    (width value : ℕ) (small : value < 10 ^ width) (rest : List Char) :
    readDigits width (digitsText width value ++ rest) =
      some (value, rest) := by
  have taken :
      (digitsText width value ++ rest).take width =
        digitsText width value :=
    List.take_left' (digitsText_length width value)
  have dropped : (digitsText width value ++ rest).drop width = rest :=
    List.drop_left' (digitsText_length width value)
  rw [readDigits, taken, dropped,
    if_pos ⟨digitsText_length _ _, digitsText_all_isDigit _ _⟩,
    ofDigitChars_digitsText _ _ small]

/-! ## ISO 8601 texts -/

/-- A UTC offset of whole seconds, less than a day either way. -/
structure UtcOffset where
  seconds : ℤ
  bound : -86400 < seconds ∧ seconds < 86400
deriving DecidableEq

/-- `datetime.isoformat()` of a naive datetime. -/
def isoformat (value : NaiveDateTime) : List Char :=
  digitsText 4 value.fields.date.year ++
    '-' :: (digitsText 2 value.fields.date.month ++
    '-' :: (digitsText 2 value.fields.date.day ++
    'T' :: (digitsText 2 value.fields.hour ++
    ':' :: (digitsText 2 value.fields.minute ++
    ':' :: (digitsText 2 value.fields.second ++
      if value.fields.microsecond = 0 then []
      else '.' :: digitsText 6 value.fields.microsecond)))))

/-- The text `isoformat` appends for a UTC offset. -/
def offsetText (offset : UtcOffset) : List Char :=
  let magnitude := offset.seconds.natAbs
  (if offset.seconds < 0 then '-' else '+') ::
    (digitsText 2 (magnitude / 3600) ++
    ':' :: (digitsText 2 (magnitude / 60 % 60) ++
      if magnitude % 60 = 0 then []
      else ':' :: digitsText 2 (magnitude % 60)))

/-- Consume one given character. -/
def expect (character : Char) : List Char → Option (List Char)
  | first :: rest => if first = character then some rest else none
  | [] => none

/-- The offset of its sign, hours, minutes and seconds. -/
def offsetOf (negative : Bool) (hours minutes seconds : ℕ) :
    Option UtcOffset :=
  let total : ℤ := hours * 3600 + minutes * 60 + seconds
  let signed := if negative then -total else total
  if bound : -86400 < signed ∧ signed < 86400 then
    if minutes < 60 ∧ seconds < 60 then some ⟨signed, bound⟩ else none
  else none

/-- A UTC offset without its sign, up to the end of the text. -/
def readOffset (negative : Bool) (text : List Char) : Option UtcOffset := do
  let (hours, rest) ← readDigits 2 text
  let rest ← expect ':' rest
  let (minutes, rest) ← readDigits 2 rest
  let (seconds, rest) ←
    match rest with
    | ':' :: rest => readDigits 2 rest
    | rest => some (0, rest)
  if rest = [] then offsetOf negative hours minutes seconds else none

/-- What may follow the time: nothing, `Z` or a signed offset. -/
def readZone : List Char → Option (Option UtcOffset)
  | [] => some none
  | ['Z'] => some (some ⟨0, by decide⟩)
  | '+' :: rest => (readOffset false rest).map some
  | '-' :: rest => (readOffset true rest).map some
  | _ => none

/--
The fraction of a second, its digits beyond the sixth ignored.
-/
def readFraction : List Char → Option (ℕ × List Char)
  | '.' :: rest =>
      let digits := rest.takeWhile Char.isDigit
      if digits = [] then none
      else
        some
          (Nat.ofDigitChars 10
              ((digits ++ List.replicate 6 '0').take 6) 0,
            rest.dropWhile Char.isDigit)
  | rest => some (0, rest)

/-- Hours, minutes, seconds and microseconds. -/
def readTime (text : List Char) :
    Option ((ℕ × ℕ × ℕ × ℕ) × List Char) := do
  let (hour, rest) ← readDigits 2 text
  match rest with
  | ':' :: rest => do
      let (minute, rest) ← readDigits 2 rest
      match rest with
      | ':' :: rest => do
          let (second, rest) ← readDigits 2 rest
          let (microsecond, rest) ← readFraction rest
          some ((hour, minute, second, microsecond), rest)
      | rest => some ((hour, minute, 0, 0), rest)
  | rest => some ((hour, 0, 0, 0), rest)

/--
`datetime.fromisoformat` on the extended calendar form, the only one
`isoformat` writes: a naive datetime and its offset, if any.
-/
def readIso (text : List Char) :
    Option (NaiveDateTime × Option UtcOffset) := do
  let (year, rest) ← readDigits 4 text
  let rest ← expect '-' rest
  let (month, rest) ← readDigits 2 rest
  let rest ← expect '-' rest
  let (day, rest) ← readDigits 2 rest
  let ((hour, minute, second, microsecond), rest) ←
    match rest with
    | [] => some ((0, 0, 0, 0), [])
    | _separator :: rest => readTime rest
  let value ←
    NaiveDateTime.ofFields
      ⟨⟨year, month, day⟩, hour, minute, second, microsecond⟩
  let offset ← readZone rest
  some (value, offset)

@[simp]
theorem expect_cons (character : Char) (rest : List Char) :
    expect character (character :: rest) = some rest := by
  simp [expect]

/-- A text which cannot be taken for the rest of a time. -/
def StopsTime (text : List Char) : Prop :=
  ∀ character ∈ text.head?, character.isDigit = false ∧ character ≠ '.'

/-- The fraction `isoformat` writes is read back. -/
theorem readFraction_text
    (microsecond : ℕ) (small : microsecond < 1000000)
    (rest : List Char) (stops : StopsTime rest) :
    readFraction
        ((if microsecond = 0 then []
          else '.' :: digitsText 6 microsecond) ++ rest) =
      some (microsecond, rest) := by
  split_ifs with zero
  · cases rest with
    | nil => rw [zero]; rfl
    | cons character rest =>
        have noFraction : character ≠ '.' := (stops character rfl).2
        rw [List.nil_append, readFraction, zero]
        rintro tail equal
        exact noFraction (List.cons.inj equal).1
  · have all : ∀ character ∈ digitsText 6 microsecond,
        character.isDigit = true :=
      List.all_eq_true.mp (digitsText_all_isDigit 6 microsecond)
    have length := digitsText_length 6 microsecond
    have nonempty : digitsText 6 microsecond ≠ [] := by
      intro empty
      rw [empty] at length
      cases length
    have stopped :
        rest.takeWhile Char.isDigit = [] ∧
          rest.dropWhile Char.isDigit = rest := by
      cases rest with
      | nil => exact ⟨rfl, rfl⟩
      | cons character rest =>
          have noDigit := (stops character rfl).1
          simp [noDigit]
    have taken :
        (digitsText 6 microsecond ++ rest).takeWhile Char.isDigit =
          digitsText 6 microsecond := by
      rw [List.takeWhile_append_of_pos all, stopped.1, List.append_nil]
    have dropped :
        (digitsText 6 microsecond ++ rest).dropWhile Char.isDigit =
          rest := by
      rw [List.dropWhile_append_of_pos all, stopped.2]
    simp only [List.cons_append, readFraction, taken, dropped,
      if_neg nonempty, List.take_left' length,
      ofDigitChars_digitsText 6 microsecond small]

/-- The longest month has 31 days. -/
theorem daysInMonth_le (leap : Bool) (month : ℕ) :
    daysInMonth leap month ≤ 31 := by
  unfold daysInMonth
  rcases Nat.lt_or_ge (month - 1) 12 with small | large
  · cases leap <;> interval_cases month - 1 <;> decide
  · rw [List.getD_eq_getElem?_getD, List.getElem?_eq_none large]
    exact Nat.zero_le _

/-- The ISO text of a naive datetime is read back, whatever zone follows. -/
theorem readIso_isoformat_append
    (value : NaiveDateTime) (zone : List Char) (stops : StopsTime zone) :
    readIso (isoformat value ++ zone) =
      (readZone zone).map fun offset => (value, offset) := by
  rcases value.fields_spec with
    ⟨⟨dateValid, hour, minute, second, microsecond⟩, _⟩
  rcases dateValid with ⟨_, year, _, month, _, day⟩
  have dayBound : value.fields.date.day < 10 ^ 2 :=
    lt_of_le_of_lt (day.trans (daysInMonth_le _ _)) (by decide)
  have hourText := readDigits_digitsText 2 value.fields.hour
    (lt_trans hour (by decide))
  have minuteText := readDigits_digitsText 2 value.fields.minute
    (lt_trans minute (by decide))
  have secondText := readDigits_digitsText 2 value.fields.second
    (lt_trans second (by decide))
  have time :
      readTime
          (digitsText 2 value.fields.hour ++
            ':' :: (digitsText 2 value.fields.minute ++
            ':' :: (digitsText 2 value.fields.second ++
              ((if value.fields.microsecond = 0 then []
              else '.' :: digitsText 6 value.fields.microsecond) ++
              zone)))) =
        some
          ((value.fields.hour, value.fields.minute, value.fields.second,
            value.fields.microsecond), zone) := by
    simp only [readTime, hourText, minuteText, secondText,
      readFraction_text _ microsecond zone stops, Option.bind_eq_bind,
      Option.bind_some]
  have yearText := readDigits_digitsText 4 value.fields.date.year
    (lt_of_le_of_lt year (by decide))
  have monthText := readDigits_digitsText 2 value.fields.date.month
    (lt_of_le_of_lt month (by decide))
  have dayText := readDigits_digitsText 2 value.fields.date.day dayBound
  simp only [readIso, isoformat, List.append_assoc, List.cons_append,
    yearText, monthText, dayText, time, expect_cons, Option.bind_eq_bind,
    Option.bind_some]
  rw [show
    (⟨⟨value.fields.date.year, value.fields.date.month,
        value.fields.date.day⟩, value.fields.hour, value.fields.minute,
      value.fields.second, value.fields.microsecond⟩ : Fields) =
      value.fields from rfl, NaiveDateTime.ofFields_fields]
  cases readZone zone <;> rfl

/-- The ISO text of a naive datetime is read back. -/
theorem readIso_isoformat (value : NaiveDateTime) :
    readIso (isoformat value) = some (value, none) := by
  have read := readIso_isoformat_append value []
    (fun _ member => by simp at member)
  rwa [List.append_nil] at read

theorem offsetOf_seconds (offset : UtcOffset) :
    offsetOf (decide (offset.seconds < 0))
        (offset.seconds.natAbs / 3600) (offset.seconds.natAbs / 60 % 60)
        (offset.seconds.natAbs % 60) =
      some offset := by
  have total :
      (if decide (offset.seconds < 0) then
          -(((offset.seconds.natAbs / 3600 : ℕ) : ℤ) * 3600 +
            ((offset.seconds.natAbs / 60 % 60 : ℕ) : ℤ) * 60 +
            ((offset.seconds.natAbs % 60 : ℕ) : ℤ))
        else
          ((offset.seconds.natAbs / 3600 : ℕ) : ℤ) * 3600 +
            ((offset.seconds.natAbs / 60 % 60 : ℕ) : ℤ) * 60 +
            ((offset.seconds.natAbs % 60 : ℕ) : ℤ)) = offset.seconds := by
    by_cases negative : offset.seconds < 0
    · simp only [negative, decide_true, if_true]
      omega
    · simp only [negative, decide_false, Bool.false_eq_true, if_false]
      omega
  have inRange :
      offset.seconds.natAbs / 60 % 60 < 60 ∧
        offset.seconds.natAbs % 60 < 60 :=
    ⟨Nat.mod_lt _ (by decide), Nat.mod_lt _ (by decide)⟩
  have choose :
      ∀ signed : ℤ, signed = offset.seconds →
        (if bound : -86400 < signed ∧ signed < 86400 then
          some (⟨signed, bound⟩ : UtcOffset) else none) = some offset := by
    rintro _ rfl
    exact dif_pos offset.bound
  unfold offsetOf
  simp only [if_pos inRange]
  exact choose _ total

/-- The text of a UTC offset is read back. -/
theorem readZone_offsetText (offset : UtcOffset) :
    readZone (offsetText offset) = some (some offset) := by
  have bound := offset.bound
  have hourText := readDigits_digitsText 2 (offset.seconds.natAbs / 3600)
    (by omega)
  have minuteText :=
    readDigits_digitsText 2 (offset.seconds.natAbs / 60 % 60) (by omega)
  have secondText := readDigits_digitsText 2 (offset.seconds.natAbs % 60)
    (by omega) []
  rw [List.append_nil] at secondText
  have read :
      readOffset (decide (offset.seconds < 0))
          (digitsText 2 (offset.seconds.natAbs / 3600) ++
            ':' :: (digitsText 2 (offset.seconds.natAbs / 60 % 60) ++
              if offset.seconds.natAbs % 60 = 0 then []
              else ':' :: digitsText 2 (offset.seconds.natAbs % 60))) =
        some offset := by
    simp only [readOffset, hourText, expect_cons, minuteText,
      Option.bind_eq_bind, Option.bind_some]
    rw [← offsetOf_seconds offset]
    split_ifs with whole
    · rw [whole]
      rfl
    · simp only [secondText, Option.bind_some, if_true]
  unfold offsetText
  by_cases negative : offset.seconds < 0
  · rw [decide_eq_true negative] at read
    simp only [if_pos negative, readZone, read, Option.map_some]
  · rw [decide_eq_false negative] at read
    simp only [if_neg negative, readZone, read, Option.map_some]

theorem stopsTime_offsetText (offset : UtcOffset) :
    StopsTime (offsetText offset) := by
  intro character head
  unfold offsetText at head
  split_ifs at head <;>
  · simp only [List.head?_cons, Option.mem_some_iff] at head
    subst head
    decide

end Foundation.CivilTime
