import MultisiteCrawler.Foundation.CivilTime

/-!
# Datetimes with time zones

A datetime is a wall time with an optional zone, which is either a named zone
or a fixed offset from UTC.  The offsets of the named zones come from the time
zone database and are a parameter here.

`fromisoformat_isoformat` says what survives the ISO text of a datetime: the
wall time and the offset, hence the instant, but not the name of the zone.
-/

namespace Foundation.AwareTime

open Foundation.CivilTime

/-- The `tzinfo` of a datetime: a `ZoneInfo` or a fixed `timezone`. -/
inductive TzInfo where
  | zoneInfo (key : String)
  | fixed (offset : UtcOffset)
deriving DecidableEq

/-- A datetime, naive if it has no `tzinfo`. -/
structure DateTime where
  wall : NaiveDateTime
  fold : Bool
  tzinfo : Option TzInfo
deriving DecidableEq

/-- A datetime without a `tzinfo`. -/
def naive (wall : NaiveDateTime) : DateTime :=
  ⟨wall, false, none⟩

/-- `datetime.isoformat()` of a datetime without a `tzinfo`. -/
def naiveText (wall : NaiveDateTime) : String :=
  String.ofList (CivilTime.isoformat wall)

/--
The time zone database: the offset of a named zone at a wall time.  The
`fold` chooses between the two offsets of a repeated wall time.
-/
abbrev ZoneRules := String → NaiveDateTime → Bool → UtcOffset

/-- Zone rules under which every named zone is eight hours ahead of UTC. -/
def eightHoursAhead : ZoneRules :=
  fun _ _ _ => ⟨28800, by decide⟩

variable (rules : ZoneRules)

/-- `datetime.utcoffset()`. -/
def DateTime.utcoffset (value : DateTime) : Option UtcOffset :=
  match value.tzinfo with
  | none => none
  | some (.zoneInfo key) => some (rules key value.wall value.fold)
  | some (.fixed offset) => some offset

/-- The instant an aware datetime denotes, in microseconds. -/
def DateTime.instant (value : DateTime) : Option ℤ :=
  (value.utcoffset rules).map fun offset =>
    value.wall.microseconds - offset.seconds * 1000000

/-- The characters written for the zone of a datetime. -/
def zoneText : Option UtcOffset → List Char
  | none => []
  | some offset => offsetText offset

/-- `datetime.isoformat()`. -/
def DateTime.isoformat (value : DateTime) : String :=
  String.ofList
    (CivilTime.isoformat value.wall ++ zoneText (value.utcoffset rules))

/-- `datetime.fromisoformat`; `none` is its `ValueError`. -/
def fromisoformat (text : String) : Option DateTime :=
  (readIso text.toList).map fun (wall, offset) =>
    ⟨wall, false, offset.map .fixed⟩

/-- A naive datetime is read back. -/
theorem fromisoformat_naiveText (wall : NaiveDateTime) :
    fromisoformat (naiveText wall) = some (naive wall) := by
  rw [fromisoformat, naiveText, String.toList_ofList, readIso_isoformat]
  rfl

theorem naiveText_injective : Function.Injective naiveText := by
  intro left right equal
  have read := fromisoformat_naiveText left
  rw [equal, fromisoformat_naiveText] at read
  exact (congrArg DateTime.wall (Option.some.inj read)).symm

theorem readZone_zoneText (offset : Option UtcOffset) :
    readZone (zoneText offset) = some offset := by
  cases offset with
  | none => rfl
  | some offset => exact readZone_offsetText offset

theorem stopsTime_zoneText (offset : Option UtcOffset) :
    StopsTime (zoneText offset) := by
  cases offset with
  | none =>
      intro character member
      cases member
  | some offset => exact stopsTime_offsetText offset

/-- The wall time and the offset survive the ISO text. -/
theorem fromisoformat_isoformat (value : DateTime) :
    fromisoformat (value.isoformat rules) =
      some ⟨value.wall, false, (value.utcoffset rules).map .fixed⟩ := by
  rw [fromisoformat, DateTime.isoformat, String.toList_ofList,
    readIso_isoformat_append _ _ (stopsTime_zoneText _),
    readZone_zoneText]
  rfl

/-- A datetime read from a text has no named zone. -/
theorem tzinfo_ne_zoneInfo_of_fromisoformat
    {text : String} {value : DateTime}
    (read : fromisoformat text = some value) (key : String) :
    value.tzinfo ≠ some (.zoneInfo key) := by
  rcases Option.map_eq_some_iff.mp read with ⟨⟨wall, offset⟩, _, rfl⟩
  cases offset <;> rintro ⟨⟩

end Foundation.AwareTime
