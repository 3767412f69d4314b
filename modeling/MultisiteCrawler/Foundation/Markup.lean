import MultisiteCrawler.Foundation.PythonText

/-!
# Markup

Tags and texts as they are written into HTML, and the names of tags and
attributes which a reader of HTML finds there.  What has been written is what
is found, if names contain nothing which ends a name.
-/

namespace Foundation.Markup

open Foundation.PythonText

/-! ## Writing -/

/-- Characters of a document. -/
abbrev Text := List Char

/-- An attribute with its value, if it has one. -/
abbrev Attribute := Text × Option Text

/-- A tag, or text between tags. -/
inductive Part where
  | startTag (tag : Text) (attributes : List Attribute)
  | endTag (tag : Text)
  | text (content : Text)
deriving DecidableEq

/-- `html.escape` of one character. -/
def escapeChar (character : Char) : Text :=
  if character = '&' then ['&', 'a', 'm', 'p', ';']
  else if character = '<' then ['&', 'l', 't', ';']
  else if character = '>' then ['&', 'g', 't', ';']
  else if character = '"' then ['&', 'q', 'u', 'o', 't', ';']
  else if character = '\'' then ['&', '#', 'x', '2', '7', ';']
  else [character]

/-- `html.escape(text, quote=True)`. -/
def escape (text : Text) : Text :=
  text.flatMap escapeChar

/-- An attribute with a space before it. -/
def writeAttribute : Attribute → Text
  | (name, none) => ' ' :: name
  | (name, some value) =>
      ' ' :: name ++ ('=' :: '"' :: escape value ++ ['"'])

/-- A part as it is written. -/
def Part.write : Part → Text
  | .startTag tag attributes =>
      '<' :: tag ++ (attributes.flatMap writeAttribute ++ ['>'])
  | .endTag tag => '<' :: '/' :: tag ++ ['>']
  | .text content => escape content

/-- Parts, one after the other. -/
def write (parts : List Part) : Text :=
  parts.flatMap Part.write

theorem write_cons (part : Part) (rest : List Part) :
    write (part :: rest) = part.write ++ write rest :=
  List.flatMap_cons

theorem escape_append (text other : Text) :
    escape (text ++ other) = escape text ++ escape other :=
  List.flatMap_append

/-- No delimiter is left as it is. -/
theorem not_mem_escapeChar
    {delimiter : Char} (isDelimiter : delimiter ∈ ['<', '>', '"'])
    (character : Char) :
    delimiter ∉ escapeChar character := by
  simp only [List.mem_cons, List.not_mem_nil, or_false] at isDelimiter
  unfold escapeChar
  split_ifs <;> rcases isDelimiter with rfl | rfl | rfl <;>
    simp_all [eq_comm]

/-- What is escaped contains no delimiters. -/
theorem not_mem_escape
    {delimiter : Char} (isDelimiter : delimiter ∈ ['<', '>', '"'])
    (text : Text) :
    delimiter ∉ escape text := by
  intro member
  rcases List.mem_flatMap.mp member with ⟨character, _, isPart⟩
  exact not_mem_escapeChar isDelimiter character isPart

/-! ## Reading -/

/-- Whitespace in a tag. -/
def isTagSpace (character : Char) : Bool :=
  [' ', '\t', '\n', '\r', Char.ofNat 12].contains character

/-- A character which ends a name. -/
def endsName (character : Char) : Bool :=
  isTagSpace character || character == '/' || character == '>'

/-- The name of a tag or of an attribute, in lower case. -/
inductive Mark where
  | tag (name : Text)
  | attribute (name : Text)
deriving DecidableEq

/-- Where a reader stands. -/
inductive Mode where
  | data
  | tagOpen
  | tagName (name : Text)
  | beforeName
  | attributeName (name : Text)
  | afterName
  | beforeValue
  | quoted (quote : Char)
  | unquoted
deriving DecidableEq

/-- A reader with the marks found so far. -/
structure Reader where
  mode : Mode
  marks : List Mark

namespace Reader

variable (reader : Reader)

/-- Go on in another mode. -/
def enter (mode : Mode) : Reader :=
  { reader with mode }

/-- Note a mark and go on. -/
def note (mark : Mark) (mode : Mode) : Reader :=
  ⟨mode, reader.marks ++ [mark]⟩

/-- Read a character within a tag, where no name is being read. -/
def readBetween (character : Char) : Reader :=
  if character = '>' then reader.enter .data
  else if endsName character then reader.enter .beforeName
  else reader.enter (.attributeName [lowerAscii character])

/-- Read a character. -/
def read (character : Char) : Reader :=
  match reader.mode with
  | .data =>
      if character = '<' then reader.enter .tagOpen else reader
  | .tagOpen =>
      if isAsciiAlpha character then
        reader.enter (.tagName [lowerAscii character])
      else if character = '/' || character = '<' then reader
      else reader.enter .data
  | .tagName name =>
      if character = '>' then reader.note (.tag name) .data
      else if endsName character then reader.note (.tag name) .beforeName
      else reader.enter (.tagName (name ++ [lowerAscii character]))
  | .beforeName => reader.readBetween character
  | .attributeName name =>
      if character = '>' then reader.note (.attribute name) .data
      else if character = '=' then
        reader.note (.attribute name) .beforeValue
      else if endsName character then
        reader.note (.attribute name) .afterName
      else reader.enter (.attributeName (name ++ [lowerAscii character]))
  | .afterName =>
      if character = '=' then reader.enter .beforeValue
      else if isTagSpace character then reader
      else reader.readBetween character
  | .beforeValue =>
      if character = '"' || character = '\'' then
        reader.enter (.quoted character)
      else if isTagSpace character then reader
      else if character = '>' then reader.enter .data
      else reader.enter .unquoted
  | .quoted quote =>
      if character = quote then reader.enter .beforeName else reader
  | .unquoted =>
      if character = '>' then reader.enter .data
      else if isTagSpace character then reader.enter .beforeName
      else reader

/-- Read a text. -/
def readText (text : Text) : Reader :=
  text.foldl read reader

end Reader

/-- The marks of a text. -/
def marks (text : Text) : List Mark :=
  (Reader.readText ⟨.data, []⟩ text).marks

/-! ## Reading what has been written -/

/-- Names of tags which are read as they are written. -/
structure IsTagName (name : Text) : Prop where
  letter : ∃ first rest, name = first :: rest ∧ isAsciiAlpha first = true
  plain : ∀ character ∈ name,
    endsName character = false ∧ lowerAscii character = character

/-- Names of attributes which are read as they are written. -/
structure IsAttributeName (name : Text) : Prop where
  nonempty : name ≠ []
  plain : ∀ character ∈ name,
    endsName character = false ∧ lowerAscii character = character
  noValue : '=' ∉ name

/-- Parts with such names. -/
def Part.Named : Part → Prop
  | .startTag tag attributes =>
      IsTagName tag ∧
        ∀ entry ∈ attributes, IsAttributeName entry.1
  | .endTag tag => IsTagName tag
  | .text _ => True

/-- The marks of a part. -/
def Part.marks : Part → List Mark
  | .startTag tag attributes =>
      .tag tag :: attributes.map fun entry => .attribute entry.1
  | .endTag tag => [.tag tag]
  | .text _ => []

namespace Reader

theorem readText_append (reader : Reader) (text other : Text) :
    reader.readText (text ++ other) =
      (reader.readText text).readText other :=
  List.foldl_append

/-- What does not end a name is no delimiter. -/
theorem ne_of_endsName_eq_false
    {character : Char} (plain : endsName character = false) :
    character ≠ '>' ∧ character ≠ '/' ∧ isTagSpace character = false := by
  simp only [endsName, Bool.or_eq_false_iff, beq_eq_false_iff_ne] at plain
  exact ⟨plain.2, plain.1.2, plain.1.1⟩

/-- Data without a tag is passed over. -/
theorem readText_data
    {found : List Mark} {text : Text} (noTag : '<' ∉ text) :
    readText ⟨.data, found⟩ text = ⟨.data, found⟩ := by
  induction text with
  | nil => rfl
  | cons character rest induction =>
      rw [List.mem_cons, not_or] at noTag
      have passed : read ⟨.data, found⟩ character = ⟨.data, found⟩ :=
        if_neg (Ne.symm noTag.1)
      rw [readText, List.foldl_cons, passed]
      exact induction noTag.2

/-- A value without quotes is passed over. -/
theorem readText_quoted
    {found : List Mark} {text : Text} (noQuote : '"' ∉ text) :
    readText ⟨.quoted '"', found⟩ text = ⟨.quoted '"', found⟩ := by
  induction text with
  | nil => rfl
  | cons character rest induction =>
      rw [List.mem_cons, not_or] at noQuote
      have passed :
          read ⟨.quoted '"', found⟩ character = ⟨.quoted '"', found⟩ :=
        if_neg (Ne.symm noQuote.1)
      rw [readText, List.foldl_cons, passed]
      exact induction noQuote.2

/-- The characters of the name of a tag. -/
theorem readText_tagName
    {found : List Mark} {name rest : Text}
    (plain : ∀ character ∈ rest,
      endsName character = false ∧ lowerAscii character = character) :
    readText ⟨.tagName name, found⟩ rest =
      ⟨.tagName (name ++ rest), found⟩ := by
  induction rest generalizing name with
  | nil => rw [List.append_nil]; rfl
  | cons character rest induction =>
      have isPlain := plain character List.mem_cons_self
      have isNotEnd := (ne_of_endsName_eq_false isPlain.1).1
      have taken :
          read ⟨.tagName name, found⟩ character =
            ⟨.tagName (name ++ [character]), found⟩ := by
        simp [read, enter, isNotEnd, isPlain.1, isPlain.2]
      rw [readText, List.foldl_cons, taken]
      have others := @induction (name ++ [character]) fun other member =>
        plain other (List.mem_cons_of_mem _ member)
      rw [List.append_assoc] at others
      exact others

/-- The characters of the name of an attribute. -/
theorem readText_attributeName
    {found : List Mark} {name rest : Text}
    (plain : ∀ character ∈ rest,
      endsName character = false ∧ lowerAscii character = character)
    (noValue : '=' ∉ rest) :
    readText ⟨.attributeName name, found⟩ rest =
      ⟨.attributeName (name ++ rest), found⟩ := by
  induction rest generalizing name with
  | nil => rw [List.append_nil]; rfl
  | cons character rest induction =>
      rw [List.mem_cons, not_or] at noValue
      have isPlain := plain character List.mem_cons_self
      have isNotEnd := (ne_of_endsName_eq_false isPlain.1).1
      have taken :
          read ⟨.attributeName name, found⟩ character =
            ⟨.attributeName (name ++ [character]), found⟩ := by
        simp [read, enter, isNotEnd, isPlain.1, isPlain.2,
          Ne.symm noValue.1]
      rw [readText, List.foldl_cons, taken]
      have others :=
        @induction (name ++ [character])
          (fun other member =>
            plain other (List.mem_cons_of_mem _ member)) noValue.2
      rw [List.append_assoc] at others
      exact others

/-- A reader in a tag, which has found all that has been written. -/
structure Ready (reader : Reader) (found : List Mark) : Prop where
  close : reader.read '>' = ⟨.data, found⟩
  space : reader.read ' ' = ⟨.beforeName, found⟩ ∨
    reader.read ' ' = ⟨.afterName, found⟩

theorem ready_tagName (name : Text) (found : List Mark) :
    Ready ⟨.tagName name, found⟩ (found ++ [.tag name]) :=
  ⟨rfl, Or.inl rfl⟩

theorem ready_attributeName (name : Text) (found : List Mark) :
    Ready ⟨.attributeName name, found⟩ (found ++ [.attribute name]) :=
  ⟨rfl, Or.inr rfl⟩

theorem ready_beforeName (found : List Mark) :
    Ready ⟨.beforeName, found⟩ found :=
  ⟨rfl, Or.inl rfl⟩

/-- The name of an attribute, after a space. -/
theorem Ready.readText_name
    {reader : Reader} {found : List Mark} (ready : Ready reader found)
    {name : Text} (isName : IsAttributeName name) :
    reader.readText (' ' :: name) = ⟨.attributeName name, found⟩ := by
  cases name with
  | nil => exact absurd rfl isName.nonempty
  | cons first rest =>
      have noValue := isName.noValue
      rw [List.mem_cons, not_or] at noValue
      have isPlain := isName.plain first List.mem_cons_self
      have isNotEnd := ne_of_endsName_eq_false isPlain.1
      have taken :
          (reader.read ' ').read first = ⟨.attributeName [first], found⟩ := by
        rcases ready.space with between | after
        · rw [between]
          simp [read, readBetween, enter, isNotEnd.1, isPlain.1, isPlain.2]
        · rw [after]
          simp [read, readBetween, enter, isNotEnd, isPlain.1, isPlain.2,
            Ne.symm noValue.1]
      rw [readText, List.foldl_cons, List.foldl_cons, taken]
      exact readText_attributeName
        (fun other member => isName.plain other (List.mem_cons_of_mem _ member))
        noValue.2

/-- An attribute is found. -/
theorem Ready.readText_attribute
    {reader : Reader} {found : List Mark} (ready : Ready reader found)
    {entry : Attribute} (isName : IsAttributeName entry.1) :
    Ready (reader.readText (writeAttribute entry))
      (found ++ [.attribute entry.1]) := by
  rcases entry with ⟨name, value⟩
  cases value with
  | none =>
      rw [writeAttribute, ready.readText_name isName]
      exact ready_attributeName name found
  | some value =>
      have noQuote : '"' ∉ escape value := not_mem_escape (by decide) value
      rw [writeAttribute, readText_append, ready.readText_name isName,
        readText_append]
      have opened :
          readText ⟨.attributeName name, found⟩
              ('=' :: '"' :: escape value) =
            ⟨.quoted '"', found ++ [.attribute name]⟩ :=
        readText_quoted noQuote
      rw [opened]
      exact ready_beforeName _

/-- All attributes are found. -/
theorem Ready.readText_attributes
    {reader : Reader} {found : List Mark} (ready : Ready reader found)
    {attributes : List Attribute}
    (named : ∀ entry ∈ attributes, IsAttributeName entry.1) :
    Ready (reader.readText (attributes.flatMap writeAttribute))
      (found ++ attributes.map fun entry => .attribute entry.1) := by
  induction attributes generalizing reader found with
  | nil =>
      rw [List.map_nil, List.append_nil]
      exact ready
  | cons entry rest induction =>
      have first := ready.readText_attribute (named entry List.mem_cons_self)
      have others := induction first fun other member =>
        named other (List.mem_cons_of_mem _ member)
      rw [List.flatMap_cons, readText_append, List.map_cons,
        List.append_cons]
      exact others

/-- The name of a tag, after its delimiter. -/
theorem readText_name
    {found : List Mark} {name : Text} (isName : IsTagName name) :
    readText ⟨.tagOpen, found⟩ name = ⟨.tagName name, found⟩ := by
  rcases isName.letter with ⟨first, rest, rfl, isLetter⟩
  have isPlain := isName.plain first List.mem_cons_self
  have taken :
      read ⟨.tagOpen, found⟩ first = ⟨.tagName [first], found⟩ := by
    simp [read, enter, isLetter, isPlain.2]
  rw [readText, List.foldl_cons, taken]
  exact readText_tagName fun other member =>
    isName.plain other (List.mem_cons_of_mem _ member)

/-- The marks of a part are found. -/
theorem readText_part
    {found : List Mark} {part : Part} (named : part.Named) :
    readText ⟨.data, found⟩ part.write = ⟨.data, found ++ part.marks⟩ := by
  cases part with
  | startTag tag attributes =>
      have ready :
          Ready (readText ⟨.data, found⟩ ('<' :: tag))
            (found ++ [.tag tag]) := by
        have opened :
            readText ⟨.data, found⟩ ('<' :: tag) =
              ⟨.tagName tag, found⟩ :=
          readText_name named.1
        rw [opened]
        exact ready_tagName tag found
      have closed := (ready.readText_attributes named.2).close
      rw [Part.write, readText_append, readText_append]
      rw [List.append_assoc] at closed
      exact closed
  | endTag tag =>
      have opened :
          readText ⟨.data, found⟩ ('<' :: '/' :: tag) =
            ⟨.tagName tag, found⟩ :=
        readText_name named
      rw [Part.write, readText_append, opened]
      rfl
  | text content =>
      rw [Part.write, Part.marks, List.append_nil]
      exact readText_data (not_mem_escape (by decide) content)

/-- The marks of all parts are found. -/
theorem readText_write
    {found : List Mark} {parts : List Part}
    (named : ∀ part ∈ parts, part.Named) :
    readText ⟨.data, found⟩ (write parts) =
      ⟨.data, found ++ parts.flatMap Part.marks⟩ := by
  induction parts generalizing found with
  | nil =>
      rw [List.flatMap_nil, List.append_nil]
      rfl
  | cons part rest induction =>
      have others := @induction (found ++ part.marks)
        fun other member => named other (List.mem_cons_of_mem _ member)
      rw [write, List.flatMap_cons, readText_append,
        readText_part (named part List.mem_cons_self), List.flatMap_cons,
        ← List.append_assoc]
      exact others

end Reader

/-- A reader finds the marks of what has been written. -/
theorem marks_write
    {parts : List Part} (named : ∀ part ∈ parts, part.Named) :
    marks (write parts) = parts.flatMap Part.marks := by
  rw [marks, Reader.readText_write named, List.nil_append]

end Foundation.Markup
