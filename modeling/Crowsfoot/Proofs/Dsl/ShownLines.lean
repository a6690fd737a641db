import Crowsfoot.Proofs.Dsl.CutLines

/-!
# Shown parts of lines

A reader takes a written line up to the first line boundary in it.  What stands
before is the part that is shown; what stands behind is read as further lines.
The line of a column shows its name, its type and its modifier, unless a name
keeps a line feed, and of its attributes those up to the boundary.
-/

namespace Crowsfoot.Dsl

open Crowsfoot.Text

/-- The part of a text in front of its first line boundary. -/
def shownPart (text : List Char) : List Char :=
  text.takeWhile (!isLineBoundary ·)

/-- The columns that are declared behind the first line boundary of a text. -/
def columnsBehind (text : List Char) : List Column :=
  columnsIn ((text.dropWhile (!isLineBoundary ·)).drop 1)

theorem oneLine_shownPart (text : List Char) : ∀ c ∈ shownPart text, isLineBoundary c = false := by
  intro c inShown
  simpa using List.all_eq_true.mp List.all_takeWhile c inShown

theorem shownPart_of_oneLine {text : List Char} (oneLine : ∀ c ∈ text, isLineBoundary c = false) :
    shownPart text = text ∧ columnsBehind text = [] := by
  have shown := shown_of_oneLine oneLine
  have whole := takeWhile_append_of_stops shown (stops_nil _)
  have rest := dropWhile_append_of_stops shown (stops_nil _)
  rw [List.append_nil] at whole rest
  refine ⟨whole, ?_⟩
  rw [columnsBehind, rest]
  rfl

theorem shownPart_of_cut {front : List Char} {boundary : Char}
    (oneLine : ∀ c ∈ front, isLineBoundary c = false) (cuts : isLineBoundary boundary = true)
    (back : List Char) :
    shownPart (front ++ boundary :: back) = front ∧
      columnsBehind (front ++ boundary :: back) = columnsIn back := by
  have shown := shown_of_oneLine oneLine
  have stops := stops_boundary cuts back
  refine ⟨takeWhile_append_of_stops shown stops, ?_⟩
  rw [columnsBehind, dropWhile_append_of_stops shown stops]
  rfl

/-- A text declares what its shown part declares, and what stands behind. -/
theorem declarations_eq_append (text : List Char) :
    declarations text = declarations (shownPart text) ++
      declarations ((text.dropWhile (!isLineBoundary ·)).drop 1) := by
  have parts : text = shownPart text ++ text.dropWhile (!isLineBoundary ·) :=
    List.takeWhile_append_dropWhile.symm
  have stops := stops_dropWhile (!isLineBoundary ·) text
  cases hidden : text.dropWhile (!isLineBoundary ·) with
  | nil =>
      rw [hidden, List.append_nil] at parts
      rw [← parts]
      exact (List.append_nil _).symm
  | cons boundary behind =>
      rw [hidden, stops_cons_iff, Bool.not_eq_false'] at stops
      rw [hidden] at parts
      conv_lhs => rw [parts]
      exact declarations_append_cons stops _ _

theorem columnsIn_eq_append (text : List Char) :
    columnsIn text = columnsIn (shownPart text) ++ columnsBehind text := by
  rw [columnsIn, declarations_eq_append, List.filterMap_append]
  rfl

/-- An optional column shows a question mark. -/
theorem questionMark_of_column? {line : List Char} {column : Column}
    (read : column? line = some column) (nullable : column.nullable = true) : '?' ∈ line := by
  simp only [column?, Option.bind_eq_bind, Option.bind_eq_some_iff, Option.pure_def,
    Option.some.injEq] at read
  obtain ⟨⟨name, type, modified, attributes⟩, parts, rfl⟩ := read
  simp only [fieldLine?, Option.bind_eq_bind, Option.bind_eq_some_iff] at parts
  obtain ⟨⟨first, afterName⟩, nameRead, afterBlanks, blanksRead, ⟨second, afterType⟩, typeRead,
    behind⟩ := parts
  have marked : modified = (modifier afterType).1 := by
    split at behind
    · simp only [Option.pure_def, Option.some.injEq, Prod.mk.injEq] at behind
      exact behind.2.2.1.symm
    · simp only [Option.bind_eq_some_iff, Option.pure_def, Option.some.injEq,
        Prod.mk.injEq] at behind
      obtain ⟨_, -, -, -, same, -⟩ := behind
      exact same.symm
  have optional : (modifier afterType).1 = .optional := by
    rw [← marked]
    simpa using nullable
  have inRest : '?' ∈ afterType := by
    unfold modifier at optional
    split at optional
    · contradiction
    · exact List.mem_cons_self
    · contradiction
  have suffix : afterType <:+ line :=
    ((suffix_of_run? typeRead).trans (suffix_of_blanks? blanksRead)).trans
      (suffix_of_run? nameRead)
  exact suffix.mem inRest

/-- A text without question marks declares no optional columns. -/
theorem nullable_of_mem_columnsIn {text : List Char} (absent : '?' ∉ text) {column : Column}
    (member : column ∈ columnsIn text) : column.nullable = false := by
  obtain ⟨line, inLines, read⟩ := List.mem_filterMap.mp member
  obtain ⟨stripped, -⟩ := List.mem_filter.mp inLines
  obtain ⟨whole, inPieces, rfl⟩ := List.mem_map.mp (List.mem_filter.mp stripped).1
  rw [← Bool.not_eq_true]
  intro nullable
  have inLine : '?' ∈ trim isBlank whole := questionMark_of_column? read nullable
  exact absent (mem_of_mem_pieces inPieces (mem_of_mem_trim inLine))

/-- The line of a foreign key declares no optional columns, whatever its
names. -/
theorem nullable_of_mem_relationLine {format : String} {key : ForeignKey} {column : Column}
    (member : column ∈ columnsIn (relationLine format key).toList) : column.nullable = false := by
  have notWord : isWord '?' = false := rfl
  have name : '?' ∉ (keyFieldName key).toList := notMem_identifier notWord (by decide) _
  have type : '?' ∉ (blockName format key.refTable).toList :=
    notMem_identifier notWord (by decide) _
  have columns : '?' ∉ (nameList key.columns).toList := notMem_nameList notWord (by decide) _
  have references : '?' ∉ (nameList key.refColumns).toList :=
    notMem_nameList notWord (by decide) _
  have signs : ∀ text ∈ ["  ", " ", "@relation(fields: [", "], references: [", "])"],
      '?' ∉ text.toList := by
    decide
  have absent : '?' ∉ (relationLine format key).toList := by
    intro inLine
    unfold relationLine relationAttribute at inLine
    simp only [String.toList_append, List.mem_append] at inLine
    rcases inLine with ((((gap | inName) | gap) | inType) | gap) |
      ((((opened | inColumns) | between) | inReferences) | ended)
    · exact signs _ (by simp) gap
    · exact name inName
    · exact signs _ (by simp) gap
    · exact type inType
    · exact signs _ (by simp) gap
    · exact signs _ (by simp) opened
    · exact columns inColumns
    · exact signs _ (by simp) between
    · exact references inReferences
    · exact signs _ (by simp) ended
  exact nullable_of_mem_columnsIn absent member

/-! ## Lines of columns -/

/-- The attributes of a column up to the first line boundary in them. -/
def shownAttributes (format : String) (column : Column) : List Char :=
  shownPart (joined " " (columnAttributes format column none)).toList

theorem shownPart_append {front : List Char} (oneLine : ∀ c ∈ front, isLineBoundary c = false)
    (back : List Char) : shownPart (front ++ back) = front ++ shownPart back :=
  List.takeWhile_append_of_pos (shown_of_oneLine oneLine)

theorem shownPart_cons {c : Char} (notBoundary : isLineBoundary c = false) (rest : List Char) :
    shownPart (c :: rest) = c :: shownPart rest := by
  apply List.takeWhile_cons_of_pos
  rw [notBoundary]
  rfl

/-- Nothing behind a text with a line feed is shown. -/
theorem shownPart_append_of_mem {front : List Char} (lineFeed : '\n' ∈ front) (back : List Char) :
    shownPart (front ++ back) = shownPart front := by
  obtain ⟨before, boundary, behind, rfl, cuts, oneLine⟩ :=
    exists_first lineFeed (rfl : isLineBoundary '\n' = true)
  rw [List.append_assoc, List.cons_append, (shownPart_of_cut oneLine cuts _).1,
    (shownPart_of_cut oneLine cuts _).1]

/-- The characters of a line that declares a column: its names, its modifier,
and its attributes. -/
def fieldChars (name type : List Char) (modified : Modifier) (attributes : List String) :
    List Char :=
  ' ' :: ' ' :: (name ++ ' ' :: (type ++ (modifierChars modified ++
    if attributes.isEmpty then [] else ' ' :: (joined " " attributes).toList)))

/-- What stands before the attributes stays on one line. -/
theorem fieldFront_oneLine {name type : List Char} (nameIsName : IsName name)
    (typeIsName : IsName type) (modified : Modifier) :
    ∀ c ∈ ' ' :: ' ' :: (name ++ ' ' :: (type ++ modifierChars modified)),
      isLineBoundary c = false := by
  intro c member
  simp only [List.mem_cons, List.mem_append] at member
  rcases member with rfl | rfl | inName | rfl | inType | inModifier
  · rfl
  · rfl
  · exact isLineBoundary_of_isWord (nameIsName.word c inName)
  · rfl
  · exact isLineBoundary_of_isWord (typeIsName.word c inType)
  · exact (modifierChars_solid _ c inModifier).2

/-- Such a line shows the column with the attributes that are shown. -/
theorem columnsIn_shownPart_fieldChars {name type : List Char} (nameIsName : IsName name)
    (typeIsName : IsName type) (modified : Modifier) {attributes : List String}
    (solid : ∀ text ∈ attributes, Solid text.toList ∧ text.toList ≠ []) :
    columnsIn (shownPart (fieldChars name type modified attributes)) =
      [readColumn name type modified
        (trimEnd isBlank (shownPart (joined " " attributes).toList))] := by
  have front := fieldFront_oneLine nameIsName typeIsName modified
  cases attributes with
  | nil =>
      have bare : fieldChars name type modified [] =
          ' ' :: ' ' :: (name ++ ' ' :: (type ++ modifierChars modified)) := by
        simp [fieldChars]
      rw [bare, (shownPart_of_oneLine front).1]
      exact columnsIn_bare nameIsName typeIsName _
  | cons first later =>
      have split : fieldChars name type modified (first :: later) =
          (' ' :: ' ' :: (name ++ ' ' :: (type ++ modifierChars modified))) ++
            ' ' :: (joined " " (first :: later)).toList := by
        simp [fieldChars]
      obtain ⟨firstSolid, nonempty⟩ := solid first List.mem_cons_self
      obtain ⟨c, rest, spelled⟩ := List.exists_cons_of_ne_nil nonempty
      have notBlank : isBlank c = false := firstSolid.first c (by simp [spelled])
      -- The first attribute begins on the line, so something of it is shown.
      obtain ⟨more, shown⟩ :
          ∃ more, shownPart (joined " " (first :: later)).toList = c :: more := by
        rw [toList_joined_cons, spelled, List.cons_append,
          shownPart_cons (isLineBoundary_of_notBlank notBlank)]
        exact ⟨_, rfl⟩
      have starts : Stops isBlank (shownPart (joined " " (first :: later)).toList) := by
        rw [shown]
        exact stops_cons_iff.mpr notBlank
      have filled : shownPart (joined " " (first :: later)).toList ≠ [] := by
        rw [shown]
        exact List.cons_ne_nil _ _
      have oneLine := oneLine_shownPart (joined " " (first :: later)).toList
      have whole : shownPart (fieldChars name type modified (first :: later)) =
          ' ' :: ' ' :: (name ++ ' ' :: (type ++ (modifierChars modified ++
            ' ' :: shownPart (joined " " (first :: later)).toList))) := by
        rw [split, shownPart_append front, shownPart_cons rfl]
        simp only [List.cons_append, List.append_assoc]
      rw [whole, columnsIn_attributes nameIsName typeIsName _ starts filled oneLine]

/-- Such a line declares a first column with the attributes that are shown, and
what stands behind a cut. -/
theorem columnsIn_fieldChars {name type : List Char} (nameIsName : IsName name)
    (typeIsName : IsName type) (modified : Modifier) {attributes : List String}
    (solid : ∀ text ∈ attributes, Solid text.toList ∧ text.toList ≠ []) :
    columnsIn (fieldChars name type modified attributes) =
      readColumn name type modified (trimEnd isBlank (shownPart (joined " " attributes).toList)) ::
        columnsBehind (fieldChars name type modified attributes) := by
  rw [columnsIn_eq_append, columnsIn_shownPart_fieldChars nameIsName typeIsName modified solid,
    List.singleton_append]

/-- The default that is read from shown attributes. -/
def shownDefault? (attributes : List String) : Option String :=
  argument? (String.ofList (trimEnd isBlank (shownPart (joined " " attributes).toList))) "@default"

/-- Wherever a line is cut, its default is read with the sign that it begins
with. -/
theorem shownDefault?_begins {format text : String} {column : Column}
    (written : columnDefault? format column = some text) {c : Char} {more : List Char}
    (begins : text.toList = c :: more) (notBlank : isBlank c = false)
    (notParen : c ≠ '(' ∧ c ≠ ')') (key? : Option ForeignKey) :
    ∃ rest, shownDefault? (columnAttributes format column key?) =
      some (String.ofList (c :: rest)) := by
  have notBoundary := isLineBoundary_of_notBlank notBlank
  have front : ∀ d ∈ leadingChars column ++ ("@default".toList ++ ['(']),
      isLineBoundary d = false := leading_oneLine column (by simp)
  have shown : ∃ later, shownPart (joined " " (columnAttributes format column key?)).toList =
      leadingChars column ++ ("@default".toList ++ '(' :: c :: later) := by
    have split : (joined " " (columnAttributes format column key?)).toList =
        (leadingChars column ++ ("@default".toList ++ ['('])) ++
          c :: (more ++ ')' :: trailingChars column key?) := by
      rw [toList_columnAttributes written, begins]
      simp
    rw [split, shownPart_append front, shownPart_cons notBoundary]
    exact ⟨shownPart (more ++ ')' :: trailingChars column key?), by simp⟩
  obtain ⟨later, shown⟩ := shown
  have trimmed : trimEnd isBlank
      (leadingChars column ++ ("@default".toList ++ '(' :: c :: later)) =
        leadingChars column ++ ("@default".toList ++ '(' :: c :: trimEnd isBlank later) := by
    have kept : trimEnd isBlank (c :: later) = c :: trimEnd isBlank later :=
      trimEnd_cons notBlank later
    have remains : trimEnd isBlank (c :: later) ≠ [] := by simp [kept]
    have whole := trimEnd_append remains (leadingChars column ++ ("@default".toList ++ ['(']))
    rw [kept] at whole
    simpa using whole
  obtain ⟨inside, argument⟩ : ∃ inside,
      argumentText '(' false 0 (c :: trimEnd isBlank later) = c :: inside := by
    rw [argumentText]
    split
    · exact ⟨_, rfl⟩
    · simp [notParen]
  have stripped : strip (c :: inside) = c :: trimEnd isBlank inside := by
    rw [strip, trim, dropWhile_of_stops (stops_cons_iff.mpr notBlank)]
    exact trimEnd_cons notBlank inside
  refine ⟨trimEnd isBlank inside, ?_⟩
  rw [shownDefault?, shown, trimmed, argument?, argumentChars?, String.toList_ofList,
    find?_default, Option.map_some, argument, stripped, Option.map_some]

/-- A default that stays on its line is read as it was written. -/
theorem shownDefault?_eq (document : Document) {column : Column} (plain : PlainColumn column)
    {key? : Option ForeignKey} (plainKey : ∀ key ∈ key?, PlainKey key)
    (oneLine : ∀ text ∈ columnDefault? document.format column,
      ∀ c ∈ text.toList, isLineBoundary c = false)
    (closed : ∀ text ∈ columnDefault? document.format column, ¬RunsOn text) :
    shownDefault? (columnAttributes document.format column key?) =
      columnDefault? document.format column := by
  have solid : Solid (joined " " (columnAttributes document.format column key?)).toList :=
    Solid.joined fun text member => solid_of_mem_columnAttributes member
  have shown := (shownPart_of_oneLine (columnAttributes_oneLine plain.lined plainKey oneLine)).1
  rw [shownDefault?, shown, trimEnd_of_solid solid, String.ofList_toList]
  exact argument?_columnAttributes plain.inert.atSign closed key?

section ColumnLine

variable {document : Document} {column : Column}

/-- A column whose name or type keeps a line feed is not read as optional. -/
theorem nullable_of_lineFeed
    (lineFeed : '\n' ∈ (identifier column.name).toList ∨
      '\n' ∈ (typeName document column).toList)
    {read : Column}
    (member : read ∈ columnsIn (shownPart (columnLine document column none).toList)) :
    read.nullable = false := by
  have notWord : isWord '?' = false := rfl
  have name : '?' ∉ (identifier column.name).toList := notMem_identifier notWord (by decide) _
  have type : '?' ∉ (typeName document column).toList := by
    have isName := isName_read_typeName document column
    have outside : '?' ∉ withoutFinalLineFeed (typeName document column).toList :=
      fun inName => ne_of_class (isName.word '?' inName) notWord rfl
    rcases withoutFinalLineFeed_cases (typeName document column).toList with same | ended
    · rwa [same]
    · rw [ended]
      simp [outside]
  have line := toList_columnLine document column none
  generalize (identifier column.name).toList = nameChars at name lineFeed line
  generalize (typeName document column).toList = typeChars at type lineFeed line
  have front : '?' ∉ ' ' :: ' ' :: (nameChars ++ ' ' :: typeChars) := by simp [name, type]
  have behind : '\n' ∈ ' ' :: ' ' :: (nameChars ++ ' ' :: typeChars) := by simp [lineFeed]
  obtain ⟨back, split⟩ : ∃ back, (columnLine document column none).toList =
      (' ' :: ' ' :: (nameChars ++ ' ' :: typeChars)) ++ back :=
    ⟨_, by rw [line, List.cons_append, List.cons_append, List.append_assoc, List.cons_append]⟩
  rw [split, shownPart_append_of_mem behind] at member
  refine nullable_of_mem_columnsIn (fun shown => front ?_) member
  exact (List.takeWhile_sublist _).subset shown

/-- The line of a column with one-line names shows the column with its shown
attributes. -/
theorem columnsIn_shownPart_columnLine (name : '\n' ∉ (identifier column.name).toList)
    (type : '\n' ∉ (typeName document column).toList) :
    columnsIn (shownPart (columnLine document column none).toList) =
      [readColumn (identifier column.name).toList (typeName document column).toList
        (modifierOf column) (trimEnd isBlank (shownAttributes document.format column))] := by
  have nameIsName : IsName (identifier column.name).toList := by
    have isName := isName_identifierChars column.name.toList
    rwa [← toList_identifier, withoutFinalLineFeed_of_notMem name] at isName
  have typeIsName : IsName (typeName document column).toList := by
    have isName := isName_read_typeName document column
    rwa [withoutFinalLineFeed_of_notMem type] at isName
  rw [toList_columnLine]
  exact columnsIn_shownPart_fieldChars nameIsName typeIsName _
    fun text member => solid_of_mem_columnAttributes member

end ColumnLine

end Crowsfoot.Dsl
