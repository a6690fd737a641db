import Crowsfoot.Proofs.Dsl.Arguments
import Crowsfoot.Proofs.Dsl.Fields

/-!
# Reading written columns

Every line of a written block is read back on its own.  A literal shows four
signs as they are that a line can be cut or misread at: the at sign, and three
line boundaries outside ASCII.  Source names without them are inert.  A default
may hold them; what becomes of its column is settled by its text.
-/

namespace Crowsfoot.Dsl

open Crowsfoot.Text

/-- The signs that a literal shows as they are and that have a meaning in a
line: the at sign, and the line boundaries outside ASCII. -/
def isHazard (c : Char) : Bool :=
  c == '@' || c == '\u0085' || c == '\u2028' || c == '\u2029'

/-- A text without hazards. -/
def Inert (text : String) : Prop :=
  ∀ c ∈ text.toList, isHazard c = false

instance (text : String) : Decidable (Inert text) :=
  inferInstanceAs (Decidable (∀ c ∈ text.toList, isHazard c = false))

theorem Inert.atSign {text : String} (inert : Inert text) : '@' ∉ text.toList := by
  intro member
  have hazard := inert '@' member
  contradiction

/-- Names are inert. -/
theorem isHazard_of_isWord {c : Char} (word : isWord c = true) : isHazard c = false := by
  have notMark : c ≠ '@' := ne_of_class word rfl
  have notBoundary {sign : Char} (boundary : isLineBoundary sign = true) : c ≠ sign := by
    rintro rfl
    rw [isLineBoundary_of_isWord word] at boundary
    contradiction
  simp [isHazard, notMark, notBoundary (rfl : isLineBoundary '\u0085' = true),
    notBoundary (rfl : isLineBoundary '\u2028' = true),
    notBoundary (rfl : isLineBoundary '\u2029' = true)]

/-- The line boundaries that a literal shows as they are. -/
def visibleBoundaries : List Char :=
  ['\u0085', '\u2028', '\u2029']

/-- A text whose literal shows no line boundary. -/
def OneLine (text : String) : Prop :=
  ∀ c ∈ text.toList, c ∉ visibleBoundaries

instance (text : String) : Decidable (OneLine text) :=
  inferInstanceAs (Decidable (∀ c ∈ text.toList, c ∉ visibleBoundaries))

/-- A line boundary is escaped in a literal or is visible. -/
theorem mem_visibleBoundaries {c : Char} (boundary : isLineBoundary c = true)
    (visible : 0x20 ≤ c.toNat) : c ∈ visibleBoundaries := by
  have code : c.toNat = 0x85 ∨ c.toNat = 0x2028 ∨ c.toNat = 0x2029 := by
    simp only [isLineBoundary, Bool.or_eq_true, Bool.and_eq_true, decide_eq_true_eq,
      beq_iff_eq] at boundary
    omega
  rw [← Char.ofNat_toNat c]
  rcases code with code | code | code <;> rw [code] <;> decide

/-- A line boundary in a literal is a visible one of its text. -/
theorem mem_of_boundary_mem_quoteChars {text : List Char} {c : Char}
    (member : c ∈ Json.quoteChars text) (boundary : isLineBoundary c = true) :
    c ∈ text ∧ c ∈ visibleBoundaries := by
  have other (sign : Char) (notBoundary : isLineBoundary sign = false) : c ≠ sign :=
    ne_of_class boundary notBoundary
  have notAlphanumeric : c.isAlphanum = false := by
    cases alphanumeric : c.isAlphanum with
    | false => rfl
    | true =>
        have word : isWord c = true := isWord_of_isAlphanum alphanumeric
        rw [isLineBoundary_of_isWord word] at boundary
        contradiction
  obtain ⟨inText, visible⟩ := Json.mem_of_mem_quoteChars (other '\x22' rfl) (other '\\' rfl)
    notAlphanumeric member
  exact ⟨inText, mem_visibleBoundaries boundary visible⟩

/-- The literal of a text without visible boundaries stays on one line. -/
theorem quoteChars_oneLine {text : List Char} (absent : ∀ c ∈ text, c ∉ visibleBoundaries) :
    ∀ c ∈ Json.quoteChars text, isLineBoundary c = false := by
  intro c member
  cases boundary : isLineBoundary c with
  | false => rfl
  | true =>
      obtain ⟨inText, visible⟩ := mem_of_boundary_mem_quoteChars member boundary
      exact absurd visible (absent c inText)

theorem Inert.oneLine {text : String} (inert : Inert text) : OneLine text := by
  intro c member visible
  have hazards : ∀ c ∈ visibleBoundaries, isHazard c = true := by decide
  have hazard := inert c member
  rw [hazards c visible] at hazard
  contradiction

/-- A text that no reader cuts. -/
def Uncut (text : List Char) : Prop :=
  ∀ c ∈ text, isLineBoundary c = false

instance (text : List Char) : Decidable (Uncut text) :=
  inferInstanceAs (Decidable (∀ c ∈ text, isLineBoundary c = false))

@[simp]
theorem uncut_cons_iff {c : Char} {rest : List Char} :
    Uncut (c :: rest) ↔ isLineBoundary c = false ∧ Uncut rest :=
  List.forall_mem_cons

@[simp]
theorem uncut_append_iff {front back : List Char} :
    Uncut (front ++ back) ↔ Uncut front ∧ Uncut back :=
  List.forall_mem_append

theorem uncut_joined_iff {separator : String} (uncut : Uncut separator.toList)
    {texts : List String} :
    Uncut (joined separator texts).toList ↔ ∀ text ∈ texts, Uncut text.toList := by
  fun_induction joined separator texts with
  | case1 => simp [Uncut]
  | case2 text => simp
  | case3 text next later ih =>
      rw [String.toList_append, String.toList_append, uncut_append_iff, uncut_append_iff, ih,
        and_iff_left uncut]
      simp only [List.forall_mem_cons]

theorem uncut_enclosed_iff {opening text closing : String} (opens : Uncut opening.toList)
    (closes : Uncut closing.toList) :
    Uncut (opening ++ text ++ closing).toList ↔ Uncut text.toList := by
  rw [String.toList_append, String.toList_append, uncut_append_iff, uncut_append_iff,
    and_iff_right opens, and_iff_left closes]

/-- A literal is cut exactly at the visible line boundaries of its text. -/
theorem uncut_quote_iff {text : String} : Uncut (Json.quote text).toList ↔ OneLine text := by
  rw [Json.toList_quote]
  constructor
  · have shown : ∀ c ∈ visibleBoundaries, isLineBoundary c = true ∧ c ∈ Json.escape c := by
      decide
    intro uncut c member visible
    have written : c ∈ text.toList.flatMap Json.escape :=
      List.mem_flatMap.mpr ⟨c, member, (shown c visible).2⟩
    have inside := uncut c (List.mem_cons_of_mem _ (List.mem_append_left _ written))
    rw [(shown c visible).1] at inside
    contradiction
  · exact quoteChars_oneLine

/-- A name that is its own identifier shows no line boundary outside ASCII. -/
theorem oneLine_of_same {name : String} (same : identifier name = name) : OneLine name := by
  have cuts : ∀ c ∈ visibleBoundaries, isLineBoundary c = true ∧ c ≠ '\n' := by decide
  intro c member visible
  obtain ⟨boundary, other⟩ := cuts c visible
  have notWord : isWord c = false := by
    rw [← Bool.not_eq_true]
    intro word
    rw [isLineBoundary_of_isWord word] at boundary
    contradiction
  rw [← same] at member
  exact notMem_identifier notWord other name member

theorem isName_dslName (kind : ScalarKind) : IsName kind.dslName.toList := by
  have names : ∀ kind ∈ ScalarKind.all,
      kind.dslName.toList ≠ [] ∧ ∀ c ∈ kind.dslName.toList, isWord c = true := by
    decide
  obtain ⟨nonempty, word⟩ := names kind kind.mem_all
  exact ⟨nonempty, word⟩

/-- Types are written as names. -/
theorem isName_typeName {document : Document} {column : Column}
    (enumNames : ∀ enumeration ∈ document.enums, '\n' ∉ enumeration.name.toList)
    (type : '\n' ∉ column.typeToken.toList) : IsName (typeName document column).toList := by
  unfold typeName
  split
  · rename_i name found
    obtain ⟨enumeration, member, rfl⟩ := exists_of_lookup_enumNames found
    exact isName_blockName (enumNames enumeration member)
  · split
    · exact isName_identifier type
    · exact isName_dslName _

theorem isName_read_typeName (document : Document) (column : Column) :
    IsName (withoutFinalLineFeed (typeName document column).toList) := by
  unfold typeName
  split
  · rename_i name found
    obtain ⟨enumeration, -, rfl⟩ := exists_of_lookup_enumNames found
    rw [blockName, toList_identifier]
    exact isName_identifierChars _
  · split
    · rw [toList_identifier]
      exact isName_identifierChars _
    · have isName := isName_dslName (scalarKind document.format column.typeToken column.typeFormat)
      rwa [withoutFinalLineFeed_of_notMem isName.oneLine]

/-- The modifier that a column is written with. -/
def modifierOf (column : Column) : Modifier :=
  if column.isList then .list
  else if column.nullable && !column.primaryKey then .optional
  else .none

theorem toList_modifierText (column : Column) :
    (modifierText column).toList = modifierChars (modifierOf column) := by
  unfold modifierText modifierOf
  split
  · simp [modifierChars]
  · split
    · simp [modifierChars]
    · simp [modifierChars]

/-! ## Attributes -/

/-- The attribute of a foreign key begins with its sign and ends with its
parenthesis. -/
theorem solid_relationAttribute (key : ForeignKey) :
    Solid (relationAttribute key).toList ∧ (relationAttribute key).toList ≠ [] := by
  have spelled : (relationAttribute key).toList = '@' :: ("relation(fields: [".toList ++
      (nameList key.columns).toList ++ "], references: [".toList ++
        (nameList key.refColumns).toList ++ [']']) ++ [')'] := by
    unfold relationAttribute
    simp
  rw [spelled]
  refine ⟨⟨stops_cons_iff.mpr rfl, ?_⟩, by simp⟩
  rw [List.reverse_append]
  exact stops_cons_iff.mpr rfl

theorem solid_mapAttribute (name : String) :
    Solid (mapAttribute "@" name).toList ∧ (mapAttribute "@" name).toList ≠ [] := by
  have spelled : (mapAttribute "@" name).toList =
      '@' :: ("map(".toList ++ Json.quoteChars name.toList) ++ [')'] := by
    simp [mapAttribute]
  rw [spelled]
  refine ⟨⟨stops_cons_iff.mpr rfl, ?_⟩, by simp⟩
  rw [List.reverse_append]
  exact stops_cons_iff.mpr rfl

theorem solid_default (text : String) :
    Solid ("@default(" ++ text ++ ")").toList ∧ ("@default(" ++ text ++ ")").toList ≠ [] := by
  have spelled : ("@default(" ++ text ++ ")").toList =
      '@' :: ("default(".toList ++ text.toList) ++ [')'] := by
    simp
  rw [spelled]
  refine ⟨⟨stops_cons_iff.mpr rfl, ?_⟩, by simp⟩
  rw [List.reverse_append]
  exact stops_cons_iff.mpr rfl

theorem solid_of_mem_columnAttributes {format : String} {column : Column}
    {key? : Option ForeignKey} {text : String}
    (member : text ∈ columnAttributes format column key?) :
    Solid text.toList ∧ text.toList ≠ [] := by
  have marks : ∀ mark ∈ ["@id", "@unique"],
      (∀ c ∈ mark.toList, isBlank c = false) ∧ mark.toList ≠ [] := by
    decide
  simp only [columnAttributes, List.mem_append, List.mem_map] at member
  rcases member with (((id | unique) | ⟨default, -, rfl⟩) | ⟨key, -, rfl⟩) | map
  · split at id
    · obtain ⟨notBlank, nonempty⟩ := marks text (by simp [List.mem_singleton.mp id])
      exact ⟨solid_of_notBlank notBlank, nonempty⟩
    · contradiction
  · split at unique
    · obtain ⟨notBlank, nonempty⟩ := marks text (by simp [List.mem_singleton.mp unique])
      exact ⟨solid_of_notBlank notBlank, nonempty⟩
    · contradiction
  · exact solid_default default
  · exact solid_relationAttribute key
  · split at map
    · rw [List.mem_singleton.mp map]
      exact solid_mapAttribute _
    · contradiction

/-- A foreign key of names without line feeds. -/
structure PlainKey (key : ForeignKey) : Prop where
  columns : ∀ name ∈ key.columns, '\n' ∉ name.toList
  refTable : '\n' ∉ key.refTable.toList
  refColumns : ∀ name ∈ key.refColumns, '\n' ∉ name.toList
  fieldName : '\n' ∉ key.fieldName.toList

instance (key : ForeignKey) : Decidable (PlainKey key) :=
  decidable_of_iff
    ((∀ name ∈ key.columns, '\n' ∉ name.toList) ∧ '\n' ∉ key.refTable.toList ∧
      (∀ name ∈ key.refColumns, '\n' ∉ name.toList) ∧ '\n' ∉ key.fieldName.toList)
    ⟨fun ⟨columns, refTable, refColumns, fieldName⟩ => ⟨columns, refTable, refColumns, fieldName⟩,
      fun plain => ⟨plain.columns, plain.refTable, plain.refColumns, plain.fieldName⟩⟩

theorem nameList_oneLine {names : List String} (oneLine : ∀ name ∈ names, '\n' ∉ name.toList) :
    ∀ c ∈ (nameList names).toList, isLineBoundary c = false := by
  have identifiers (name : String) (member : name ∈ names) : Uncut (identifier name).toList := by
    have isName := isName_identifier (oneLine name member)
    exact fun c inName => isLineBoundary_of_isWord (isName.word c inName)
  exact (uncut_joined_iff (by decide)).mpr (List.forall_mem_map.mpr identifiers)

theorem PlainKey.oneLine {key : ForeignKey} (plain : PlainKey key) :
    ∀ c ∈ (relationAttribute key).toList, isLineBoundary c = false := by
  have columns := nameList_oneLine plain.columns
  have references := nameList_oneLine plain.refColumns
  have signs : ∀ text ∈ ["@relation(fields: [", "], references: [", "])"],
      Uncut text.toList := by
    decide +kernel
  have opens := signs "@relation(fields: [" (by simp)
  have between := signs "], references: [" (by simp)
  have closes := signs "])" (by simp)
  have uncut : Uncut (relationAttribute key).toList := by
    unfold relationAttribute
    simp only [String.toList_append, uncut_append_iff]
    exact ⟨⟨⟨⟨opens, columns⟩, between⟩, references⟩, closes⟩
  exact uncut

theorem mapAttribute_oneLine {mark name : String}
    (markOneLine : ∀ c ∈ mark.toList, isLineBoundary c = false) (oneLine : OneLine name) :
    ∀ c ∈ (mapAttribute mark name).toList, isLineBoundary c = false := by
  have opens : Uncut (mark ++ "map(").toList := by
    rw [String.toList_append, uncut_append_iff]
    exact ⟨markOneLine, by decide⟩
  exact (uncut_enclosed_iff opens (by decide)).mpr (uncut_quote_iff.mpr oneLine)

/-- The attributes of a column stay on one line if its default and its foreign key
do, and if its name does as a literal.  A name without a literal would do so too. -/
theorem uncut_columnAttributes_iff {format : String} {column : Column}
    {key? : Option ForeignKey} :
    (∀ text ∈ columnAttributes format column key?, Uncut text.toList) ↔
      (∀ text ∈ columnDefault? format column, Uncut text.toList) ∧
        (∀ key ∈ key?, Uncut (relationAttribute key).toList) ∧ OneLine column.name := by
  have mark {holds : Bool} {text : String} (uncut : Uncut text.toList) :
      ∀ written ∈ (if holds then [text] else []), Uncut written.toList := by
    split
    · exact List.forall_mem_singleton.mpr uncut
    · exact List.forall_mem_nil _
  have default (text : String) : Uncut ("@default(" ++ text ++ ")").toList ↔ Uncut text.toList :=
    uncut_enclosed_iff (by decide) (by decide)
  have literal : Uncut (mapAttribute "@" column.name).toList ↔ OneLine column.name :=
    (uncut_enclosed_iff (by decide) (by decide)).trans uncut_quote_iff
  have map : (∀ text ∈ if identifier column.name != column.name then
      [mapAttribute "@" column.name] else [], Uncut text.toList) ↔ OneLine column.name := by
    split
    · rw [List.forall_mem_singleton, literal]
    · rename_i same
      exact iff_of_true (List.forall_mem_nil _) (oneLine_of_same (by simpa using same))
  have marks := And.intro (@mark column.primaryKey "@id" (by decide))
    (@mark (column.unique && !column.primaryKey) "@unique" (by decide))
  rw [columnAttributes, List.forall_mem_append, List.forall_mem_append, List.forall_mem_append,
    List.forall_mem_append, List.forall_mem_map, List.forall_mem_map, map,
    and_iff_right marks, and_assoc]
  simp only [Option.mem_toList, Option.mem_def, default]

/-! ## Columns -/

/-- A column whose names have no line feeds, and whose own name is inert. -/
structure PlainColumn (column : Column) : Prop where
  name : '\n' ∉ column.name.toList
  inert : Inert column.name
  type : '\n' ∉ column.typeToken.toList

instance (column : Column) : Decidable (PlainColumn column) :=
  decidable_of_iff
    ('\n' ∉ column.name.toList ∧ Inert column.name ∧ '\n' ∉ column.typeToken.toList)
    ⟨fun ⟨name, inert, type⟩ => ⟨name, inert, type⟩,
      fun plain => ⟨plain.name, plain.inert, plain.type⟩⟩

/-- A column whose names have no line feeds, and whose own name stays on its
line as a literal. -/
structure LinedColumn (column : Column) : Prop where
  name : '\n' ∉ column.name.toList
  oneLine : OneLine column.name
  type : '\n' ∉ column.typeToken.toList

theorem PlainColumn.lined {column : Column} (plain : PlainColumn column) : LinedColumn column :=
  ⟨plain.name, plain.inert.oneLine, plain.type⟩

/-- The column that a column is read back as. -/
def bridgedColumn (document : Document) (column : Column) (key? : Option ForeignKey) :
    Column where
  name := identifier column.name
  typeToken := typeName document column
  constraints := joined " " (columnAttributes document.format column key?)
  nullable := column.nullable && !column.primaryKey && !column.isList
  primaryKey := column.primaryKey
  unique := column.unique && !column.primaryKey
  isList := column.isList
  defaultText := columnDefault? document.format column

/-- A default that stays on its line and adds no mark to its column. -/
structure Harmless (column : Column) (text : String) : Prop where
  oneLine : ∀ c ∈ text.toList, isLineBoundary c = false
  id : hasAttribute "@id" text.toList = true → column.primaryKey = true
  unique : hasAttribute "@unique" text.toList = true →
    (column.unique && !column.primaryKey) = true

instance (column : Column) (text : String) : Decidable (Harmless column text) :=
  decidable_of_iff
    ((∀ c ∈ text.toList, isLineBoundary c = false) ∧
      (hasAttribute "@id" text.toList = true → column.primaryKey = true) ∧
      (hasAttribute "@unique" text.toList = true →
        (column.unique && !column.primaryKey) = true))
    ⟨fun ⟨oneLine, id, unique⟩ => ⟨oneLine, id, unique⟩,
      fun harmless => ⟨harmless.oneLine, harmless.id, harmless.unique⟩⟩

/-- A column whose default, if it has one, is harmless. -/
def Survives (format : String) (column : Column) : Prop :=
  ∀ text ∈ columnDefault? format column, Harmless column text

instance (format : String) (column : Column) : Decidable (Survives format column) :=
  inferInstanceAs (Decidable (∀ text ∈ columnDefault? format column, Harmless column text))

/-- The line of a column: its names, its modifier, and what follows. -/
theorem toList_columnLine (document : Document) (column : Column) (key? : Option ForeignKey) :
    (columnLine document column key?).toList =
      ' ' :: ' ' :: ((identifier column.name).toList ++ ' ' :: ((typeName document column).toList ++
        (modifierChars (modifierOf column) ++
          if (columnAttributes document.format column key?).isEmpty then []
          else ' ' :: (joined " " (columnAttributes document.format column key?)).toList))) := by
  rw [columnLine, ← toList_modifierText]
  split <;> simp

/-- What stands before the argument of a default stays on its line. -/
theorem leading_oneLine (column : Column) {argument : List Char}
    (oneLine : ∀ c ∈ argument, isLineBoundary c = false) :
    ∀ c ∈ leadingChars column ++ ("@default".toList ++ '(' :: argument),
      isLineBoundary c = false := by
  have signs : ∀ chars ∈ [[], "@id ".toList, "@unique ".toList, "@default".toList, ['(']],
      ∀ c ∈ chars, isLineBoundary c = false := by
    decide
  intro c member
  rcases List.mem_append.mp member with leading | default
  · exact signs _ (List.mem_append_left _ (leadingChars_mem column)) c leading
  rcases List.mem_append.mp default with name | behind
  · exact signs _ (by simp) c name
  rcases List.mem_cons.mp behind with rfl | inArgument
  · rfl
  · exact oneLine c inArgument

/-- The default that is read from a line that was cut inside the default is a
shorter one. -/
theorem argument?_of_cut (column : Column) (front : List Char) :
    ∃ shorter, argument? (String.ofList (trimEnd isBlank (leadingChars column ++
        ("@default".toList ++ '(' :: front)))) "@default" = some (String.ofList shorter) ∧
      shorter.length ≤ front.length := by
  have trimmed : trimEnd isBlank (leadingChars column ++ ("@default".toList ++ '(' :: front)) =
      leadingChars column ++ ("@default".toList ++ '(' :: trimEnd isBlank front) := by
    have kept : trimEnd isBlank ('(' :: front) = '(' :: trimEnd isBlank front :=
      trimEnd_cons rfl front
    rw [← List.append_assoc, trimEnd_append (by simp [kept]), kept, List.append_assoc]
  refine ⟨strip (argumentText '(' false 0 (trimEnd isBlank front)), ?_, ?_⟩
  · rw [argument?, argumentChars?, String.toList_ofList, trimmed, find?_default]
    rfl
  · calc (strip (argumentText '(' false 0 (trimEnd isBlank front))).length
      _ ≤ (argumentText '(' false 0 (trimEnd isBlank front)).length := length_trim_le _ _
      _ ≤ (trimEnd isBlank front).length := (argumentText_isPrefix _ _ _ _).length_le
      _ ≤ front.length := length_trimEnd_le _ _

section Line

variable {document : Document} {column : Column} (lined : LinedColumn column)
  {key? : Option ForeignKey}
include lined

/-- The attributes of a column stay on its line if its default does. -/
theorem columnAttributes_oneLine (plainKey : ∀ key ∈ key?, PlainKey key)
    (default : ∀ text ∈ columnDefault? document.format column,
      ∀ c ∈ text.toList, isLineBoundary c = false) :
    ∀ c ∈ (joined " " (columnAttributes document.format column key?)).toList,
      isLineBoundary c = false :=
  (uncut_joined_iff (by decide)).mpr <| uncut_columnAttributes_iff.mpr
    ⟨default, fun key member => (plainKey key member).oneLine, lined.oneLine⟩

variable (enumNames : ∀ enumeration ∈ document.enums, '\n' ∉ enumeration.name.toList)
include enumNames

/-- A line that is not cut declares one column. -/
theorem columnsIn_columnLine (plainKey : ∀ key ∈ key?, PlainKey key)
    (default : ∀ text ∈ columnDefault? document.format column,
      ∀ c ∈ text.toList, isLineBoundary c = false) :
    columnsIn (columnLine document column key?).toList =
      [readColumn (identifier column.name).toList (typeName document column).toList
        (modifierOf column)
        (joined " " (columnAttributes document.format column key?)).toList] := by
  have nameIsName := isName_identifier lined.name
  have typeIsName := isName_typeName enumNames lined.type
  rw [toList_columnLine]
  split
  · rename_i unwritten
    rw [List.isEmpty_iff.mp unwritten, List.append_nil]
    exact columnsIn_bare nameIsName typeIsName _
  · rename_i written
    have solid : Solid (joined " " (columnAttributes document.format column key?)).toList :=
      Solid.joined fun text member => solid_of_mem_columnAttributes member
    have nonempty : (joined " " (columnAttributes document.format column key?)).toList ≠ [] := by
      obtain ⟨first, later, spelled⟩ :=
        List.exists_cons_of_ne_nil fun empty => written (List.isEmpty_iff.mpr empty)
      rw [spelled, toList_joined_cons]
      apply List.append_ne_nil_of_left_ne_nil
      exact (solid_of_mem_columnAttributes (spelled ▸ List.mem_cons_self)).2
    rw [columnsIn_attributes nameIsName typeIsName _ solid.first nonempty
      (columnAttributes_oneLine lined plainKey default), trimEnd_of_solid solid]

/-- A line that is cut in the default declares the column with what stands
before the cut, and what stands behind it declares columns of its own. -/
theorem columnsIn_columnLine_of_cut {text : String} {front back : List Char} {boundary : Char}
    (written : columnDefault? document.format column = some text)
    (spelled : text.toList = front ++ boundary :: back)
    (cuts : isLineBoundary boundary = true)
    (oneLine : ∀ c ∈ front, isLineBoundary c = false) (key? : Option ForeignKey) :
    columnsIn (columnLine document column key?).toList =
      readColumn (identifier column.name).toList (typeName document column).toList
          (modifierOf column)
          (trimEnd isBlank (leadingChars column ++ ("@default".toList ++ '(' :: front))) ::
        columnsIn (back ++ ')' :: trailingChars column key?) := by
  have line : (columnLine document column key?).toList =
      (' ' :: ' ' :: ((identifier column.name).toList ++
        ' ' :: ((typeName document column).toList ++ (modifierChars (modifierOf column) ++
          ' ' :: (leadingChars column ++ ("@default".toList ++ '(' :: front)))))) ++
        boundary :: (back ++ ')' :: trailingChars column key?) := by
    have nonempty : (columnAttributes document.format column key?).isEmpty = false := by
      simp [columnAttributes, written]
    rw [toList_columnLine, nonempty, toList_columnAttributes written, spelled]
    simp
  obtain ⟨rest, begun⟩ := leadingChars_append_default column ('(' :: front)
  have starts : Stops isBlank (leadingChars column ++ ("@default".toList ++ '(' :: front)) := by
    rw [begun]
    exact stops_cons_iff.mpr rfl
  rw [line, columnsIn_append_cons cuts, columnsIn_attributes (isName_identifier lined.name)
    (isName_typeName enumNames lined.type) _ starts (by simp) (leading_oneLine column oneLine)]
  rfl

end Line

section Column

variable {document : Document} {column : Column} (plain : PlainColumn column)
  {key? : Option ForeignKey}
include plain

/-- A line with the attributes that a column is written with gives the column
that it is read back as, but for the marks in its default. -/
theorem readColumn_columnAttributes
    (closed : ∀ text ∈ columnDefault? document.format column, ¬RunsOn text) :
    readColumn (identifier column.name).toList (typeName document column).toList
        (modifierOf column) (joined " " (columnAttributes document.format column key?)).toList =
      { bridgedColumn document column key? with
        primaryKey := column.primaryKey ||
          (columnDefault? document.format column).any fun text => hasAttribute "@id" text.toList
        unique := (column.unique && !column.primaryKey) ||
          (columnDefault? document.format column).any fun text =>
            hasAttribute "@unique" text.toList } := by
  have mark (name : String) (member : name ∈ markNames) :
      hasAttribute name (joined " " (columnAttributes document.format column key?)).toList = _ :=
    hasAttribute_columnAttributes member plain.inert.atSign key?
  have id := mark "@id" (by decide)
  have unique := mark "@unique" (by decide)
  have default := argument?_columnAttributes plain.inert.atSign closed key?
  have modifiers : (modifierOf column == .optional) =
      (column.nullable && !column.primaryKey && !column.isList) ∧
        (modifierOf column == .list) = column.isList := by
    unfold modifierOf
    cases column.isList <;> cases column.nullable <;> cases column.primaryKey <;> decide
  simp only [readColumn, String.ofList_toList, isPrimaryKey, isUnique, id, unique, default,
    modifiers, bridgedColumn]
  simp

variable (enumNames : ∀ enumeration ∈ document.enums, '\n' ∉ enumeration.name.toList)
  (closed : ∀ text ∈ columnDefault? document.format column, ¬RunsOn text)
include enumNames closed

/-- A column that survives is read back. -/
theorem columnsIn_columnLine_of_survives (plainKey : ∀ key ∈ key?, PlainKey key)
    (survives : Survives document.format column) :
    columnsIn (columnLine document column key?).toList =
      [bridgedColumn document column key?] := by
  have id : ((columnDefault? document.format column).any
      fun text => hasAttribute "@id" text.toList) = true → column.primaryKey = true := by
    intro found
    obtain ⟨text, written, inText⟩ := (Option.any_eq_true _ _).mp found
    exact (survives text written).id inText
  have unique : ((columnDefault? document.format column).any
      fun text => hasAttribute "@unique" text.toList) = true →
        (column.unique && !column.primaryKey) = true := by
    intro found
    obtain ⟨text, written, inText⟩ := (Option.any_eq_true _ _).mp found
    exact (survives text written).unique inText
  rw [columnsIn_columnLine plain.lined enumNames plainKey fun text written =>
    (survives text written).oneLine, readColumn_columnAttributes plain closed]
  simp only [bridgedColumn, Bool.or_eq_left_iff_imp.mpr id, Bool.or_eq_left_iff_imp.mpr unique]

/-- A column that does not survive loses its default or gains a mark. -/
theorem columnsIn_columnLine_of_not_survives (plainKey : ∀ key ∈ key?, PlainKey key)
    (lost : ¬Survives document.format column) :
    ∃ wrong later, columnsIn (columnLine document column key?).toList = wrong :: later ∧
      (wrong.defaultText ≠ (bridgedColumn document column key?).defaultText ∨
        wrong.primaryKey ≠ (bridgedColumn document column key?).primaryKey ∨
        wrong.unique ≠ (bridgedColumn document column key?).unique) := by
  simp only [bridgedColumn]
  obtain ⟨text, lostText⟩ := Classical.not_forall.mp lost
  obtain ⟨written, harmful⟩ := Classical.not_imp.mp lostText
  by_cases oneLine : ∀ c ∈ text.toList, isLineBoundary c = false
  · have writtenOneLine : ∀ other ∈ columnDefault? document.format column,
        ∀ c ∈ other.toList, isLineBoundary c = false := by
      intro other otherWritten
      rw [written, Option.mem_some_iff] at otherWritten
      exact otherWritten ▸ oneLine
    have read := columnsIn_columnLine plain.lined enumNames plainKey writtenOneLine
    rw [readColumn_columnAttributes plain closed, written] at read
    refine ⟨_, _, read, .inr ?_⟩
    by_cases id : (column.primaryKey || hasAttribute "@id" text.toList) = column.primaryKey
    · right
      intro unique
      exact harmful
        ⟨oneLine, Bool.or_eq_left_iff_imp.mp id, Bool.or_eq_left_iff_imp.mp unique⟩
    · exact .inl id
  · obtain ⟨c, member, cuts⟩ : ∃ c ∈ text.toList, isLineBoundary c = true := by
      simpa using oneLine
    obtain ⟨front, boundary, back, spelled, boundaryCuts, frontOneLine⟩ := exists_first member cuts
    obtain ⟨shorter, default, bound⟩ := argument?_of_cut column front
    rw [columnsIn_columnLine_of_cut plain.lined enumNames written spelled boundaryCuts frontOneLine]
    refine ⟨_, _, rfl, .inl ?_⟩
    rw [readColumn, default, Option.mem_def.mp written]
    intro same
    have length := congrArg (fun text => text.toList.length) (Option.some.inj same)
    simp only [String.toList_ofList, spelled, List.length_append, List.length_cons] at length
    omega

end Column

end Crowsfoot.Dsl
