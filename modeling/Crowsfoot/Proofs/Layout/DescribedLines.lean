import Crowsfoot.Proofs.Dsl.QuotedDefaults
import Crowsfoot.Proofs.Dsl.ShownLines
import Crowsfoot.Proofs.Layout.Description
import Crowsfoot.Schema.Classification

/-!
# Lines of described fields

A field of a description has a line in the text of the description, and its
column has a line in the text that is written for the export layout.
-/

namespace Crowsfoot

open Crowsfoot.Text Crowsfoot.Dsl

namespace Description

theorem Name.isName (name : Name) : IsName name.text.toList :=
  isName_of_isIdentifier name.isIdentifier

theorem Name.oneLine (name : Name) : '\n' ∉ name.text.toList :=
  name.isName.oneLine

/-- An identifier is written as it is. -/
theorem Name.identifier_text (name : Name) : identifier name.text = name.text :=
  identifier_eq_self_iff.mpr (.inl (isIdentifier_eq_true_iff.mp name.isIdentifier))

theorem Name.blockName_text (name : Name) :
    blockName SourceFormat.dsl.name name.text = name.text :=
  name.identifier_text

theorem nameList_texts (names : List Name) :
    nameList (texts names) = joined ", " (texts names) := by
  have same : identifier ∘ Name.text = Name.text := funext Name.identifier_text
  rw [nameList, texts, List.map_map, same]

/-- A digit begins a number, and so does a minus sign. -/
theorem mem_literalSigns {c : Char} (begins : c = '-' ∨ c.isDigit = true) : c ∈ literalSigns := by
  rcases begins with rfl | digit
  · decide
  · have codes : ∀ code < 58, 48 ≤ code → Char.ofNat code ∈ literalSigns := by decide
    simp only [Char.isDigit, Bool.and_eq_true, decide_eq_true_eq, ge_iff_le,
      UInt32.le_iff_toNat_le] at digit
    have member := codes c.toNat (Nat.lt_succ_of_le digit.2) digit.1
    rwa [Char.ofNat_toNat] at member

/-- The characters of an integer are digits, behind a sign if it is negative. -/
theorem isNumber_toString (number : Int) : isNumber (toString number).toList = true := by
  have digits : ∀ c ∈ Nat.toDigits 10 number.natAbs, c.isDigit = true :=
    fun c => Json.isAsciiDigit_of_mem_toDigits
  have read : run? isDecimal (Nat.toDigits 10 number.natAbs) =
      some (Nat.toDigits 10 number.natAbs, []) := by
    have whole := run?_append Nat.toDigits_ne_nil
      (fun c member => isDecimal_of_isDigit (digits c member)) (stops_nil _)
    rwa [List.append_nil] at whole
  have unsignedDigits : unsigned (toString number).toList = Nat.toDigits 10 number.natAbs := by
    rw [Json.toList_toString_int_eq]
    split
    · rfl
    · obtain ⟨first, later, spelled⟩ :=
        List.exists_cons_of_ne_nil (Nat.toDigits_ne_nil (b := 10) (n := number.natAbs))
      rw [spelled] at digits ⊢
      exact unsigned_of_ne (ne_of_class (digits first List.mem_cons_self) rfl) later
  rw [isNumber, unsignedDigits, read]

/-- An integer is written as it is. -/
theorem defaultArgument?_toString (number : Int) :
    defaultArgument? (toString number) = some (toString number) := by
  obtain ⟨c, later, spelled, begins⟩ := Json.toString_begins number
  have begun : (toString number).toList.head? = some c := by rw [spelled, List.head?_cons]
  have solid : Solid (toString number).toList := solid_of_notBlank fun c member =>
    (isDecimal_quiet (isDecimal_of_mem_number (isNumber_toString number) member)).2
  have written := defaultArgument?_of_isNumber (mem_literalSigns begins) begun solid
    (isNumber_toString number)
  rwa [String.ofList_toList] at written

/-- Every default of the export layout is written as the schema DSL has it. -/
theorem Default.defaultArgument?_declared (stated : Default) :
    defaultArgument? stated.declared = some stated.argument := by
  cases stated with
  | call function => cases function <;> decide +kernel
  | int number short => exact defaultArgument?_toString number
  | bool truth => cases truth <;> decide +kernel
  | string text => exact defaultArgument?_expression .json text

theorem Default.declared_ne_empty (stated : Default) : (stated.declared == "") = false := by
  cases stated with
  | call function => cases function <;> decide
  | int number short =>
      obtain ⟨c, later, spelled, -⟩ := Json.toString_begins number
      rw [beq_eq_false_iff_ne]
      intro empty
      have chars : (toString number).toList = "".toList := congrArg String.toList empty
      rw [spelled] at chars
      contradiction
  | bool truth => cases truth <;> decide
  | string text => exact expression_ne_empty .json text

section Field

variable (field : Field)

/-- The default that the column of a field is written with, whatever its
type. -/
theorem Field.columnDefault?_column (token : String) :
    columnDefault? SourceFormat.dsl.name { field.column with typeToken := token } =
      if isSerial token then some "autoincrement()" else field.default?.map Default.argument := by
  have declared : declaredDefault? { field.column with typeToken := token } =
      field.default?.map Default.argument := by
    simp only [declaredDefault?, Field.column]
    cases field.default? with
    | none => rfl
    | some stated =>
        simp only [Option.map_some, stated.declared_ne_empty, stated.defaultArgument?_declared]
        rfl
  simp [columnDefault?, declared]

theorem Relation.relationAttribute_eq (relation : Relation) (refTable fieldName : String) :
    relationAttribute
        { columns := texts relation.fields
          refTable := refTable
          refColumns := texts relation.references
          fieldName := fieldName } = relation.text := by
  unfold relationAttribute Relation.text
  dsimp only
  rw [nameList_texts, nameList_texts]

/-- The attributes of the column of a field are those of the field, if the
column is written with its default. -/
theorem Field.columnAttributes_column {token : String}
    (default : columnDefault? SourceFormat.dsl.name { field.column with typeToken := token } =
      field.default?.map Default.argument) :
    columnAttributes SourceFormat.dsl.name { field.column with typeToken := token } field.key? =
      field.attributes := by
  have unique : (field.isUnique && !field.isId) = field.isUnique := by
    cases unique : field.isUnique with
    | false => rfl
    | true =>
        rw [field.unique_alone unique]
        rfl
  have keys : field.key?.toList.map relationAttribute =
      field.relation?.toList.map Relation.text := by
    rw [Field.key?]
    cases field.relation? with
    | none => rfl
    | some relation => simp [relation.relationAttribute_eq]
  rw [columnAttributes, default, keys]
  simp only [Field.column, unique, field.name.identifier_text, bne_self_eq_false,
    Bool.false_eq_true, if_false, List.append_nil, Field.attributes]
  cases field.default? <;> rfl

/-- The column of a field, were it of a type that does not number itself. -/
def Field.standIn : Column :=
  { field.column with typeToken := "String" }

theorem Field.columnDefault?_standIn :
    columnDefault? SourceFormat.dsl.name field.standIn = field.default?.map Default.argument := by
  rw [Field.standIn, field.columnDefault?_column, if_neg (by decide +kernel)]

theorem Field.columnAttributes_standIn :
    columnAttributes SourceFormat.dsl.name field.standIn field.key? = field.attributes :=
  field.columnAttributes_column field.columnDefault?_standIn

/-- The modifier of a field. -/
def Field.modified : Modifier :=
  modifierOf field.column

theorem Field.toList_modifier : field.modifier.toList = modifierChars field.modified := by
  have optional : (field.isOptional && !field.isId) = field.isOptional := by
    cases optional : field.isOptional with
    | false => rfl
    | true =>
        rw [(field.optional_alone optional).2]
        rfl
  rw [modified, ← toList_modifierText, modifierText, modifier]
  simp only [Field.column, optional]

theorem Field.toList_line : field.line.toList =
    fieldChars field.name.text.toList field.type.text.toList field.modified field.attributes := by
  rw [line, String.toList_append, toList_joined_cons, List.flatMap_cons, String.toList_append,
    field.toList_modifier, fieldChars]
  cases field.attributes with
  | nil => simp
  | cons first later => simp [toList_joined_cons]

end Field

/-! ## Columns in the export layout -/

/-- The enum that stands for a type in the export layout: the last one with its
name, whatever the case of the letters. -/
def namesake? (description : Description) (type : Name) : Option Enum :=
  (description.enums.filter fun enumeration =>
    lower enumeration.name.text == lower type.text).getLast?

/-- Whether the export layout keeps a field: an enum that stands for its type
has the name of the type, and a type that numbers itself comes with the default
that says so. -/
structure Keeps (description : Description) (field : Field) : Prop where
  type : ∀ enumeration ∈ description.namesake? field.type,
    enumeration.name.text = field.type.text
  default : isSerial field.type.text = true → field.default? = some (.call .autoincrement)

instance (description : Description) (field : Field) : Decidable (description.Keeps field) :=
  decidable_of_iff
    ((∀ enumeration ∈ description.namesake? field.type,
        enumeration.name.text = field.type.text) ∧
      (isSerial field.type.text = true → field.default? = some (.call .autoincrement)))
    ⟨fun ⟨type, default⟩ => ⟨type, default⟩, fun keeps => ⟨keeps.type, keeps.default⟩⟩

section Field

variable (description : Description) (field : Field)

/-- The column of a field is written with the name of the enum that stands for
its type, or with its type. -/
theorem typeName_column : typeName description.document field.column =
    ((description.namesake? field.type).map fun enumeration => enumeration.name.text).getD
      field.type.text := by
  have pairs : (description.document.enums.map fun enumeration =>
      (lower enumeration.name, blockName description.document.format enumeration.name)) =
        description.enums.map fun enumeration =>
          (lower enumeration.name.text, enumeration.name.text) := by
    rw [document, List.map_map]
    apply List.map_congr_left
    intro enumeration _
    exact congrArg (lower enumeration.name.text, ·) enumeration.name.blockName_text
  have found : (enumNames description.document).lookup (lower field.column.typeToken) =
      (description.namesake? field.type).map fun enumeration => enumeration.name.text := by
    rw [enumNames, pairs, Assoc.lookup_ofList, List.filter_map, List.getLast?_map, Option.map_map]
    rfl
  have own : identifier field.column.typeToken = field.type.text := field.type.identifier_text
  rw [typeName, found, own]
  cases description.namesake? field.type <;> rfl

/-- The line of the column of a field. -/
theorem toList_columnLine_column :
    (columnLine description.document field.column field.key?).toList =
      fieldChars field.name.text.toList (typeName description.document field.column).toList
        field.modified (columnAttributes SourceFormat.dsl.name field.column field.key?) := by
  have name : (identifier field.column.name).toList = field.name.text.toList :=
    congrArg String.toList field.name.identifier_text
  rw [toList_columnLine, name]
  rfl

variable {description field}

/-- A field that is kept has the line of its column. -/
theorem Keeps.columnLine_eq (keeps : description.Keeps field) :
    columnLine description.document field.column field.key? = field.line := by
  have type : typeName description.document field.column = field.type.text := by
    rw [typeName_column]
    cases found : description.namesake? field.type with
    | none => rfl
    | some enumeration => exact keeps.type enumeration found
  have default : columnDefault? SourceFormat.dsl.name field.column =
      field.default?.map Default.argument := by
    refine (field.columnDefault?_column field.type.text).trans ?_
    split
    · rename_i serial
      rw [keeps.default serial]
      rfl
    · rfl
  have attributes : columnAttributes SourceFormat.dsl.name field.column field.key? =
      field.attributes :=
    field.columnAttributes_column default
  rw [← String.toList_inj, toList_columnLine_column, type, attributes, field.toList_line]

end Field

/-- What is compared of a column: its type, and the kind of its default. -/
def view (column : Column) : String × DefaultKind :=
  (column.typeToken, (classifyDefault column.defaultText).1)

/-- What a line of a field shows first: its type, and the kind of its
default. -/
theorem view_columnsIn_fieldChars {name type : List Char} (nameIsName : IsName name)
    (typeIsName : IsName type) (modified : Modifier) {attributes : List String}
    (solid : ∀ text ∈ attributes, Solid text.toList ∧ text.toList ≠ []) :
    ∃ later, (columnsIn (fieldChars name type modified attributes)).map view =
      (String.ofList type, (classifyDefault (shownDefault? attributes)).1) :: later := by
  refine ⟨(columnsBehind (fieldChars name type modified attributes)).map view, ?_⟩
  rw [columnsIn_fieldChars nameIsName typeIsName modified solid, List.map_cons, view, readColumn,
    shownDefault?]

theorem view_line (field : Field) : ∃ later, (columnsIn field.line.toList).map view =
    (field.type.text, (classifyDefault (shownDefault? field.attributes)).1) :: later := by
  have solid : ∀ text ∈ field.attributes, Solid text.toList ∧ text.toList ≠ [] := by
    intro text member
    rw [← field.columnAttributes_standIn] at member
    exact solid_of_mem_columnAttributes member
  rw [field.toList_line]
  have shown := view_columnsIn_fieldChars field.name.isName field.type.isName field.modified solid
  rwa [String.ofList_toList] at shown

theorem view_columnLine (description : Description) (field : Field) :
    ∃ later, (columnsIn
      (columnLine description.document field.column field.key?).toList).map view =
        (typeName description.document field.column, (classifyDefault (shownDefault?
          (columnAttributes SourceFormat.dsl.name field.column field.key?))).1) :: later := by
  have typeIsName : IsName (typeName description.document field.column).toList := by
    rw [typeName_column]
    cases description.namesake? field.type with
    | none => exact field.type.isName
    | some enumeration => exact enumeration.name.isName
  rw [toList_columnLine_column]
  have solid : ∀ text ∈ columnAttributes SourceFormat.dsl.name field.column field.key?,
      Solid text.toList ∧ text.toList ≠ [] :=
    fun text member => solid_of_mem_columnAttributes member
  have shown := view_columnsIn_fieldChars field.name.isName typeIsName field.modified solid
  rwa [String.ofList_toList] at shown

/-- A default that does not begin with the letter of automatic numbers is of
another kind. -/
theorem kind_ne_autoincrement {c : Char} (notBlank : isBlank c = false) (other : c ≠ 'a')
    (rest : List Char) :
    (classifyDefault (some (String.ofList (c :: rest)))).1 ≠ .autoincrement := by
  have kept : removeBlanks (c :: rest) = c :: removeBlanks rest := by
    simp [removeBlanks, notBlank]
  have differs : (String.ofList (c :: removeBlanks rest) == "autoincrement()") = false := by
    rw [beq_eq_false_iff_ne]
    intro same
    have chars := congrArg String.toList same
    rw [String.toList_ofList] at chars
    exact other (List.cons.inj chars).1
  simp only [classifyDefault, defaultFunction?, String.toList_ofList, kept, List.lookup_cons,
    List.lookup_nil, differs]
  cases String.ofList (c :: removeBlanks rest) == "now()" <;>
    cases String.ofList (c :: removeBlanks rest) == "uuid()" <;> simp

/-- The argument of every default but the automatic number begins with another
letter. -/
theorem Default.argument_begins {stated : Default} (other : stated ≠ .call .autoincrement) :
    ∃ c rest, stated.argument.toList = c :: rest ∧ isBlank c = false ∧ (c ≠ '(' ∧ c ≠ ')') ∧
      c ≠ 'a' := by
  cases stated with
  | call function =>
      cases function with
      | now => exact ⟨'n', "ow()".toList, by decide, by decide, by decide, by decide⟩
      | autoincrement => contradiction
      | uuid => exact ⟨'u', "uid()".toList, by decide, by decide, by decide, by decide⟩
  | int number short =>
      obtain ⟨c, rest, spelled, begins⟩ := Json.toString_begins number
      have signs : ∀ sign ∈ literalSigns,
          isBlank sign = false ∧ (sign ≠ '(' ∧ sign ≠ ')') ∧ sign ≠ 'a' := by
        decide
      exact ⟨c, rest, spelled, signs c (mem_literalSigns begins)⟩
  | bool truth =>
      cases truth with
      | false => exact ⟨'f', "alse".toList, by decide, by decide, by decide, by decide⟩
      | true => exact ⟨'t', "rue".toList, by decide, by decide, by decide, by decide⟩
  | string text => exact ⟨'\x22', _, Json.toList_quote text, by decide, by decide, by decide⟩

/-- The name of a field holds no sign. -/
theorem Field.plainColumn (field : Field) {token : String} (oneLine : '\n' ∉ token.toList) :
    PlainColumn { field.column with typeToken := token } where
  name := field.name.oneLine
  inert := fun _ member => isHazard_of_isWord (field.name.isName.word _ member)
  type := oneLine

theorem Field.plainKey (field : Field) : ∀ key ∈ field.key?, PlainKey key := by
  have oneLine (names : List Name) : ∀ text ∈ texts names, '\n' ∉ text.toList := by
    intro text member
    obtain ⟨name, -, rfl⟩ := List.mem_map.mp member
    exact name.oneLine
  intro key related
  obtain ⟨relation, -, rfl⟩ := Option.map_eq_some_iff.mp related
  exact ⟨oneLine _, field.type.oneLine, oneLine _, field.name.oneLine⟩

/-- A field with another default shows no automatic number. -/
theorem kind_shownDefault?_attributes {field : Field}
    (other : field.default? ≠ some (.call .autoincrement)) :
    (classifyDefault (shownDefault? field.attributes)).1 ≠ .autoincrement := by
  rw [← field.columnAttributes_standIn]
  have written := field.columnDefault?_standIn
  cases stated : field.default? with
  | none =>
      rw [stated, Option.map_none] at written
      have shown := shownDefault?_eq { format := SourceFormat.dsl.name }
        (field.plainColumn (by decide : '\n' ∉ "String".toList)) field.plainKey
      rw [← Field.standIn, written] at shown
      rw [shown (by simp) (by simp)]
      decide
  | some default =>
      rw [stated] at other written
      obtain ⟨c, rest, begins, notBlank, notParen, notA⟩ :=
        Default.argument_begins fun same => other (congrArg some same)
      obtain ⟨more, shown⟩ := shownDefault?_begins written begins notBlank notParen field.key?
      rw [shown]
      exact kind_ne_autoincrement notBlank notA more

/-- The column of a type that numbers itself shows an automatic number. -/
theorem kind_shownDefault?_column {field : Field} (serial : isSerial field.type.text = true) :
    (classifyDefault (shownDefault?
      (columnAttributes SourceFormat.dsl.name field.column field.key?))).1 = .autoincrement := by
  have written : columnDefault? SourceFormat.dsl.name field.column = some "autoincrement()" :=
    (field.columnDefault?_column field.type.text).trans (if_pos serial)
  have oneLine : ∀ c ∈ "autoincrement()".toList, isLineBoundary c = false := by decide
  have closed : ¬RunsOn "autoincrement()" := fun runsOn => absurd runsOn.suffix (by decide)
  have shown : shownDefault? (columnAttributes SourceFormat.dsl.name field.column field.key?) =
      columnDefault? SourceFormat.dsl.name field.column := by
    apply shownDefault?_eq { format := SourceFormat.dsl.name }
      (field.plainColumn field.type.oneLine) field.plainKey
    · intro text default
      obtain rfl := Option.some.inj (written.symm.trans default)
      exact oneLine
    · intro text default
      obtain rfl := Option.some.inj (written.symm.trans default)
      exact closed
  rw [shown, written]
  decide

/-- A field that is not kept shows another column than its column does. -/
theorem view_ne_of_not_keeps {description : Description} {field : Field}
    (lost : ¬description.Keeps field) :
    ∃ shown later other more, (columnsIn field.line.toList).map view = shown :: later ∧
      (columnsIn (columnLine description.document field.column field.key?).toList).map view =
        other :: more ∧ shown ≠ other := by
  obtain ⟨later, shown⟩ := view_line field
  obtain ⟨more, other⟩ := view_columnLine description field
  refine ⟨_, later, _, more, shown, other, fun same => lost ?_⟩
  obtain ⟨type, kind⟩ := Prod.mk.inj same
  constructor
  · intro enumeration found
    rw [typeName_column, Option.mem_def.mp found] at type
    exact type.symm
  · intro serial
    by_contra other
    exact kind_shownDefault?_attributes other (kind.trans (kind_shownDefault?_column serial))

end Description

end Crowsfoot
