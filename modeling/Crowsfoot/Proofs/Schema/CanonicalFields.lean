import Crowsfoot.Proofs.Schema.Integrity
import Crowsfoot.Proofs.Text.Recognizers

/-!
# Canonical fields

The marks of a field are set by separate rules: one looks at its type and the
enums of the document, one at the relations of the whole table, the others at
its column alone.  This module says how the marks of one field belong together,
in terms of the field, the other fields of its model, and the enums.  All
documents whose names are accepted are classified, and all their fields are
marked in this way.
-/

namespace Crowsfoot

open Crowsfoot.Text

theorem Text.contains_eq_true_iff {part text : List Char} :
    contains part text = true ↔ part <:+: text := by
  induction text with
  | nil =>
      rw [contains, occurs, find?, Option.isSome_iff_exists, List.infix_nil]
      simp [literal?_eq_some_iff]
  | cons c rest ih =>
      rw [contains, occurs_cons, Bool.or_eq_true, ← contains, ih, List.infix_cons_iff,
        Option.isSome_iff_exists]
      simp only [literal?_eq_some_iff]
      exact or_congr_left (exists_congr fun _ => eq_comm)

/-- The value of a default is kept exactly where it is a literal. -/
theorem isSome_classifyDefault_iff (default? : Option String) :
    (classifyDefault default?).2.isSome = true ↔ (classifyDefault default?).1 = .literal := by
  have functions : ∀ entry ∈ [("now()", DefaultKind.now), ("autoincrement()", .autoincrement),
      ("uuid()", .uuid)], entry.2 ≠ .literal := by
    decide
  cases default? with
  | none => simp [classifyDefault]
  | some text =>
      unfold classifyDefault
      dsimp only
      cases found : defaultFunction? text.toList with
      | none => simp
      | some kind =>
          have other : kind ≠ .literal := functions _ (Assoc.mem_of_lookup found)
          simp [other]

/-- Only the attributes of a relation name columns. -/
theorem hasRelation_of_relationColumns {attributes : String}
    (named : (Dsl.relationColumns attributes).1 ≠ [] ∨ (Dsl.relationColumns attributes).2 ≠ []) :
    Dsl.hasRelation attributes = true := by
  by_contra absent
  rw [Dsl.relationColumns, if_neg absent] at named
  simp at named

theorem isDslScalar_eq_true_iff {token : String} : isDslScalar token = true ↔ token ∈ dslScalars :=
  List.contains_iff_mem

/-- A column refers to an enum exactly if its type is the name of one, and not
that of a scalar. -/
theorem columnKind_eq_enumReference_iff {enumNames : List String} {column : Column} :
    columnKind enumNames column = .enumReference ↔
      column.typeToken ∉ dslScalars ∧ column.typeToken ∈ enumNames := by
  have reference := isReference_columnKind enumNames column
  rw [← isDslScalar_eq_true_iff]
  by_cases scalar : isDslScalar column.typeToken = true
  · rw [Column.isReference, scalar] at reference
    simp only [scalar, not_true_eq_false, false_and, iff_false]
    intro isEnum
    rw [isEnum] at reference
    contradiction
  · rw [columnKind, if_neg scalar]
    by_cases declared : column.typeToken ∈ enumNames <;> simp [scalar, declared]

theorem isKeyColumn_eq_true_iff {column : Column} :
    isKeyColumn column = true ↔
      column.primaryKey = true ∨
        (column.name = "id" ∧ column.typeToken ∈ dslScalars) ∨
        (column.unique = true ∧ "id".toList <:+: (lower column.name).toList) := by
  rw [isKeyColumn, Bool.or_eq_true, Bool.or_eq_true, Bool.and_eq_true, Bool.and_eq_true,
    beq_iff_eq, isDslScalar_eq_true_iff, Text.contains_eq_true_iff, or_assoc,
    and_comm (a := column.unique = true)]

theorem isForeignKeyColumn_eq_true_iff {suffixes : List String} {column : Column} :
    isForeignKeyColumn suffixes column = true ↔
      column.typeToken ∈ dslScalars ∧
        ∃ suffix ∈ suffixes, suffix.toList <:+ column.name.toList := by
  simp only [isForeignKeyColumn, Bool.and_eq_true, isDslScalar_eq_true_iff, List.any_eq_true,
    List.isSuffixOf_iff_suffix]

/-! ## Fields -/

/-- How the marks of a field belong together: `column` is the column that the
field is made of, `model` the model that it stands in. -/
structure Field.IsCanonical (enums : List Enumeration) (suffixes : List String) (model : Model)
    (column : Column) (field : Field) : Prop where
  name : field.name = column.name
  typeName : field.typeName = column.typeToken
  reference : field.kind.isReference = true ↔ field.typeName ∉ dslScalars
  enumReference : field.kind = .enumReference ↔
    field.typeName ∉ dslScalars ∧ ∃ enumeration ∈ enums, enumeration.name = field.typeName
  scalarRelation : field.kind.isReference = false →
    (field.isRelationField = true ↔ ∃ other ∈ model.fields, field.name ∈ other.relationColumns)
  referenceRelation : field.kind.isReference = true → field.isRelationField = true
  connections : field.hasConnections = field.isRelationField
  foreignKey : field.isForeignKey = true ↔
    field.kind.isReference = false ∧ ∃ suffix ∈ suffixes, suffix.toList <:+ field.name.toList
  relation : field.relationColumns ≠ [] ∨ field.relationReferences ≠ [] →
    field.hasRelationAttribute = true
  default : field.defaultValue.isSome = true ↔ field.defaultKind = .literal
  key : field.isPrimaryKey = true ↔
    column.primaryKey = true ∨
      (field.name = "id" ∧ field.kind.isReference = false) ∨
      (field.isUnique = true ∧ "id".toList <:+: (lower field.name).toList)
  unique : field.isUnique = column.unique

/-- A model with the fields of the columns of a table, in their order. -/
structure Model.IsCanonical (enums : List Enumeration) (suffixes : List String) (table : Table)
    (model : Model) : Prop where
  name : model.name = table.name
  fields : List.Forall₂ (Field.IsCanonical enums suffixes model) table.columns model.fields

/-- A column is bound exactly if a field of the model names it. -/
theorem mem_relationBound_iff {enumNames suffixes : List String} {table : Table} {name : String} :
    name ∈ relationBound table ↔
      ∃ other ∈ (Model.ofTable enumNames suffixes table).fields, name ∈ other.relationColumns := by
  rw [relationBound, List.mem_flatMap]
  constructor
  · rintro ⟨column, inTable, named⟩
    exact ⟨_, List.mem_map_of_mem inTable, named⟩
  · rintro ⟨other, inModel, named⟩
    obtain ⟨column, inTable, rfl⟩ := List.mem_map.mp inModel
    exact ⟨column, inTable, named⟩

theorem Field.isCanonical_ofColumn (enums : List Enumeration) (suffixes : List String)
    (table : Table) (column : Column) :
    (Field.ofColumn (enums.map Enumeration.name) (relationBound table) suffixes
        column).IsCanonical enums suffixes
      (Model.ofTable (enums.map Enumeration.name) suffixes table) column := by
  have kind := isReference_columnKind (enums.map Enumeration.name) column
  have reference : (columnKind (enums.map Enumeration.name) column).isReference = true ↔
      column.typeToken ∉ dslScalars := by
    rw [kind, Column.isReference, Bool.not_eq_true', ← Bool.not_eq_true, isDslScalar_eq_true_iff]
  have scalar : (columnKind (enums.map Enumeration.name) column).isReference = false ↔
      column.typeToken ∈ dslScalars := by
    rw [← Bool.not_eq_true, reference, not_not]
  have related : (columnKind (enums.map Enumeration.name) column).isReference = true →
      isRelationColumn (relationBound table) column = true := by
    intro isReference
    rw [kind, Column.isReference] at isReference
    rw [isRelationColumn, isReference, Bool.true_or]
  constructor
  case name => rfl
  case typeName => rfl
  case unique => rfl
  case reference => exact reference
  case enumReference =>
    refine columnKind_eq_enumReference_iff.trans ?_
    rw [List.mem_map]
    rfl
  case scalarRelation =>
    intro isScalar
    have bound : isRelationColumn (relationBound table) column = true ↔
        column.name ∈ relationBound table := by
      rw [isRelationColumn, isDslScalar_eq_true_iff.mpr (scalar.mp isScalar), Bool.not_true,
        Bool.false_or, List.contains_iff_mem]
    exact bound.trans mem_relationBound_iff
  case referenceRelation => exact related
  case connections =>
    change (isRelationColumn (relationBound table) column ||
      columnKind (enums.map Enumeration.name) column == .modelReference) =
        isRelationColumn (relationBound table) column
    rw [Bool.or_eq_left_iff_imp, beq_iff_eq]
    intro isModel
    exact related (by rw [isModel]; rfl)
  case foreignKey =>
    exact isForeignKeyColumn_eq_true_iff.trans (and_congr_left' scalar.symm)
  case relation => exact hasRelation_of_relationColumns
  case default => exact isSome_classifyDefault_iff column.defaultText
  case key =>
    refine isKeyColumn_eq_true_iff.trans (or_congr_right (or_congr_left ?_))
    exact and_congr_right fun _ => scalar.symm

theorem Model.isCanonical_ofTable (enums : List Enumeration) (suffixes : List String)
    (table : Table) :
    (Model.ofTable (enums.map Enumeration.name) suffixes table).IsCanonical enums suffixes
      table where
  name := rfl
  fields := by
    rw [Model.ofTable, List.forall₂_map_right_iff, List.forall₂_same]
    exact fun column _ => Field.isCanonical_ofColumn enums suffixes table column

/-- A document is classified exactly if its names are accepted.  Its enums are
then those of the document, and it has one model for each table in order, with
one field for each column in order, marked as fields are. -/
theorem Document.classify_isCanonical (document : Document) (rejects : Bool)
    (suffixes : List String) :
    ((∃ classified, document.classify rejects suffixes = .ok classified) ↔
        (rejects = true → document.DistinctNames)) ∧
      ∀ models enums, document.classify rejects suffixes = .ok (models, enums) →
        enums = document.enums ∧
          List.Forall₂ (Model.IsCanonical enums suffixes) document.tables models := by
  constructor
  · cases rejects with
    | false => simp [Document.classify]
    | true => simp [classify_eq_ok_iff]
  · intro models enums classified
    obtain ⟨rfl, rfl⟩ := blocks_of_classify classified
    refine ⟨rfl, ?_⟩
    rw [modelsOf, List.forall₂_map_right_iff, List.forall₂_same]
    exact fun table _ => Model.isCanonical_ofTable document.enums suffixes table

/-- Authors and their posts, with a key of each kind, an enum, and a relation
whose column is written before it. -/
def postDocument : Document where
  format := "dsl"
  tables :=
    [{ name := "Author"
       columns :=
        [{ name := "Uid", typeToken := "String", constraints := "@unique", unique := true },
         { name := "role", typeToken := "Role", defaultText := some "ADMIN" },
         { name := "posts", typeToken := "Post", isList := true }] },
     { name := "Post"
       columns :=
        [{ name := "id", typeToken := "Int", defaultText := some "autoincrement( )" },
         { name := "authorId", typeToken := "String" },
         { name := "author", typeToken := "Author"
           constraints := "@relation(fields: [authorId], references: [Uid])" }] }]
  enums := [{ name := "Role", values := ["ADMIN"] }]

/-- The posts are classified, and the marks of their fields belong together. -/
theorem classify_isCanonical_postDocument :
    (true = true → postDocument.DistinctNames) ∧
      ∃ models, postDocument.classify true ["Id"] = .ok (models, postDocument.enums) ∧
        List.Forall₂ (Model.IsCanonical postDocument.enums ["Id"]) postDocument.tables models ∧
        models.map (fun model => model.fields.map fun field =>
          (field.kind, field.isPrimaryKey, field.isForeignKey, field.isRelationField)) =
          [[(.text, true, false, false), (.enumReference, false, false, true),
              (.modelReference, false, false, true)],
            [(.integer, true, false, false), (.text, false, true, true),
              (.modelReference, false, false, true)]] := by
  have distinct : true = true → postDocument.DistinctNames := fun _ => by
    unfold Document.DistinctNames
    decide
  obtain ⟨succeeds, marks⟩ := postDocument.classify_isCanonical true ["Id"]
  obtain ⟨⟨models, enums⟩, classified⟩ := succeeds.mpr distinct
  obtain ⟨rfl, canonical⟩ := marks models enums classified
  obtain ⟨rfl, -⟩ := blocks_of_classify classified
  exact ⟨distinct, _, classified, canonical, by decide +kernel⟩

end Crowsfoot
