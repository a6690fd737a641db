import Crowsfoot.Schema.Classification

/-!
# Fields and their surroundings

A field shows its column, and a few marks that come from its surroundings: the
enums of the document, the relations of its table, and the suffixes of foreign
keys.  Everything else can be seen from the column alone, so two columns that
give the same field alone give the same field everywhere.
-/

namespace Crowsfoot

/-- The field of a column by itself, without enums, relations and suffixes. -/
def Field.alone (column : Column) : Field :=
  Field.ofColumn [] [] [] column

/-- A field among the enums of a document, the bound columns of a table and the
suffixes of foreign keys. -/
def Field.among (enumNames bound suffixes : List String) (field : Field) : Field :=
  let column : Column := { name := field.name, typeToken := field.typeName }
  let kind := columnKind enumNames column
  let isRelationField := isRelationColumn bound column
  { field with
    kind := kind
    isForeignKey := isForeignKeyColumn suffixes column
    isRelationField := isRelationField
    hasConnections := isRelationField || kind == .modelReference }

/-- A field without its default value. -/
def Field.withoutDefault (field : Field) : Field :=
  { field with defaultValue := none }

theorem Field.ofColumn_eq_among (enumNames bound suffixes : List String) (column : Column) :
    Field.ofColumn enumNames bound suffixes column =
      (Field.alone column).among enumNames bound suffixes := by
  unfold Field.alone Field.ofColumn Field.among
  cases classifyDefault column.defaultText
  cases Dsl.relationColumns column.constraints
  rfl

theorem Field.among_among (enumNames bound suffixes otherNames otherBound otherSuffixes :
    List String) (field : Field) :
    (field.among enumNames bound suffixes).among otherNames otherBound otherSuffixes =
      field.among otherNames otherBound otherSuffixes :=
  rfl

theorem Field.alone_among_nil (column : Column) :
    (Field.alone column).among [] [] [] = Field.alone column :=
  (Field.ofColumn_eq_among [] [] [] column).symm

/-- Two columns give the same field but for its default value if they agree in
what the other properties are made of. -/
theorem Field.withoutDefault_alone_congr {first second : Column} (name : first.name = second.name)
    (typeToken : first.typeToken = second.typeToken) (isList : first.isList = second.isList)
    (nullable : first.nullable = second.nullable)
    (primaryKey : first.primaryKey = second.primaryKey) (unique : first.unique = second.unique)
    (defaultKind : (classifyDefault first.defaultText).1 = (classifyDefault second.defaultText).1)
    (hasRelation : Dsl.hasRelation first.constraints = Dsl.hasRelation second.constraints)
    (relation : Dsl.relationColumns first.constraints = Dsl.relationColumns second.constraints) :
    (Field.alone first).withoutDefault = (Field.alone second).withoutDefault := by
  simp only [Field.alone, Field.ofColumn, Field.withoutDefault, columnKind, isRelationColumn,
    isKeyColumn, isForeignKeyColumn, name, typeToken, isList, nullable, primaryKey, unique,
    defaultKind, hasRelation, relation]

/-- Columns of one name and type give the same field exactly if they agree in
what is said by their attributes. -/
theorem Field.alone_eq_iff {first second : Column} (name : first.name = second.name)
    (typeToken : first.typeToken = second.typeToken) (isList : first.isList = second.isList)
    (nullable : first.nullable = second.nullable) :
    Field.alone first = Field.alone second ↔
      isKeyColumn first = isKeyColumn second ∧ first.unique = second.unique ∧
        classifyDefault first.defaultText = classifyDefault second.defaultText ∧
        Dsl.hasRelation first.constraints = Dsl.hasRelation second.constraints ∧
        Dsl.relationColumns first.constraints = Dsl.relationColumns second.constraints := by
  simp only [Field.alone, Field.ofColumn, columnKind, isRelationColumn, isForeignKeyColumn, name,
    typeToken, isList, nullable, Field.mk.injEq, true_and, Prod.ext_iff]
  constructor
  · rintro ⟨key, unique, kind, value, relation, columns, references⟩
    exact ⟨key, unique, ⟨kind, value⟩, relation, columns, references⟩
  · rintro ⟨key, unique, ⟨kind, value⟩, relation, columns, references⟩
    exact ⟨key, unique, kind, value, relation, columns, references⟩

theorem relationColumns_alone (column : Column) :
    (Field.alone column).relationColumns = (Dsl.relationColumns column.constraints).1 := by
  unfold Field.alone Field.ofColumn
  cases classifyDefault column.defaultText
  cases Dsl.relationColumns column.constraints
  rfl

/-- The bound columns of a table can be seen from its fields. -/
theorem relationBound_eq (table : Table) :
    relationBound table =
      (table.columns.map Field.alone).flatMap Field.relationColumns := by
  simp only [relationBound, List.flatMap_map, relationColumns_alone]

/-- The model of a table is made of the fields of its columns alone. -/
theorem Model.ofTable_eq (enumNames suffixes : List String) (table : Table) :
    Model.ofTable enumNames suffixes table =
      { name := table.name
        fields := (table.columns.map Field.alone).map
          (Field.among enumNames (relationBound table) suffixes) } := by
  simp only [Model.ofTable, List.map_map, Function.comp_def, ← Field.ofColumn_eq_among]

/-- Columns that give the same fields alone give the same model. -/
theorem Model.ofTable_eq_iff (enumNames suffixes : List String) (name : String)
    (first second : List Column) :
    Model.ofTable enumNames suffixes { name := name, columns := first } =
        Model.ofTable enumNames suffixes { name := name, columns := second } ↔
      first.map Field.alone = second.map Field.alone := by
  have forget (columns : List Column) (enumNames bound suffixes : List String) :
      ((columns.map Field.alone).map (Field.among enumNames bound suffixes)).map
        (Field.among [] [] []) = columns.map Field.alone := by
    simp only [List.map_map, Function.comp_def, Field.among_among, Field.alone_among_nil]
  rw [Model.ofTable_eq, Model.ofTable_eq, Model.mk.injEq, and_iff_right rfl]
  constructor
  · intro same
    have bare := congrArg (List.map (Field.among [] [] [])) same
    rwa [forget, forget] at bare
  · intro same
    rw [relationBound_eq, relationBound_eq, same]

/-! ## Fields in a row -/

/-- Dropping the default of the first of some fields behind others. -/
theorem modify_append_length {α : Type} (change : α → α) (before rest : List α) :
    (before ++ rest).modify before.length change = before ++ rest.modify 0 change := by
  induction before with
  | nil => rfl
  | cons first later ih => simp [ih]

theorem map_modify {α β : Type} (image : α → β) (change : α → α) (changeImage : β → β)
    (commutes : ∀ part, image (change part) = changeImage (image part)) (parts : List α)
    (index : Nat) :
    (parts.map image).modify index changeImage = (parts.modify index change).map image := by
  induction parts generalizing index with
  | nil => simp
  | cons part later ih =>
      cases index with
      | zero => simp [commutes]
      | succ index => simp [ih]

/-- Surroundings do not touch the default value. -/
theorem map_among_modify (enumNames bound suffixes : List String) (fields : List Field)
    (index : Nat) :
    (fields.map (Field.among enumNames bound suffixes)).modify index Field.withoutDefault =
      (fields.modify index Field.withoutDefault).map (Field.among enumNames bound suffixes) :=
  map_modify (Field.among enumNames bound suffixes) Field.withoutDefault Field.withoutDefault
    (fun _ => rfl) fields index

/-- The relations of fields do not depend on default values. -/
theorem flatMap_relationColumns_modify (fields : List Field) (index : Nat) :
    (fields.modify index Field.withoutDefault).flatMap Field.relationColumns =
      fields.flatMap Field.relationColumns := by
  induction fields generalizing index with
  | nil => simp
  | cons field later ih =>
      cases index with
      | zero => simp [Field.withoutDefault]
      | succ index => simp [ih]

/-- What follows the first field does not matter to a comparison without its
default. -/
theorem modify_zero_append_iff {α : Type} {change : α → α} {first second after : List α} :
    (first ++ after).modify 0 change = (second ++ after).modify 0 change ↔
      first.modify 0 change = second.modify 0 change := by
  cases first with
  | nil =>
      cases second with
      | nil => simp
      | cons part later =>
          constructor
          · intro same
            have lengths := congrArg List.length same
            simp only [List.length_modify, List.length_append, List.length_cons,
              List.length_nil] at lengths
            omega
          · simp
  | cons part later =>
      cases second with
      | nil =>
          constructor
          · intro same
            have lengths := congrArg List.length same
            simp only [List.length_modify, List.length_append, List.length_cons,
              List.length_nil] at lengths
            omega
          · simp
      | cons other more =>
          simp only [List.cons_append, List.modify_zero_cons, List.cons.injEq,
            List.append_left_inj]

/-- Columns that give the same fields, but for the default value of the first. -/
def AlikeColumns (first second : List Column) : Prop :=
  (first.map Field.alone).modify 0 Field.withoutDefault =
    (second.map Field.alone).modify 0 Field.withoutDefault

instance (first second : List Column) : Decidable (AlikeColumns first second) :=
  inferInstanceAs (Decidable (_ = _))

theorem AlikeColumns.refl (columns : List Column) : AlikeColumns columns columns :=
  rfl

/-- Columns behind do not matter. -/
theorem alikeColumns_append_iff {first second after : List Column} :
    AlikeColumns (first ++ after) (second ++ after) ↔ AlikeColumns first second := by
  rw [AlikeColumns, List.map_append, List.map_append, modify_zero_append_iff]
  rfl

/-- Fields of columns alone stay as they are without surroundings. -/
theorem map_among_nil_modify (columns : List Column) (index : Nat) :
    ((columns.map Field.alone).modify index Field.withoutDefault).map (Field.among [] [] []) =
      (columns.map Field.alone).modify index Field.withoutDefault := by
  rw [← map_among_modify, List.map_map]
  simp only [Function.comp_def, Field.alone_among_nil]

/-- The fields of two tables that differ in some columns only agree, the
default of the first of those columns aside, exactly if these columns are
alike. -/
theorem fields_agree_iff {before first second after : List Column}
    (enumNames suffixes : List String) (name : String) :
    (Model.ofTable enumNames suffixes
          { name := name, columns := before ++ first ++ after }).fields.modify before.length
        Field.withoutDefault =
      (Model.ofTable enumNames suffixes
          { name := name, columns := before ++ second ++ after }).fields.modify before.length
        Field.withoutDefault ↔
      AlikeColumns first second := by
  have alone (changed : List Column) :
      ((before ++ changed ++ after).map Field.alone).modify before.length Field.withoutDefault =
        before.map Field.alone ++
          ((changed ++ after).map Field.alone).modify 0 Field.withoutDefault := by
    have behind := modify_append_length Field.withoutDefault (before.map Field.alone)
      ((changed ++ after).map Field.alone)
    rw [List.length_map] at behind
    rw [List.append_assoc, List.map_append, behind]
  have columnsIff :
      ((before ++ first ++ after).map Field.alone).modify before.length Field.withoutDefault =
        ((before ++ second ++ after).map Field.alone).modify before.length Field.withoutDefault ↔
      AlikeColumns first second := by
    have behind := @alikeColumns_append_iff first second after
    rw [alone, alone, List.append_right_inj, ← behind]
    rfl
  have forget (enumNames bound suffixes : List String) (fields : List Field) :
      (fields.map (Field.among enumNames bound suffixes)).map (Field.among [] [] []) =
        fields.map (Field.among [] [] []) := by
    simp only [List.map_map, Function.comp_def, Field.among_among]
  rw [← columnsIff, Model.ofTable_eq, Model.ofTable_eq, map_among_modify, map_among_modify]
  constructor
  · intro same
    have bare := congrArg (List.map (Field.among [] [] [])) same
    rwa [forget, forget, map_among_nil_modify, map_among_nil_modify] at bare
  · intro same
    have bound := congrArg (List.flatMap Field.relationColumns) same
    rw [flatMap_relationColumns_modify, flatMap_relationColumns_modify] at bound
    rw [same, relationBound_eq, relationBound_eq, bound]

end Crowsfoot
