import Mathlib.Data.List.Nodup
import Crowsfoot.Proofs.Assoc
import Crowsfoot.Proofs.Schema.FieldContext
import Crowsfoot.Schema.Inference

/-!
# Laws of relationship inference

The relationships of a classified document in terms of the columns of its
tables: which columns make one, what it says by itself, and which models are
junctions.  Names of models are distinct, so each model is found under its own.
-/

namespace Crowsfoot

open Crowsfoot.Text (joined)

theorem repeatedNames_of_nodup {names : List String} (distinct : names.Nodup) :
    repeatedNames names = [] := by
  have once : (names.filter fun name => 1 < names.count name) = [] := by
    rw [List.filter_eq_nil_iff]
    intro name _ repeated
    have bound := List.nodup_iff_count.mp distinct name
    have more : 1 < names.count name := by simpa using repeated
    omega
  rw [repeatedNames, once, List.eraseDups_nil, List.mergeSort_nil]

theorem commonNames_of_disjoint {names others : List String}
    (disjoint : ∀ name ∈ names, name ∉ others) : commonNames names others = [] := by
  have none : names.filter others.contains = [] := by
    rw [List.filter_eq_nil_iff]
    intro name member shared
    exact disjoint name member (by simpa using shared)
  rw [commonNames, none, List.eraseDups_nil, List.mergeSort_nil]

/-- A document of distinct names is classified. -/
theorem Document.classify_of_nodup {document : Document}
    (distinct : (document.tables.map Table.name ++
      document.enums.map Enumeration.name).Nodup) (reject : Bool) (suffixes : List String) :
    document.classify reject suffixes = .ok (modelsOf suffixes document, document.enums) := by
  obtain ⟨models, enums, disjoint⟩ := List.nodup_append.mp distinct
  have names : checkNames document = .ok () := by
    have shared : commonNames (document.tables.map Table.name)
        (document.enums.map Enumeration.name) = [] :=
      commonNames_of_disjoint fun name inModels inEnums => disjoint name inModels name inEnums rfl
    simp only [checkNames, repeatedNames_of_nodup models, repeatedNames_of_nodup enums, shared]
  rw [Document.classify, names]
  cases reject <;> rfl

/-- Whether a column refers to a block. -/
def Column.isReference (column : Column) : Bool :=
  !isDslScalar column.typeToken

theorem isReference_columnKind (enumNames : List String) (column : Column) :
    (columnKind enumNames column).isReference = column.isReference := by
  have scalars : ∀ token ∈ dslScalars,
      (scalarKind SourceFormat.dsl.name token .null).isReference = false := by
    decide +kernel
  unfold columnKind Column.isReference
  cases scalar : isDslScalar column.typeToken with
  | true =>
      rw [if_pos rfl]
      exact scalars _ (by simpa [isDslScalar] using scalar)
  | false =>
      rw [if_neg (by decide)]
      split <;> rfl

/-- The relationship that a column of a model makes by itself. -/
def Relationship.ofColumn (source : String) (column : Column) : Relationship :=
  Relationship.ofField { name := source } (Field.alone column)

theorem fieldCardinality_alone (column : Column) :
    fieldCardinality (Field.alone column) =
      if column.isList then (.oneToMany, column.name ++ " (1:N)")
      else if !(Dsl.relationColumns column.constraints).1.isEmpty then
        (.manyToOne,
          joined ", " (Dsl.relationColumns column.constraints).1 ++ " → " ++
            joined ", " (Dsl.relationColumns column.constraints).2 ++ " (N:1)")
      else if Dsl.hasRelation column.constraints then (.oneToOne, column.name ++ " (1:1)")
      else (.oneToOne, column.name) := by
  unfold fieldCardinality Field.alone Field.ofColumn
  cases classifyDefault column.defaultText
  cases Dsl.relationColumns column.constraints
  rfl

theorem Relationship.ofColumn_eq (source : String) (column : Column) :
    Relationship.ofColumn source column =
      { sourceModel := source
        sourceField := column.name
        targetModel := column.typeToken
        cardinality := (fieldCardinality (Field.alone column)).1
        foreignKeyColumns := (Dsl.relationColumns column.constraints).1
        referencedColumns := (Dsl.relationColumns column.constraints).2
        displayLabel := (fieldCardinality (Field.alone column)).2 } := by
  unfold Relationship.ofColumn Relationship.ofField Field.alone Field.ofColumn
  cases classifyDefault column.defaultText
  cases Dsl.relationColumns column.constraints
  rfl

/-- Only columns that refer to blocks make relationships. -/
theorem directRelationships_ofTable (enumNames suffixes : List String) (table : Table) :
    directRelationships (Model.ofTable enumNames suffixes table) =
      (table.columns.filter Column.isReference).map (Relationship.ofColumn table.name) := by
  have kind (bound : List String) (column : Column) :
      (Field.ofColumn enumNames bound suffixes column).kind.isReference = column.isReference :=
    isReference_columnKind enumNames column
  have alone (bound : List String) (column : Column) :
      Relationship.ofField (Model.ofTable enumNames suffixes table)
        (Field.ofColumn enumNames bound suffixes column) =
          Relationship.ofColumn table.name column := by
    rw [Field.ofColumn_eq_among]
    rfl
  rw [directRelationships]
  simp only [Model.ofTable, List.filter_map, List.map_map, Function.comp_def, kind]
  exact List.map_congr_left fun column _ => alone (relationBound table) column

/-! ## Junctions -/

/-- The junctions among models, with the models they link. -/
def junctionEntries (models : List Model) : List (String × List String) :=
  models.filterMap fun model => (junctionTargets? model).map fun targets => (model.name, targets)

theorem keys_junctionEntries_sublist (models : List Model) :
    (Assoc.keys (junctionEntries models)).Sublist (models.map Model.name) := by
  induction models with
  | nil => exact List.Sublist.slnil
  | cons model later ih =>
      rw [junctionEntries, List.filterMap_cons]
      cases junctionTargets? model with
      | none => exact ih.cons _
      | some targets => exact ih.cons_cons _

/-- A model is found among the junctions exactly if it is one. -/
theorem lookup_junctions {models : List Model} (distinct : (models.map Model.name).Nodup)
    {model : Model} (member : model ∈ models) :
    (junctions models).lookup model.name = junctionTargets? model := by
  have keys : (Assoc.keys (junctionEntries models)).Nodup :=
    distinct.sublist (keys_junctionEntries_sublist models)
  change (Assoc.ofList (junctionEntries models)).lookup model.name = _
  rw [Assoc.ofList_of_nodup keys]
  cases junction : junctionTargets? model with
  | some targets =>
      apply Assoc.lookup_of_mem keys
      exact List.mem_filterMap.mpr ⟨model, member, by rw [junction]; rfl⟩
  | none =>
      cases found : (junctionEntries models).lookup model.name with
      | none => rfl
      | some targets =>
          obtain ⟨other, inModels, entry⟩ :=
            List.mem_filterMap.mp (Assoc.mem_of_lookup found)
          obtain ⟨otherTargets, otherJunction, same⟩ := Option.map_eq_some_iff.mp entry
          obtain rfl : other = model :=
            List.inj_on_of_nodup_map distinct inModels member (Prod.mk.inj same).1
          rw [junction] at otherJunction
          contradiction

/-- A model links another exactly if it holds two foreign keys, is built on
relations to two other models, and on one to that model. -/
theorem links_junctions_iff {models : List Model} (distinct : (models.map Model.name).Nodup)
    {model : Model} (member : model ∈ models) (other : String) :
    links (junctions models) model.name other = true ↔
      2 ≤ model.fields.countP (·.isForeignKey) ∧ 2 ≤ (linkedModels model).length ∧
        other ∈ linkedModels model := by
  rw [links, lookup_junctions distinct member, junctionTargets?]
  simp only [Bool.or_eq_true, decide_eq_true_eq]
  by_cases small : model.fields.countP (·.isForeignKey) < 2 ∨ (linkedModels model).length < 2
  · rw [if_pos small]
    constructor
    · intro linked
      contradiction
    · rintro ⟨keys, targets, -⟩
      omega
  · rw [if_neg small]
    have keys : 2 ≤ model.fields.countP (·.isForeignKey) := by omega
    have targets : 2 ≤ (linkedModels model).length := by omega
    simp [keys, targets]

theorem countP_isForeignKey_ofTable (enumNames suffixes : List String) (table : Table) :
    (Model.ofTable enumNames suffixes table).fields.countP (·.isForeignKey) =
      table.columns.countP (isForeignKeyColumn suffixes) := by
  rw [Model.ofTable, List.countP_map]
  rfl

/-- Whether a column is a relation that names its columns. -/
def Column.isRelation (column : Column) : Bool :=
  column.isReference && !(Dsl.relationColumns column.constraints).1.isEmpty

theorem linkedModels_ofTable (enumNames suffixes : List String) (table : Table) :
    linkedModels (Model.ofTable enumNames suffixes table) =
      ((table.columns.filter fun column =>
        column.isRelation && column.typeToken != table.name).map Column.typeToken).eraseDups := by
  have linked (bound : List String) (column : Column) :
      (!(Field.ofColumn enumNames bound suffixes column).relationColumns.isEmpty &&
          (Field.ofColumn enumNames bound suffixes column).kind.isReference &&
          (Field.ofColumn enumNames bound suffixes column).typeName != table.name) =
        (column.isRelation && column.typeToken != table.name) := by
    have kind : (Field.ofColumn enumNames bound suffixes column).kind.isReference =
        column.isReference :=
      isReference_columnKind enumNames column
    have relation : (Field.ofColumn enumNames bound suffixes column).relationColumns =
        (Dsl.relationColumns column.constraints).1 := by
      rw [Field.ofColumn_eq_among]
      exact relationColumns_alone column
    rw [kind, relation, Column.isRelation, Bool.and_comm (!_)]
    rfl
  rw [linkedModels]
  simp only [Model.ofTable, List.filter_map, List.map_map, Function.comp_def, linked]
  rfl

/-- What does not refer to a list is changed by its own model only. -/
theorem Relationship.through_eq {junctions : List (String × List String)}
    {relationship : Relationship} (notList : relationship.cardinality ≠ .oneToMany) :
    relationship.through junctions =
      if links junctions relationship.sourceModel relationship.targetModel then
        { relationship with
          cardinality := .manyToMany
          displayLabel :=
            relationship.sourceField ++ " (M:N via " ++ relationship.sourceModel ++ ")" }
      else relationship := by
  have single : (relationship.cardinality == .oneToMany) = false := by simpa using notList
  rw [Relationship.through]
  simp only [single, Bool.false_and, Bool.false_eq_true, if_false]

/-- The relationship of a column that is neither a list nor on a relation. -/
def plainRelationship (source : String) (column : Column) : Relationship where
  sourceModel := source
  sourceField := column.name
  targetModel := column.typeToken
  cardinality := .oneToOne
  displayLabel := column.name

/-- A column that is no list makes a plain relationship exactly if it shows no
relation and its model is no junction that links its type. -/
theorem Relationship.through_ofColumn_eq_plain_iff (junctions : List (String × List String))
    (source : String) {column : Column} (notList : column.isList = false) :
    (Relationship.ofColumn source column).through junctions = plainRelationship source column ↔
      Dsl.hasRelation column.constraints = false ∧
        links junctions source column.typeToken = false := by
  have cardinality := fieldCardinality_alone column
  rw [notList] at cardinality
  simp only [Bool.false_eq_true, if_false] at cardinality
  have single : (Relationship.ofColumn source column).cardinality ≠ .oneToMany := by
    rw [Relationship.ofColumn_eq, cardinality]
    split
    · simp
    · split <;> simp
  rw [Relationship.through_eq single, Relationship.ofColumn_eq]
  dsimp only
  cases linked : links junctions source column.typeToken with
  | true =>
      rw [if_pos rfl]
      simp [plainRelationship]
  | false =>
      rw [if_neg (by decide), cardinality]
      cases relation : Dsl.hasRelation column.constraints with
      | false =>
          have noColumns : Dsl.relationColumns column.constraints = ([], []) := by
            rw [Dsl.relationColumns, relation]
            rfl
          simp [noColumns, plainRelationship]
      | true =>
          simp only [Bool.true_eq_false, false_and, iff_false]
          intro same
          rw [plainRelationship, Relationship.mk.injEq] at same
          obtain ⟨-, -, -, -, columns, -, label⟩ := same
          rw [columns] at label
          have lengths := congrArg String.length label
          simp [String.length_append] at lengths

end Crowsfoot
