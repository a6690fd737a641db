import Crowsfoot.Proofs.Schema.Cardinalities
import Crowsfoot.Schema.Lint

/-!
# Errors of lint

The errors among the advice on a schema are its relationships without a
declared target.  A relationship targets the type of its column, whatever
junctions there are, so the errors of a classified document are known from the
types of its columns.
-/

namespace Crowsfoot

/-- A model gives rise to warnings only. -/
theorem severity_of_mem_lintModel {model : Model} {issue : Issue}
    (member : issue ∈ lintModel model) :
    issue.severity = .warn ∧ issue.code ≠ "UNKNOWN_RELATIONSHIP_TARGET" := by
  rcases List.mem_append.mp member with duplicate | missing
  · obtain ⟨field, -, rfl⟩ := List.mem_map.mp duplicate
    exact ⟨rfl, by simp [duplicateField]⟩
  · split at missing
    · contradiction
    · rw [List.mem_singleton.mp missing]
      exact ⟨rfl, by simp [missingPrimaryKey]⟩

theorem mem_unknownTargets_iff {known : List String} {index : Nat}
    {relationships : List Relationship} {issue : Issue} :
    issue ∈ unknownTargets known index relationships ↔
      ∃ entry ∈ relationships.zipIdx index,
        entry.1.targetModel ∉ known ∧ issue = unknownTarget entry.2 entry.1 := by
  induction relationships generalizing index with
  | nil => simp [unknownTargets]
  | cons relationship later ih =>
      rw [unknownTargets, List.mem_append, ih, List.zipIdx_cons, List.exists_mem_cons_iff]
      apply or_congr_left
      by_cases declared : relationship.targetModel ∈ known <;> simp [declared]

/-- Advice is a warning of another kind, or an error about a target. -/
theorem mem_lint_cases {schema : Schema} {issue : Issue} (member : issue ∈ schema.lint) :
    (issue.severity = .warn ∧ issue.code ≠ "UNKNOWN_RELATIONSHIP_TARGET") ∨
      (issue.severity = .error ∧ issue.code = "UNKNOWN_RELATIONSHIP_TARGET" ∧
        issue ∈ unknownTargets schema.declaredNames 0 schema.relationships) := by
  rcases List.mem_append.mp member with blocks | target
  · left
    rcases List.mem_append.mp blocks with ofModel | ofEnum
    · obtain ⟨model, -, inModel⟩ := List.mem_flatMap.mp ofModel
      exact severity_of_mem_lintModel inModel
    · obtain ⟨enumeration, -, rfl⟩ := List.mem_map.mp ofEnum
      exact ⟨rfl, by simp [emptyEnum]⟩
  · right
    obtain ⟨entry, -, -, rfl⟩ := mem_unknownTargets_iff.mp target
    exact ⟨rfl, rfl, target⟩

/-- A relationship whose target is declared nowhere. -/
def Schema.Dangles (schema : Schema) : Prop :=
  ∃ relationship ∈ schema.relationships, relationship.targetModel ∉ schema.declaredNames

/-- Whether the advice reports a target that is declared nowhere. -/
def Schema.ReportsTarget (schema : Schema) : Prop :=
  ∃ issue ∈ schema.lint, issue.severity = .error ∧ issue.code = "UNKNOWN_RELATIONSHIP_TARGET"

theorem Schema.reportsTarget_iff (schema : Schema) : schema.ReportsTarget ↔ schema.Dangles := by
  constructor
  · rintro ⟨issue, member, isError, -⟩
    rcases mem_lint_cases member with ⟨isWarning, -⟩ | ⟨-, -, target⟩
    · rw [isWarning] at isError
      contradiction
    · obtain ⟨entry, inRelationships, unknown, -⟩ := mem_unknownTargets_iff.mp target
      exact ⟨entry.1, List.fst_mem_of_mem_zipIdx inRelationships, unknown⟩
  · rintro ⟨relationship, member, unknown⟩
    obtain ⟨index, bound, rfl⟩ := List.mem_iff_getElem.mp member
    refine ⟨unknownTarget index schema.relationships[index], ?_, rfl, rfl⟩
    apply List.mem_append_right
    exact mem_unknownTargets_iff.mpr
      ⟨(schema.relationships[index], index), by simp [List.mk_mem_zipIdx_iff_getElem?, bound],
        unknown, rfl⟩

/-- There is an error exactly if a target is reported. -/
theorem Schema.hasErrors_lint_iff (schema : Schema) :
    hasErrors schema.lint = true ↔ schema.ReportsTarget := by
  rw [hasErrors, List.any_eq_true]
  constructor
  · rintro ⟨issue, member, isError⟩
    rcases mem_lint_cases member with ⟨isWarning, -⟩ | ⟨-, code, -⟩
    · rw [isWarning] at isError
      contradiction
    · exact ⟨issue, member, beq_iff_eq.mp isError, code⟩
  · rintro ⟨issue, member, isError, -⟩
    exact ⟨issue, member, beq_iff_eq.mpr isError⟩

/-- The targets of the relationships of a classified document are the types of
its columns that are no scalars. -/
theorem exists_targetModel_iff (suffixes : List String) (document : Document)
    (holds : String → Prop) :
    (∃ relationship ∈ inferRelationships (modelsOf suffixes document),
        holds relationship.targetModel) ↔
      ∃ table ∈ document.tables, ∃ column ∈ table.columns,
        isDslScalar column.typeToken = false ∧ holds column.typeToken := by
  have target (table : Table) (column : Column) :
      ((Relationship.ofColumn table.name column).through
        (junctions (modelsOf suffixes document))).targetModel = column.typeToken := by
    have ends : ((Relationship.ofColumn table.name column).through
        (junctions (modelsOf suffixes document))).ends.targetModel =
          (Relationship.ofColumn table.name column).ends.targetModel :=
      congrArg Relationship.targetModel (ends_through _)
    rw [Relationship.ofColumn_eq] at ends ⊢
    exact ends
  have reference (column : Column) :
      column.isReference = true ↔ isDslScalar column.typeToken = false := by
    simp [Column.isReference]
  have member (relationship : Relationship) :
      relationship ∈ inferRelationships (modelsOf suffixes document) ↔
        ∃ table ∈ document.tables, ∃ column ∈ table.columns,
          column.isReference = true ∧
            (Relationship.ofColumn table.name column).through
              (junctions (modelsOf suffixes document)) = relationship := by
    simp only [inferRelationships, modelsOf, List.flatMap_map, directRelationships_ofTable,
      List.mem_map, List.mem_flatMap, List.mem_filter]
    constructor
    · rintro ⟨_, ⟨table, inTables, column, ⟨inColumns, isReference⟩, rfl⟩, same⟩
      exact ⟨table, inTables, column, inColumns, isReference, same⟩
    · rintro ⟨table, inTables, column, inColumns, isReference, same⟩
      exact ⟨_, ⟨table, inTables, column, ⟨inColumns, isReference⟩, rfl⟩, same⟩
  constructor
  · rintro ⟨relationship, inferred, held⟩
    obtain ⟨table, inTables, column, inColumns, isReference, rfl⟩ := (member _).mp inferred
    rw [target] at held
    exact ⟨table, inTables, column, inColumns, (reference column).mp isReference, held⟩
  · rintro ⟨table, inTables, column, inColumns, notScalar, held⟩
    refine ⟨_, (member _).mpr
      ⟨table, inTables, column, inColumns, (reference column).mpr notScalar, rfl⟩, ?_⟩
    rwa [target]

end Crowsfoot
