import Crowsfoot.Proofs.Schema.Integrity
import Crowsfoot.Proofs.Schema.Lint
import Mathlib.Data.Finset.Card
import Mathlib.Data.Finset.Dedup

/-!
# The advice on a schema

Lint walks through a model with the names that it has seen.  Said without the
walk, it reports the fields whose name stands earlier in their model, models
without a key, enums without values, and relationships whose target is declared
nowhere, in this order and nothing else.
-/

namespace Crowsfoot

/-- The fields of a model whose name stands earlier in it, in their order. -/
def Model.repeats (model : Model) : List Field :=
  (model.fields.zipIdx.filter fun entry =>
    entry.1.name ∈ (model.fields.take entry.2).map Field.name).map Prod.fst

/-- The walk through fields reports those whose name stands before them, as long
as the names that it has seen are those of the fields behind it. -/
theorem repeatedFields_eq {seen : List String} {before : List Field}
    (walked : ∀ name, name ∈ seen ↔ name ∈ before.map Field.name) (fields : List Field) :
    repeatedFields seen fields =
      ((fields.zipIdx before.length).filter fun entry =>
        entry.1.name ∈ ((before ++ fields).take entry.2).map Field.name).map Prod.fst := by
  induction fields generalizing seen before with
  | nil => rfl
  | cons field later ih =>
      have rest {seen : List String}
          (walked : ∀ name, name ∈ seen ↔ name ∈ (before ++ [field]).map Field.name) :
          repeatedFields seen later = ((later.zipIdx (before.length + 1)).filter fun entry =>
            entry.1.name ∈ ((before ++ field :: later).take entry.2).map Field.name).map
              Prod.fst := by
        have whole := ih walked
        rwa [List.length_append, List.length_singleton, List.append_assoc,
          List.singleton_append] at whole
      have here : (before ++ field :: later).take before.length = before :=
        List.take_left
      rw [repeatedFields, List.zipIdx_cons, List.filter_cons, here]
      by_cases known : field.name ∈ seen
      · have again : ∀ name, name ∈ seen ↔ name ∈ (before ++ [field]).map Field.name := by
          intro name
          rw [List.map_append, List.mem_append, ← walked, List.map_singleton, List.mem_singleton]
          exact ⟨.inl, fun either => either.elim id fun same => same ▸ known⟩
        rw [if_pos (List.contains_iff_mem.mpr known),
          if_pos (decide_eq_true ((walked field.name).mp known)), rest again, List.map_cons]
      · have entered : ∀ name, name ∈ field.name :: seen ↔
            name ∈ (before ++ [field]).map Field.name := by
          intro name
          rw [List.map_append, List.mem_append, ← walked, List.map_singleton, List.mem_singleton,
            List.mem_cons, or_comm]
        have fresh : ¬decide (field.name ∈ before.map Field.name) = true := by
          rwa [decide_eq_true_eq, ← walked]
        rw [if_neg (mt List.contains_iff_mem.mp known), if_neg fresh, rest entered]

theorem Model.repeatedFields_eq_repeats (model : Model) :
    repeatedFields [] model.fields = model.repeats := by
  have none : ∀ name, name ∈ [] ↔ name ∈ ([] : List Field).map Field.name := by simp
  exact repeatedFields_eq none model.fields

/-- Every field is reported, or its name is counted among those that are new. -/
theorem length_repeatedFields (seen : List String) (fields : List Field) :
    (repeatedFields seen fields).length + (seen ++ fields.map Field.name).toFinset.card =
      fields.length + seen.toFinset.card := by
  induction fields generalizing seen with
  | nil => simp [repeatedFields]
  | cons field later ih =>
      have names : (seen ++ (field :: later).map Field.name).toFinset =
          (field.name :: seen ++ later.map Field.name).toFinset := by
        ext name
        simp only [List.mem_toFinset, List.mem_append, List.map_cons, List.mem_cons]
        tauto
      rw [repeatedFields]
      by_cases known : field.name ∈ seen
      · have same : (field.name :: seen ++ later.map Field.name).toFinset =
            (seen ++ later.map Field.name).toFinset := by
          rw [List.cons_append, List.toFinset_cons, Finset.insert_eq_self, List.mem_toFinset]
          exact List.mem_append_left _ known
        rw [if_pos (List.contains_iff_mem.mpr known), names, same, List.length_cons,
          List.length_cons]
        have counted := ih seen
        omega
      · have more : (field.name :: seen).toFinset.card = seen.toFinset.card + 1 := by
          rw [List.toFinset_cons, Finset.card_insert_of_notMem (mt List.mem_toFinset.mp known)]
        rw [if_neg (mt List.contains_iff_mem.mp known), names, ih, more, List.length_cons]
        omega

/-- As many fields are repeated as there are fields beyond the distinct names. -/
theorem Model.length_repeats (model : Model) :
    model.repeats.length + (model.fields.map Field.name).toFinset.card = model.fields.length := by
  have counted := length_repeatedFields [] model.fields
  rwa [model.repeatedFields_eq_repeats] at counted

theorem unknownTargets_eq (known : List String) (index : Nat)
    (relationships : List Relationship) :
    unknownTargets known index relationships =
      ((relationships.zipIdx index).filter fun entry => entry.1.targetModel ∉ known).map
        fun entry => unknownTarget entry.2 entry.1 := by
  induction relationships generalizing index with
  | nil => rfl
  | cons relationship later ih =>
      rw [unknownTargets, ih, List.zipIdx_cons, List.filter_cons]
      by_cases declared : relationship.targetModel ∈ known <;> simp [declared]

/-! ## Schemas -/

/-- The schema of a classified document has errors exactly if the type of some
column is neither a scalar nor the name of a block. -/
theorem Schema.hasErrors_lint_iff_of_classify {schema : Schema} {document : Document}
    {rejects : Bool} {suffixes : List String}
    (classified : document.classify rejects suffixes = .ok (schema.models, schema.enums))
    (inferred : schema.relationships = inferRelationships schema.models) :
    hasErrors schema.lint = true ↔
      ∃ table ∈ document.tables, ∃ column ∈ table.columns,
        column.typeToken ∉ dslScalars ∧ column.typeToken ∉ document.tables.map Table.name ∧
          column.typeToken ∉ document.enums.map Enumeration.name := by
  obtain ⟨models, enums⟩ := blocks_of_classify classified
  have names : schema.declaredNames =
      document.tables.map Table.name ++ document.enums.map Enumeration.name := by
    rw [Schema.declaredNames, models, enums, modelsOf, List.map_map]
    rfl
  have notScalar (token : String) : isDslScalar token = false ↔ token ∉ dslScalars := by
    rw [← Bool.not_eq_true, isDslScalar, List.contains_iff_mem]
  have targets := exists_targetModel_iff suffixes document fun target =>
    target ∉ document.tables.map Table.name ++ document.enums.map Enumeration.name
  rw [schema.hasErrors_lint_iff, schema.reportsTarget_iff, Schema.Dangles, names, inferred, models,
    targets]
  simp only [notScalar, List.mem_append, not_or]

/-- The advice on a schema, model by model and in order: one warning for each
field whose name stands earlier in its model, as many as there are fields
beyond the distinct names, and one if no field is a key; then one warning for
each enum without values; then one error for each relationship whose target
names no model and no enum, with its index.  So there are errors exactly if
there is such a relationship, and for the schema of a document exactly if the
type of some column is neither a scalar nor the name of a block. -/
theorem Schema.lint_exact (schema : Schema) :
    (schema.lint =
      (schema.models.flatMap fun model =>
          model.repeats.map (duplicateField model) ++
            if ∃ field ∈ model.fields, field.isPrimaryKey = true then []
            else [missingPrimaryKey model]) ++
        (schema.enums.filter fun enumeration => enumeration.values = []).map emptyEnum ++
        ((schema.relationships.zipIdx.filter fun entry =>
            entry.1.targetModel ∉ schema.models.map Model.name ++
              schema.enums.map Enumeration.name).map
          fun entry => unknownTarget entry.2 entry.1)) ∧
      (∀ model ∈ schema.models,
        model.repeats.length + (model.fields.map Field.name).toFinset.card =
          model.fields.length) ∧
      (hasErrors schema.lint = true ↔
        ∃ relationship ∈ schema.relationships,
          relationship.targetModel ∉ schema.models.map Model.name ++
            schema.enums.map Enumeration.name) ∧
      ∀ document rejects suffixes,
        Document.classify document rejects suffixes = .ok (schema.models, schema.enums) →
        schema.relationships = inferRelationships schema.models →
        (hasErrors schema.lint = true ↔
          ∃ table ∈ document.tables, ∃ column ∈ table.columns,
            column.typeToken ∉ dslScalars ∧ column.typeToken ∉ document.tables.map Table.name ∧
              column.typeToken ∉ document.enums.map Enumeration.name) := by
  refine ⟨?_, fun model _ => model.length_repeats, ?_, ?_⟩
  · have models : lintModel = fun model =>
        model.repeats.map (duplicateField model) ++
          if ∃ field ∈ model.fields, field.isPrimaryKey = true then []
          else [missingPrimaryKey model] := by
      funext model
      rw [lintModel, model.repeatedFields_eq_repeats]
      simp only [List.any_eq_true]
    have enums : (schema.enums.filter fun enumeration => enumeration.values = []) =
        schema.enums.filter (·.values.isEmpty) := by
      apply List.filter_congr
      intro enumeration _
      rw [Bool.eq_iff_iff, decide_eq_true_eq, List.isEmpty_iff]
    rw [Schema.lint, unknownTargets_eq, models, enums]
    rfl
  · exact schema.hasErrors_lint_iff.trans schema.reportsTarget_iff
  · intro document rejects suffixes classified inferred
    exact Schema.hasErrors_lint_iff_of_classify classified inferred

/-- Orders with a field in three places, an enum without values, and two columns
of types that are not declared. -/
def draftDocument : Document where
  format := "dsl"
  tables :=
    [{ name := "Order"
       columns :=
        [{ name := "note", typeToken := "String" }, { name := "note", typeToken := "Draft" },
         { name := "state", typeToken := "State" }, { name := "note", typeToken := "Int" }] },
     { name := "Draft"
       columns :=
        [{ name := "id", typeToken := "Int" }, { name := "order", typeToken := "Order" },
         { name := "state", typeToken := "state" }, { name := "owner", typeToken := "Owner" }] }]
  enums := [{ name := "State" }, { name := "Kind", values := ["paper"] }]

/-- The schema of the orders. -/
def draftSchema : Schema where
  models := modelsOf ["Id"] draftDocument
  enums := draftDocument.enums
  relationships := inferRelationships (modelsOf ["Id"] draftDocument)

/-- All of it is reported, in order, and the two types are errors. -/
theorem lint_draftSchema :
    draftDocument.classify true ["Id"] = .ok (draftSchema.models, draftSchema.enums) ∧
      draftSchema.relationships = inferRelationships draftSchema.models ∧
      (∃ model ∈ draftSchema.models, model.repeats.length = 2) ∧
      (draftSchema.lint.map fun issue => (issue.severity, issue.code, issue.path)) =
        [(.warn, "DUPLICATE_FIELD", "/models/Order/fields"),
          (.warn, "DUPLICATE_FIELD", "/models/Order/fields"),
          (.warn, "MISSING_PRIMARY_KEY", "/models/Order"), (.warn, "EMPTY_ENUM", "/enums/State"),
          (.error, "UNKNOWN_RELATIONSHIP_TARGET", "/relationships/3"),
          (.error, "UNKNOWN_RELATIONSHIP_TARGET", "/relationships/4")] ∧
      hasErrors draftSchema.lint = true := by
  have distinct : draftDocument.DistinctNames := by
    unfold Document.DistinctNames
    decide
  have classified : draftDocument.classify true ["Id"] =
      .ok (draftSchema.models, draftSchema.enums) :=
    classify_eq_ok_iff.mpr ⟨distinct, rfl, rfl⟩
  obtain ⟨-, counted, -, ofDocument⟩ := draftSchema.lint_exact
  refine ⟨classified, rfl, ?_, by decide +kernel, ?_⟩
  · obtain ⟨first, later, models⟩ : ∃ first later, draftSchema.models = first :: later :=
      ⟨_, _, rfl⟩
    have member : first ∈ draftSchema.models := models ▸ List.mem_cons_self
    have sizes : ∀ model ∈ draftSchema.models.take 1,
        (model.fields.map Field.name).toFinset.card = 2 ∧ model.fields.length = 4 := by
      decide +kernel
    obtain ⟨names, fields⟩ := sizes first (by simp [models])
    have sum := counted first member
    exact ⟨first, member, by omega⟩
  · refine (ofDocument draftDocument true ["Id"] classified rfl).mpr ?_
    decide +kernel

end Crowsfoot
