import Mathlib.Data.List.Forall2
import Crowsfoot.Proofs.Schema.Relationships

/-!
# Cardinalities

What the relationships of a list of models say, field by field: which of them
are many to many, which label they carry, and that nothing else about a field
is touched when junctions are taken into account.  The junctions of a list of
models do not depend on its order, so neither does what a relationship says.
-/

namespace Crowsfoot

open Crowsfoot.Text (joined)

/-- A model is built on another one if some field of it is a relation to that
model and names its columns. -/
def Model.BuiltOn (model : Model) (other : String) : Prop :=
  other ≠ model.name ∧ ∃ field ∈ model.fields,
    field.kind.isReference = true ∧ field.relationColumns ≠ [] ∧ field.typeName = other

/-- A junction holds two foreign keys or more and is built on two other models
or more. -/
structure Model.IsJunction (model : Model) : Prop where
  keys : 2 ≤ model.fields.countP (·.isForeignKey)
  targets : ∃ first second, first ≠ second ∧ model.BuiltOn first ∧ model.BuiltOn second

/-- A junction joins the models that it is built on. -/
def Model.Joins (model : Model) (other : String) : Prop :=
  model.IsJunction ∧ model.BuiltOn other

theorem mem_linkedModels_iff {model : Model} {other : String} :
    other ∈ linkedModels model ↔ model.BuiltOn other := by
  simp only [linkedModels, List.mem_eraseDups, List.mem_map, List.mem_filter, Bool.and_eq_true,
    Bool.not_eq_true', List.isEmpty_eq_false_iff, bne_iff_ne, Model.BuiltOn]
  constructor
  · rintro ⟨field, ⟨member, ⟨named, reference⟩, differs⟩, rfl⟩
    exact ⟨differs, field, member, reference, named, rfl⟩
  · rintro ⟨differs, field, member, reference, named, rfl⟩
    exact ⟨field, ⟨member, ⟨named, reference⟩, differs⟩, rfl⟩

/-- Every value is left once. -/
theorem nodup_eraseDups {α : Type} [BEq α] [LawfulBEq α] (entries : List α) :
    entries.eraseDups.Nodup := by
  match entries with
  | [] => exact List.nodup_nil
  | first :: later =>
      rw [List.eraseDups_cons, List.nodup_cons]
      refine ⟨?_, nodup_eraseDups _⟩
      simp [List.mem_eraseDups]
termination_by entries.length
decreasing_by
  rw [List.length_cons]
  exact Nat.lt_succ_of_le (List.length_filter_le _ _)

/-- A list without repetitions has two entries exactly if two different values
are in it. -/
theorem two_le_length_iff {α : Type} {entries : List α} (distinct : entries.Nodup) :
    2 ≤ entries.length ↔ ∃ first second, first ≠ second ∧ first ∈ entries ∧ second ∈ entries := by
  constructor
  · intro long
    match entries, long with
    | first :: second :: later, _ =>
        have apart : first ∉ second :: later := (List.nodup_cons.mp distinct).1
        refine ⟨first, second, ?_, List.mem_cons_self, by simp⟩
        exact fun same => apart (same ▸ List.mem_cons_self)
  · rintro ⟨first, second, apart, firstMember, secondMember⟩
    match entries with
    | [] => contradiction
    | [only] =>
        exact absurd ((List.mem_singleton.mp firstMember).trans
          (List.mem_singleton.mp secondMember).symm) apart
    | _ :: _ :: later => exact Nat.le_add_left 2 later.length

theorem isJunction_iff {model : Model} :
    model.IsJunction ↔
      2 ≤ model.fields.countP (·.isForeignKey) ∧ 2 ≤ (linkedModels model).length := by
  have distinct : (linkedModels model).Nodup := nodup_eraseDups _
  rw [two_le_length_iff distinct]
  simp only [mem_linkedModels_iff]
  exact ⟨fun junction => ⟨junction.keys, junction.targets⟩,
    fun ⟨keys, targets⟩ => ⟨keys, targets⟩⟩

/-- A model that is found among junctions has targets, and no other has. -/
theorem isSome_junctionTargets?_iff {model : Model} :
    (junctionTargets? model).isSome = true ↔ model.IsJunction := by
  rw [isJunction_iff, junctionTargets?]
  simp only [Bool.or_eq_true, decide_eq_true_eq]
  split
  · rename_i small
    simp only [Option.isSome_none, Bool.false_eq_true, false_iff]
    omega
  · rename_i large
    simp only [Option.isSome_some, true_iff]
    omega

section Distinct

variable {models : List Model} (distinct : (models.map Model.name).Nodup)
include distinct

theorem links_iff_joins {model : Model} (member : model ∈ models) (other : String) :
    links (junctions models) model.name other = true ↔ model.Joins other := by
  rw [links_junctions_iff distinct member, Model.Joins, isJunction_iff, mem_linkedModels_iff,
    and_assoc]

/-- What is found under a name is what the model of that name links. -/
theorem lookup_junctions_eq_some_iff {name : String} {targets : List String} :
    (junctions models).lookup name = some targets ↔
      ∃ model ∈ models, model.name = name ∧ junctionTargets? model = some targets := by
  constructor
  · intro found
    have entry := Assoc.mem_of_mem_ofList (Assoc.mem_of_lookup found)
    obtain ⟨model, member, entered⟩ := List.mem_filterMap.mp entry
    obtain ⟨links, junction, same⟩ := Option.map_eq_some_iff.mp entered
    obtain ⟨rfl, rfl⟩ := Prod.mk.inj same
    exact ⟨model, member, rfl, junction⟩
  · rintro ⟨model, member, rfl, junction⟩
    rw [lookup_junctions distinct member, junction]

theorem hasKey_junctions_iff {name : String} :
    Assoc.hasKey (junctions models) name = true ↔
      ∃ model ∈ models, model.name = name ∧ model.IsJunction := by
  rw [Assoc.hasKey_eq_isSome_lookup, Option.isSome_iff_exists]
  simp only [lookup_junctions_eq_some_iff distinct, ← isSome_junctionTargets?_iff,
    Option.isSome_iff_exists]
  constructor
  · rintro ⟨targets, model, member, named, junction⟩
    exact ⟨model, member, named, targets, junction⟩
  · rintro ⟨model, member, named, targets, junction⟩
    exact ⟨targets, model, member, named, junction⟩

end Distinct

/-- The fields of some models that refer to blocks, each with its model, in
the order of models and fields. -/
def referenceFields (models : List Model) : List (Model × Field) :=
  models.flatMap fun model => (model.fields.filter (·.kind.isReference)).map (model, ·)

/-- The part of a relationship that is read off its field: both ends and the
columns on either side. -/
def Relationship.ends (relationship : Relationship) : Relationship :=
  { relationship with cardinality := .oneToOne, displayLabel := "" }

/-- What the relationship of a field of a model says among some models. -/
structure Relationship.Describes (models : List Model) (model : Model) (field : Field)
    (relationship : Relationship) : Prop where
  sourceModel : relationship.sourceModel = model.name
  sourceField : relationship.sourceField = field.name
  targetModel : relationship.targetModel = field.typeName
  foreignKeyColumns : relationship.foreignKeyColumns = field.relationColumns
  referencedColumns : relationship.referencedColumns = field.relationReferences
  manyToMany : relationship.cardinality = .manyToMany ↔
    model.Joins field.typeName ∨
      field.isList = true ∧ ∃ target ∈ models, target.name = field.typeName ∧ target.IsJunction
  viaSource : model.Joins field.typeName →
    relationship.displayLabel = field.name ++ " (M:N via " ++ model.name ++ ")"
  viaTarget : ¬model.Joins field.typeName → field.isList = true → ∀ target ∈ models,
    target.name = field.typeName → target.Joins model.name →
      relationship.displayLabel = field.name ++ " (M:N via " ++ field.typeName ++ ")"
  apart : ¬model.Joins field.typeName → field.isList = true → ∀ target ∈ models,
    target.name = field.typeName → target.IsJunction → ¬target.Joins model.name →
      relationship.displayLabel = field.name ++ " (M:N)"
  oneToMany : relationship.cardinality ≠ .manyToMany → field.isList = true →
    relationship.cardinality = .oneToMany ∧ relationship.displayLabel = field.name ++ " (1:N)"
  manyToOne : relationship.cardinality ≠ .manyToMany → field.isList = false →
    field.relationColumns ≠ [] →
      relationship.cardinality = .manyToOne ∧
        relationship.displayLabel =
          joined ", " field.relationColumns ++ " → " ++
            joined ", " field.relationReferences ++ " (N:1)"
  oneToOne : relationship.cardinality ≠ .manyToMany → field.isList = false →
    field.relationColumns = [] →
      relationship.cardinality = .oneToOne ∧
        relationship.displayLabel =
          if field.hasRelationAttribute then field.name ++ " (1:1)" else field.name

/-! ## One field -/

theorem fieldCardinality_of_list {field : Field} (list : field.isList = true) :
    fieldCardinality field = (.oneToMany, field.name ++ " (1:N)") := by
  rw [fieldCardinality, list]
  rfl

theorem fieldCardinality_of_columns {field : Field} (single : field.isList = false)
    (named : field.relationColumns ≠ []) :
    fieldCardinality field =
      (.manyToOne, joined ", " field.relationColumns ++ " → " ++
        joined ", " field.relationReferences ++ " (N:1)") := by
  have some : (!field.relationColumns.isEmpty) = true := by simpa using named
  rw [fieldCardinality, single, some]
  rfl

theorem fieldCardinality_of_noColumns {field : Field} (single : field.isList = false)
    (none : field.relationColumns = []) :
    fieldCardinality field =
      (.oneToOne, if field.hasRelationAttribute then field.name ++ " (1:1)" else field.name) := by
  rw [fieldCardinality, single, none]
  cases field.hasRelationAttribute <;> rfl

/-- By itself no field is many to many, and just lists are one to many. -/
theorem fieldCardinality_fst (field : Field) :
    (fieldCardinality field).1 ≠ .manyToMany ∧
      ((fieldCardinality field).1 == .oneToMany) = field.isList := by
  cases list : field.isList with
  | true => simp [fieldCardinality_of_list list]
  | false =>
      by_cases none : field.relationColumns = []
      · simp [fieldCardinality_of_noColumns list none]
      · simp [fieldCardinality_of_columns list none]

section Through

variable {found : List (String × List String)} {model : Model} {field : Field}

/-- The relationship of a junction with a model it joins. -/
theorem through_of_links (joined : links found model.name field.typeName = true) :
    (Relationship.ofField model field).through found =
      { Relationship.ofField model field with
        cardinality := .manyToMany
        displayLabel := field.name ++ " (M:N via " ++ model.name ++ ")" } := by
  rw [Relationship.through]
  exact if_pos joined

/-- The relationship of a list of junctions. -/
theorem through_of_list (apart : links found model.name field.typeName = false)
    (list : field.isList = true) (junction : Assoc.hasKey found field.typeName = true) :
    (Relationship.ofField model field).through found =
      { Relationship.ofField model field with
        cardinality := .manyToMany
        displayLabel :=
          if links found field.typeName model.name then
            field.name ++ " (M:N via " ++ field.typeName ++ ")"
          else field.name ++ " (M:N)" } := by
  have listOfJunctions : ((Relationship.ofField model field).cardinality == .oneToMany &&
      Assoc.hasKey found field.typeName) = true := by
    rw [Bool.and_eq_true]
    exact ⟨(fieldCardinality_fst field).2.trans list, junction⟩
  rw [Relationship.through]
  exact (if_neg (by simp [Relationship.ofField, apart])).trans (if_pos listOfJunctions)

/-- Every other relationship is left as its field gives it. -/
theorem through_of_direct (apart : links found model.name field.typeName = false)
    (direct : field.isList = true → Assoc.hasKey found field.typeName = false) :
    (Relationship.ofField model field).through found = Relationship.ofField model field := by
  have noList : ¬((Relationship.ofField model field).cardinality == .oneToMany &&
      Assoc.hasKey found field.typeName) = true := by
    rw [Bool.and_eq_true]
    rintro ⟨list, junction⟩
    rw [direct ((fieldCardinality_fst field).2.symm.trans list)] at junction
    contradiction
  rw [Relationship.through]
  exact (if_neg (by simp [Relationship.ofField, apart])).trans (if_neg noList)

/-- Junctions change nothing but cardinalities and labels. -/
theorem ends_through (relationship : Relationship) :
    (relationship.through found).ends = relationship.ends := by
  unfold Relationship.through
  dsimp only
  split
  · rfl
  · split <;> rfl

end Through

section Site

variable {models : List Model} (distinct : (models.map Model.name).Nodup)
variable {model : Model} (member : model ∈ models) {field : Field}
include distinct member

theorem through_describes_of_joins (joins : model.Joins field.typeName) :
    ((Relationship.ofField model field).through (junctions models)).Describes models model
      field := by
  rw [through_of_links ((links_iff_joins distinct member field.typeName).mpr joins)]
  refine ⟨rfl, rfl, rfl, rfl, rfl, by simp [joins], fun _ => rfl, ?_, ?_, ?_, ?_, ?_⟩
  · exact fun apart => absurd joins apart
  · exact fun apart => absurd joins apart
  all_goals exact fun differs => absurd rfl differs

theorem through_describes_of_list (apart : ¬model.Joins field.typeName)
    (list : field.isList = true)
    (junction : ∃ target ∈ models, target.name = field.typeName ∧ target.IsJunction) :
    ((Relationship.ofField model field).through (junctions models)).Describes models model
      field := by
  have notLinked := mt (links_iff_joins distinct member field.typeName).mp apart
  have found := (hasKey_junctions_iff distinct).mpr junction
  rw [through_of_list (Bool.eq_false_iff.mpr notLinked) list found]
  refine ⟨rfl, rfl, rfl, rfl, rfl, by simp [list, junction], fun joins => absurd joins apart,
    ?_, ?_, ?_, ?_, ?_⟩
  · intro _ _ target targetMember named joinsBack
    rw [← links_iff_joins distinct targetMember, named] at joinsBack
    exact if_pos joinsBack
  · intro _ _ target targetMember named _ separate
    rw [← links_iff_joins distinct targetMember, named] at separate
    exact if_neg separate
  all_goals exact fun differs => absurd rfl differs

theorem through_describes_of_direct (apart : ¬model.Joins field.typeName)
    (noJunction : field.isList = true → ∀ target ∈ models,
      target.name = field.typeName → ¬target.IsJunction) :
    ((Relationship.ofField model field).through (junctions models)).Describes models model
      field := by
  have notLinked := mt (links_iff_joins distinct member field.typeName).mp apart
  have notFound : field.isList = true →
      Assoc.hasKey (junctions models) field.typeName = false := by
    intro list
    rw [Bool.eq_false_iff, ne_eq, hasKey_junctions_iff distinct]
    rintro ⟨target, targetMember, named, isJunction⟩
    exact noJunction list target targetMember named isJunction
  rw [through_of_direct (Bool.eq_false_iff.mpr notLinked) notFound]
  refine ⟨rfl, rfl, rfl, rfl, rfl, ?_, fun joins => absurd joins apart, ?_, ?_, ?_, ?_, ?_⟩
  · simp only [apart, false_or]
    constructor
    · exact fun manyToMany => absurd manyToMany (fieldCardinality_fst field).1
    · rintro ⟨list, target, targetMember, named, isJunction⟩
      exact absurd isJunction (noJunction list target targetMember named)
  · exact fun _ list target targetMember named joinsBack =>
      absurd joinsBack.1 (noJunction list target targetMember named)
  · exact fun _ list target targetMember named isJunction =>
      absurd isJunction (noJunction list target targetMember named)
  · exact fun _ list => Prod.mk.inj (fieldCardinality_of_list list)
  · exact fun _ single named => Prod.mk.inj (fieldCardinality_of_columns single named)
  · exact fun _ single none => Prod.mk.inj (fieldCardinality_of_noColumns single none)

/-- A relationship says what its field and the junctions ask for. -/
theorem through_describes (field : Field) :
    ((Relationship.ofField model field).through (junctions models)).Describes models model
      field := by
  by_cases joins : model.Joins field.typeName
  · exact through_describes_of_joins distinct member joins
  · by_cases junction : field.isList = true ∧
        ∃ target ∈ models, target.name = field.typeName ∧ target.IsJunction
    · exact through_describes_of_list distinct member joins junction.1 junction.2
    · apply through_describes_of_direct distinct member joins
      exact fun list target targetMember named isJunction =>
        junction ⟨list, target, targetMember, named, isJunction⟩

end Site

/-! ## All relationships -/

/-- The relationships of some models are those of their reference fields. -/
theorem inferRelationships_eq_map (models : List Model) :
    inferRelationships models = (referenceFields models).map fun site =>
      (Relationship.ofField site.1 site.2).through (junctions models) := by
  rw [inferRelationships, referenceFields, List.map_flatMap, List.map_flatMap]
  apply List.flatMap_congr
  intro model _
  rw [directRelationships, List.map_map, List.map_map]
  rfl

theorem mem_of_mem_referenceFields {models : List Model} {site : Model × Field}
    (member : site ∈ referenceFields models) :
    site.1 ∈ models ∧ site.2 ∈ site.1.fields ∧ site.2.kind.isReference = true := by
  obtain ⟨model, inModels, inFields⟩ := List.mem_flatMap.mp member
  obtain ⟨field, kept, rfl⟩ := List.mem_map.mp inFields
  exact ⟨inModels, List.mem_filter.mp kept⟩

/-- Models with distinct names make one relationship for every field that
refers to a block, in order.  It says what the field and the junctions ask for,
and its ends are those that the field has by itself. -/
theorem inferRelationships_describe {models : List Model}
    (distinct : (models.map Model.name).Nodup) :
    List.Forall₂ (fun site relationship => relationship.Describes models site.1 site.2)
        (referenceFields models) (inferRelationships models) ∧
      (inferRelationships models).map Relationship.ends =
        (models.flatMap directRelationships).map Relationship.ends := by
  constructor
  · rw [inferRelationships_eq_map, List.forall₂_map_right_iff, List.forall₂_same]
    intro site member
    exact through_describes distinct (mem_of_mem_referenceFields member).1 site.2
  · rw [inferRelationships, List.map_map]
    exact List.map_congr_left fun relationship _ => ends_through relationship

/-- Products and suppliers with the table that joins them, and lists of its
rows in a model that it joins and in one that it does not. -/
def supplyModels : List Model :=
  [{ name := "Product"
     fields :=
       [{ name := "rows", kind := .modelReference, typeName := "Supply", isList := true }] },
   { name := "Supply"
     fields :=
       [{ name := "productId", kind := .integer, typeName := "Int", isForeignKey := true },
        { name := "supplierId", kind := .integer, typeName := "Int", isForeignKey := true },
        { name := "product", kind := .modelReference, typeName := "Product"
          relationColumns := ["productId"], relationReferences := ["id"] },
        { name := "supplier", kind := .modelReference, typeName := "Supplier"
          relationColumns := ["supplierId"], relationReferences := ["id"] },
        { name := "before", kind := .modelReference, typeName := "Supply"
          relationColumns := ["id"], relationReferences := ["id"] }] },
   { name := "Audit"
     fields := [{ name := "rows", kind := .modelReference, typeName := "Supply", isList := true },
                { name := "state", kind := .enumReference, typeName := "State" }] }]

/-- A row is joined with its product and its supplier, not with another row. -/
theorem describe_supplyModels :
    (supplyModels.map Model.name).Nodup ∧
      List.Forall₂ (fun site relationship => relationship.Describes supplyModels site.1 site.2)
        (referenceFields supplyModels) (inferRelationships supplyModels) ∧
      (inferRelationships supplyModels).map (fun r => (r.cardinality, r.displayLabel)) =
        [(.manyToMany, "rows (M:N via Supply)"), (.manyToMany, "product (M:N via Supply)"),
         (.manyToMany, "supplier (M:N via Supply)"), (.manyToOne, "id → id (N:1)"),
         (.manyToMany, "rows (M:N)"), (.oneToOne, "state")] := by
  have distinct : (supplyModels.map Model.name).Nodup := by decide
  exact ⟨distinct, (inferRelationships_describe distinct).1, by decide +kernel⟩

/-- What is found among junctions does not depend on the order of models. -/
theorem lookup_junctions_perm {models permuted : List Model}
    (distinct : (models.map Model.name).Nodup) (perm : models.Perm permuted) (name : String) :
    (junctions permuted).lookup name = (junctions models).lookup name := by
  have permutedDistinct : (permuted.map Model.name).Nodup :=
    (perm.map Model.name).nodup_iff.mp distinct
  apply Option.ext
  intro targets
  simp only [lookup_junctions_eq_some_iff permutedDistinct, lookup_junctions_eq_some_iff distinct,
    perm.mem_iff]

theorem through_congr {found others : List (String × List String)}
    (same : ∀ name, found.lookup name = others.lookup name) (relationship : Relationship) :
    relationship.through found = relationship.through others := by
  have sameLinks (model other : String) : links found model other = links others model other := by
    rw [links, links, same]
  have sameKeys (name : String) : Assoc.hasKey found name = Assoc.hasKey others name := by
    rw [Assoc.hasKey_eq_isSome_lookup, Assoc.hasKey_eq_isSome_lookup, same]
  simp only [Relationship.through, sameLinks, sameKeys]

/-- The relationships that leave a model. -/
def relationshipsFrom (relationships : List Relationship) (model : Model) : List Relationship :=
  relationships.filter (·.sourceModel == model.name)

/-- Blocks that each leave a model of their own are told apart by their
sources. -/
theorem relationshipsFrom_flatMap {models : List Model}
    (distinct : (models.map Model.name).Nodup) {block : Model → List Relationship}
    (leaves : ∀ model, ∀ relationship ∈ block model, relationship.sourceModel = model.name)
    {model : Model} (member : model ∈ models) :
    relationshipsFrom (models.flatMap block) model = block model := by
  have own (model : Model) : relationshipsFrom (block model) model = block model :=
    List.filter_eq_self.mpr fun relationship inBlock =>
      beq_iff_eq.mpr (leaves model relationship inBlock)
  have foreign {model other : Model} (apart : other.name ≠ model.name) :
      relationshipsFrom (block other) model = [] :=
    List.filter_eq_nil_iff.mpr fun relationship inBlock same =>
      apart ((leaves other relationship inBlock).symm.trans (beq_iff_eq.mp same))
  induction models with
  | nil => contradiction
  | cons first later ih =>
      obtain ⟨new, laterDistinct⟩ := List.nodup_cons.mp distinct
      have split : relationshipsFrom ((first :: later).flatMap block) model =
          relationshipsFrom (block first) model ++
            relationshipsFrom (later.flatMap block) model := by
        rw [List.flatMap_cons]
        exact List.filter_append _ _
      rcases List.mem_cons.mp member with rfl | inLater
      · have none : relationshipsFrom (later.flatMap block) model = [] := by
          rw [relationshipsFrom, List.filter_flatMap, List.flatMap_eq_nil_iff]
          intro other otherMember
          apply foreign
          exact fun same => new (same ▸ List.mem_map_of_mem otherMember)
        rw [split, own, none, List.append_nil]
      · have apart : first.name ≠ model.name :=
          fun same => new (same ▸ List.mem_map_of_mem inLater)
        rw [split, foreign apart, List.nil_append, ih laterDistinct inLater]

/-- The block of relationships that a model contributes among some models. -/
def relationshipBlock (models : List Model) (model : Model) : List Relationship :=
  (directRelationships model).map (Relationship.through (junctions models))

theorem inferRelationships_eq_flatMap (models : List Model) :
    inferRelationships models = models.flatMap (relationshipBlock models) := by
  rw [inferRelationships, List.map_flatMap]
  rfl

theorem sourceModel_of_mem_relationshipBlock {models : List Model} {model : Model}
    {relationship : Relationship} (member : relationship ∈ relationshipBlock models model) :
    relationship.sourceModel = model.name := by
  obtain ⟨direct, isDirect, rfl⟩ := List.mem_map.mp member
  obtain ⟨field, -, rfl⟩ := List.mem_map.mp isDirect
  exact congrArg Relationship.sourceModel (ends_through (Relationship.ofField model field))

/-- The order of models decides on the order of their relationships and on
nothing else. -/
theorem inferRelationships_perm {models permuted : List Model}
    (distinct : (models.map Model.name).Nodup) (perm : models.Perm permuted) :
    inferRelationships models =
        models.flatMap (relationshipsFrom (inferRelationships models)) ∧
      inferRelationships permuted =
        permuted.flatMap (relationshipsFrom (inferRelationships models)) := by
  have block {model : Model} (member : model ∈ models) :
      relationshipBlock models model = relationshipsFrom (inferRelationships models) model := by
    rw [inferRelationships_eq_flatMap]
    apply (relationshipsFrom_flatMap distinct _ member).symm
    exact fun _ _ => sourceModel_of_mem_relationshipBlock
  have permutedBlock (model : Model) :
      relationshipBlock permuted model = relationshipBlock models model :=
    List.map_congr_left fun relationship _ =>
      through_congr (lookup_junctions_perm distinct perm) relationship
  constructor
  · exact (inferRelationships_eq_flatMap models).trans (List.flatMap_congr fun _ => block)
  · rw [inferRelationships_eq_flatMap permuted]
    apply List.flatMap_congr
    intro model member
    rw [permutedBlock, block (perm.mem_iff.mpr member)]

/-- The models of supplies in reverse. -/
theorem perm_supplyModels :
    (supplyModels.map Model.name).Nodup ∧ supplyModels.Perm supplyModels.reverse ∧
      inferRelationships supplyModels.reverse =
        supplyModels.reverse.flatMap (relationshipsFrom (inferRelationships supplyModels)) := by
  have distinct : (supplyModels.map Model.name).Nodup := by decide
  have perm : supplyModels.Perm supplyModels.reverse := (List.reverse_perm supplyModels).symm
  exact ⟨distinct, perm, (inferRelationships_perm distinct perm).2⟩

end Crowsfoot
