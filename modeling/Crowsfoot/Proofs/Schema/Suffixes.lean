import Crowsfoot.Proofs.Schema.Cardinalities
import Crowsfoot.Settings

/-!
# Suffixes of foreign keys

More suffixes mark more fields as foreign keys, and change nothing else about
the models of a document.  A model can become a junction by it, but none ceases
to be one, and the models that a junction links stay the same.  Relationships
can therefore become many to many, and never the other way.
-/

namespace Crowsfoot

/-- A field that is the same as another one, or the same but for being marked
as a foreign key. -/
structure Field.MarkedFrom (field marked : Field) : Prop where
  rest : { marked with isForeignKey := field.isForeignKey } = field
  kept : field.isForeignKey = true → marked.isForeignKey = true

/-- A model with the name and the fields of another one, some of them marked as
foreign keys in addition. -/
structure Model.MarkedFrom (model marked : Model) : Prop where
  name : marked.name = model.name
  fields : List.Forall₂ Field.MarkedFrom model.fields marked.fields

/-- A relationship with the ends of another one that is many to many in
addition, or else the same. -/
structure Relationship.UpgradedFrom (relationship upgraded : Relationship) : Prop where
  ends : upgraded.ends = relationship.ends
  kept : relationship.cardinality = .manyToMany → upgraded.cardinality = .manyToMany
  same : upgraded.cardinality ≠ .manyToMany → upgraded = relationship

section Suffixes

variable {narrow wide : List String} (contained : narrow ⊆ wide)
include contained

theorem isForeignKeyColumn_mono {column : Column}
    (marked : isForeignKeyColumn narrow column = true) :
    isForeignKeyColumn wide column = true := by
  simp only [isForeignKeyColumn, Bool.and_eq_true, List.any_eq_true] at marked ⊢
  obtain ⟨scalar, suffix, member, ends⟩ := marked
  exact ⟨scalar, suffix, contained member, ends⟩

theorem Field.markedFrom_ofColumn (enumNames bound : List String) (column : Column) :
    (Field.ofColumn enumNames bound narrow column).MarkedFrom
      (Field.ofColumn enumNames bound wide column) where
  rest := rfl
  kept := isForeignKeyColumn_mono contained

theorem Model.markedFrom_ofTable (enumNames : List String) (table : Table) :
    (Model.ofTable enumNames narrow table).MarkedFrom (Model.ofTable enumNames wide table) where
  name := rfl
  fields := by
    rw [Model.ofTable, Model.ofTable, List.forall₂_map_left_iff, List.forall₂_map_right_iff,
      List.forall₂_same]
    exact fun column _ => Field.markedFrom_ofColumn contained enumNames _ column

/-- A junction stays one, and links the same models. -/
theorem junctionTargets?_mono (enumNames : List String) (table : Table) {targets : List String}
    (junction : junctionTargets? (Model.ofTable enumNames narrow table) = some targets) :
    junctionTargets? (Model.ofTable enumNames wide table) = some targets := by
  have keys : table.columns.countP (isForeignKeyColumn narrow) ≤
      table.columns.countP (isForeignKeyColumn wide) :=
    List.countP_mono_left fun _ _ marked => isForeignKeyColumn_mono contained marked
  rw [junctionTargets?, countP_isForeignKey_ofTable, linkedModels_ofTable] at junction ⊢
  split at junction
  · contradiction
  · rename_i large
    rw [if_neg]
    · exact junction
    · simp only [Bool.or_eq_true, decide_eq_true_eq, not_or, Nat.not_lt] at large ⊢
      exact ⟨Nat.le_trans large.1 keys, large.2⟩

theorem lookup_junctions_mono {document : Document}
    (distinct : (document.tables.map Table.name).Nodup) {name : String} {targets : List String}
    (found : (junctions (modelsOf narrow document)).lookup name = some targets) :
    (junctions (modelsOf wide document)).lookup name = some targets := by
  have names (suffixes : List String) : (modelsOf suffixes document).map Model.name =
      document.tables.map Table.name := by
    rw [modelsOf, List.map_map]
    rfl
  rw [lookup_junctions_eq_some_iff (by rwa [names])] at found ⊢
  obtain ⟨model, member, named, junction⟩ := found
  obtain ⟨table, inTables, rfl⟩ := List.mem_map.mp member
  exact ⟨_, List.mem_map_of_mem inTables, named, junctionTargets?_mono contained _ table junction⟩

end Suffixes

/-- What fields say by themselves does not depend on suffixes. -/
theorem directRelationships_modelsOf (suffixes others : List String) (document : Document) :
    (modelsOf suffixes document).flatMap directRelationships =
      (modelsOf others document).flatMap directRelationships := by
  rw [modelsOf, modelsOf, List.flatMap_map, List.flatMap_map]
  apply List.flatMap_congr
  intro table _
  rw [directRelationships_ofTable, directRelationships_ofTable]

theorem not_manyToMany_of_mem_directRelationships {models : List Model}
    {relationship : Relationship} (member : relationship ∈ models.flatMap directRelationships) :
    relationship.cardinality ≠ .manyToMany := by
  obtain ⟨model, -, direct⟩ := List.mem_flatMap.mp member
  obtain ⟨field, -, rfl⟩ := List.mem_map.mp direct
  exact (fieldCardinality_fst field).1

section Through

variable {found others : List (String × List String)} {relationship : Relationship}

/-- A relationship that is not many to many by itself becomes so at a junction
that links its target, or as a list of junctions; else it stays as it is. -/
theorem cardinality_through_iff (found : List (String × List String))
    (direct : relationship.cardinality ≠ .manyToMany) :
    ((relationship.through found).cardinality = .manyToMany ↔
        links found relationship.sourceModel relationship.targetModel = true ∨
          relationship.cardinality = .oneToMany ∧
            Assoc.hasKey found relationship.targetModel = true) ∧
      ((relationship.through found).cardinality ≠ .manyToMany →
        relationship.through found = relationship) := by
  unfold Relationship.through
  dsimp only
  split
  · rename_i linked
    simp [linked]
  · rename_i apart
    split
    · rename_i list
      simp only [Bool.and_eq_true, beq_iff_eq] at list
      simp [list]
    · rename_i other
      simp only [Bool.and_eq_true, beq_iff_eq] at other
      simp [direct, apart, other]

variable (more : ∀ name targets, found.lookup name = some targets →
  others.lookup name = some targets)
include more

theorem links_mono {model other : String} (linked : links found model other = true) :
    links others model other = true := by
  unfold links at linked ⊢
  cases junction : found.lookup model with
  | none =>
      rw [junction] at linked
      contradiction
  | some targets =>
      rw [junction] at linked
      rw [more model targets junction]
      exact linked

theorem hasKey_mono {name : String} (known : Assoc.hasKey found name = true) :
    Assoc.hasKey others name = true := by
  rw [Assoc.hasKey_eq_isSome_lookup, Option.isSome_iff_exists] at known ⊢
  obtain ⟨targets, junction⟩ := known
  exact ⟨targets, more name targets junction⟩

/-- More junctions upgrade relationships. -/
theorem Relationship.upgradedFrom_through (direct : relationship.cardinality ≠ .manyToMany) :
    (relationship.through found).UpgradedFrom (relationship.through others) := by
  obtain ⟨foundIff, foundSame⟩ := cardinality_through_iff found direct
  obtain ⟨othersIff, othersSame⟩ := cardinality_through_iff others direct
  have kept : (relationship.through found).cardinality = .manyToMany →
      (relationship.through others).cardinality = .manyToMany := by
    rw [foundIff, othersIff]
    rintro (linked | ⟨list, junction⟩)
    · exact .inl (links_mono more linked)
    · exact .inr ⟨list, hasKey_mono more junction⟩
  constructor
  · exact (ends_through relationship).trans (ends_through relationship).symm
  · exact kept
  · intro notMany
    rw [othersSame notMany, foundSame fun many => notMany (kept many)]

end Through

/-! ## Documents -/

/-- Two settings that differ in the suffixes of foreign keys only, of which the
second has all of the first and possibly more, refuse the same documents for
the same cause.  Models that are made under both differ in marks of foreign
keys that come to them, every junction stays a junction of the same models, and
relationships keep their ends and are upgraded or stay as they are. -/
theorem Document.classify_suffixes_mono (document : Document)
    (distinct : (document.tables.map Table.name).Nodup) {settings others : Settings}
    (alike : { others with foreignKeySuffixes := settings.foreignKeySuffixes } = settings)
    (contained : settings.foreignKeySuffixes ⊆ others.foreignKeySuffixes) :
    (∃ cause,
        document.classify settings.rejectCollisions.isFilled settings.foreignKeySuffixes =
            .error cause ∧
          document.classify others.rejectCollisions.isFilled others.foreignKeySuffixes =
            .error cause) ∨
      ∃ models marked enums,
        document.classify settings.rejectCollisions.isFilled settings.foreignKeySuffixes =
            .ok (models, enums) ∧
          document.classify others.rejectCollisions.isFilled others.foreignKeySuffixes =
            .ok (marked, enums) ∧
          List.Forall₂ Model.MarkedFrom models marked ∧
          (∀ name targets, (junctions models).lookup name = some targets →
            (junctions marked).lookup name = some targets) ∧
          List.Forall₂ Relationship.UpgradedFrom (inferRelationships models)
            (inferRelationships marked) := by
  have rejects : others.rejectCollisions = settings.rejectCollisions := by rw [← alike]
  rw [rejects, Document.classify, Document.classify]
  cases (if settings.rejectCollisions.isFilled then checkNames document else .ok ()) with
  | error cause => exact .inl ⟨cause, rfl, rfl⟩
  | ok _ =>
      have more : ∀ name targets,
          (junctions (modelsOf settings.foreignKeySuffixes document)).lookup name =
              some targets →
            (junctions (modelsOf others.foreignKeySuffixes document)).lookup name =
              some targets :=
        fun name targets => lookup_junctions_mono contained distinct
      refine .inr ⟨_, _, _, rfl, rfl, ?_, more, ?_⟩
      · rw [modelsOf, modelsOf, List.forall₂_map_left_iff, List.forall₂_map_right_iff,
          List.forall₂_same]
        exact fun table _ => Model.markedFrom_ofTable contained _ table
      · rw [inferRelationships, inferRelationships,
          directRelationships_modelsOf others.foreignKeySuffixes settings.foreignKeySuffixes,
          List.forall₂_map_left_iff, List.forall₂_map_right_iff, List.forall₂_same]
        intro relationship member
        exact Relationship.upgradedFrom_through more
          (not_manyToMany_of_mem_directRelationships member)

/-- Users and teams with the table that joins them; one of its two keys has an
ending of its own. -/
def rosterDocument : Document where
  format := "dsl"
  tables :=
    [{ name := "User", columns := [{ name := "rows", typeToken := "Roster", isList := true }] },
     { name := "Team" },
     { name := "Roster"
       columns :=
         [{ name := "userId", typeToken := "Int" },
          { name := "team_fk", typeToken := "Int" },
          { name := "user", typeToken := "User"
            constraints := "@relation(fields: [userId], references: [id])" },
          { name := "team", typeToken := "Team"
            constraints := "@relation(fields: [team_fk], references: [id])" }] }]

/-- With the ending of the second key the table becomes a junction. -/
theorem suffixes_rosterDocument :
    let settings : Settings := {}
    let others : Settings := { foreignKeySuffixes := ["Id", "_fk"] }
    (rosterDocument.tables.map Table.name).Nodup ∧
      { others with foreignKeySuffixes := settings.foreignKeySuffixes } = settings ∧
      settings.foreignKeySuffixes ⊆ others.foreignKeySuffixes ∧
      ∃ models marked,
        List.Forall₂ Relationship.UpgradedFrom (inferRelationships models)
            (inferRelationships marked) ∧
          (inferRelationships models).map Relationship.cardinality =
            [.oneToMany, .manyToOne, .manyToOne] ∧
          (inferRelationships marked).map Relationship.cardinality =
            [.manyToMany, .manyToMany, .manyToMany] := by
  intro settings others
  have distinct : (rosterDocument.tables.map Table.name).Nodup := by decide
  have allDistinct : (rosterDocument.tables.map Table.name ++
      rosterDocument.enums.map Enumeration.name).Nodup := by decide
  have alike : { others with foreignKeySuffixes := settings.foreignKeySuffixes } = settings := rfl
  have contained : settings.foreignKeySuffixes ⊆ others.foreignKeySuffixes := by decide
  refine ⟨distinct, alike, contained, ?_⟩
  rcases rosterDocument.classify_suffixes_mono distinct alike contained with
    ⟨cause, refused, -⟩ | ⟨models, marked, enums, made, otherMade, -, -, upgraded⟩
  · rw [Document.classify_of_nodup allDistinct] at refused
    contradiction
  · rw [Document.classify_of_nodup allDistinct, Except.ok.injEq, Prod.mk.injEq] at made otherMade
    obtain ⟨rfl, -⟩ := made
    obtain ⟨rfl, -⟩ := otherMade
    exact ⟨_, _, upgraded, by decide +kernel, by decide +kernel⟩

end Crowsfoot
