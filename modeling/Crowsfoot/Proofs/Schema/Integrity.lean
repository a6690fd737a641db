import Crowsfoot.Conversion
import Crowsfoot.Proofs.Schema.Cardinalities

/-!
# Integrity of schemas

Documents that give a name to two blocks are refused, and no others are.  In a
schema that was converted every block is therefore found under its name, and
every relationship leaves a field of just one model.
-/

namespace Crowsfoot

theorem eq_nil_of_mergeSort_eraseDups {names : List String}
    (none : names.eraseDups.mergeSort (· ≤ ·) = []) : names = [] := by
  have length := congrArg List.length none
  rw [List.length_mergeSort] at length
  cases names with
  | nil => rfl
  | cons first later =>
      rw [List.eraseDups_cons] at length
      contradiction

theorem repeatedNames_eq_nil_iff {names : List String} :
    repeatedNames names = [] ↔ names.Nodup := by
  constructor
  · intro none
    have once := List.filter_eq_nil_iff.mp (eq_nil_of_mergeSort_eraseDups none)
    rw [List.nodup_iff_count_le_one]
    intro name
    by_cases member : name ∈ names
    · simpa using once name member
    · rw [List.count_eq_zero_of_not_mem member]
      exact Nat.zero_le 1
  · exact repeatedNames_of_nodup

theorem commonNames_eq_nil_iff {names others : List String} :
    commonNames names others = [] ↔ ∀ name ∈ names, name ∉ others := by
  constructor
  · intro none name member
    have apart := List.filter_eq_nil_iff.mp (eq_nil_of_mergeSort_eraseDups none)
    simpa using apart name member
  · exact commonNames_of_disjoint

/-- Whether the names of the blocks of a document are distinct. -/
def Document.DistinctNames (document : Document) : Prop :=
  (document.tables.map Table.name ++ document.enums.map Enumeration.name).Nodup

theorem distinctNames_iff {document : Document} :
    document.DistinctNames ↔
      repeatedNames (document.tables.map Table.name) = [] ∧
        repeatedNames (document.enums.map Enumeration.name) = [] ∧
        commonNames (document.tables.map Table.name)
          (document.enums.map Enumeration.name) = [] := by
  rw [repeatedNames_eq_nil_iff, repeatedNames_eq_nil_iff, commonNames_eq_nil_iff,
    Document.DistinctNames, List.nodup_append]
  constructor
  · rintro ⟨models, enums, apart⟩
    exact ⟨models, enums, fun name inModels inEnums => apart name inModels name inEnums rfl⟩
  · rintro ⟨models, enums, apart⟩
    refine ⟨models, enums, ?_⟩
    rintro name inModels other inEnums rfl
    exact apart name inModels inEnums

/-- The names of a document pass the check exactly if they are distinct; what
the check finds otherwise is a fault of the source. -/
theorem checkNames_cases (document : Document) :
    (document.DistinctNames ∧ checkNames document = .ok ()) ∨
      (¬document.DistinctNames ∧
        ∃ cause, checkNames document = .error cause ∧ cause.isMalformed = true) := by
  rw [distinctNames_iff, checkNames]
  cases repeatedNames (document.tables.map Table.name) with
  | cons model models => exact .inr ⟨by simp, _, rfl, rfl⟩
  | nil =>
      cases repeatedNames (document.enums.map Enumeration.name) with
      | cons enum enums => exact .inr ⟨by simp, _, rfl, rfl⟩
      | nil =>
          cases commonNames (document.tables.map Table.name)
              (document.enums.map Enumeration.name) with
          | cons name names => exact .inr ⟨by simp, _, rfl, rfl⟩
          | nil => exact .inl ⟨⟨rfl, rfl, rfl⟩, rfl⟩

theorem classify_eq_ok_iff {document : Document} {suffixes : List String}
    {models : List Model} {enums : List Enumeration} :
    document.classify true suffixes = .ok (models, enums) ↔
      document.DistinctNames ∧ models = modelsOf suffixes document ∧ enums = document.enums := by
  rw [Document.classify, if_pos rfl]
  rcases checkNames_cases document with ⟨distinct, checked⟩ | ⟨repeated, cause, checked, -⟩
  · rw [checked]
    simp [distinct, eq_comm]
  · rw [checked]
    simp [repeated]

/-- What is classified are the models and the enums of the document, whether
or not names are checked. -/
theorem blocks_of_classify {document : Document} {rejects : Bool} {suffixes : List String}
    {models : List Model} {enums : List Enumeration}
    (classified : document.classify rejects suffixes = .ok (models, enums)) :
    models = modelsOf suffixes document ∧ enums = document.enums := by
  unfold Document.classify at classified
  split at classified
  · rw [Except.ok.injEq, Prod.mk.injEq] at classified
    exact ⟨classified.1.symm, classified.2.symm⟩
  · contradiction

theorem classify_eq_error {document : Document} {suffixes : List String} {cause : SourceError}
    (refused : document.classify true suffixes = .error cause) :
    ¬document.DistinctNames ∧ cause.isMalformed = true := by
  rw [Document.classify, if_pos rfl] at refused
  rcases checkNames_cases document with ⟨-, checked⟩ | ⟨repeated, found, checked, malformed⟩
  · rw [checked] at refused
    contradiction
  · rw [checked] at refused
    exact ⟨repeated, Except.error.inj refused ▸ malformed⟩

/-- A schema in which names are unique and every relationship leaves a field of
just one model. -/
structure Schema.Consistent (schema : Schema) : Prop where
  distinct : (schema.models.map Model.name ++ schema.enums.map Enumeration.name).Nodup
  models : ∀ model ∈ schema.models, schema.model? model.name = some model
  enums : ∀ enumeration ∈ schema.enums, schema.enum? enumeration.name = some enumeration
  relationships : ∀ relationship ∈ schema.relationships, ∃ model,
    schema.models.filter (·.name == relationship.sourceModel) = [model] ∧
      ∃ field ∈ model.fields,
        field.name = relationship.sourceField ∧ field.kind.isReference = true ∧
          field.typeName = relationship.targetModel ∧
          field.relationColumns = relationship.foreignKeyColumns ∧
          field.relationReferences = relationship.referencedColumns

/-- Under distinct keys an entry is the only one with its key. -/
theorem filter_key_eq_singleton {α : Type} {key : α → String} {entries : List α}
    (distinct : (entries.map key).Nodup) {entry : α} (member : entry ∈ entries) :
    entries.filter (key · == key entry) = [entry] := by
  induction entries with
  | nil => contradiction
  | cons first later ih =>
      obtain ⟨new, laterDistinct⟩ := List.nodup_cons.mp distinct
      rcases List.mem_cons.mp member with rfl | inLater
      · have none : later.filter (key · == key entry) = [] := by
          rw [List.filter_eq_nil_iff]
          intro other otherMember same
          exact new (beq_iff_eq.mp same ▸ List.mem_map_of_mem otherMember)
        rw [List.filter_cons_of_pos (by simp), none]
      · have apart : ¬(key first == key entry) = true := by
          rw [beq_iff_eq]
          exact fun same => new (same ▸ List.mem_map_of_mem inLater)
        rw [List.filter_cons, if_neg apart, ih laterDistinct inLater]

theorem find?_key_eq_some {α : Type} {key : α → String} {entries : List α}
    (distinct : (entries.map key).Nodup) {entry : α} (member : entry ∈ entries) :
    entries.find? (key · == key entry) = some entry := by
  rw [← List.head?_filter, filter_key_eq_singleton distinct member, List.head?_cons]

/-- Models and enums with distinct names make a consistent schema. -/
theorem consistent_of_nodup {models : List Model} {enums : List Enumeration}
    (distinct : (models.map Model.name ++ enums.map Enumeration.name).Nodup) :
    Schema.Consistent
      { models := models, enums := enums, relationships := inferRelationships models } := by
  obtain ⟨modelsDistinct, enumsDistinct, -⟩ := List.nodup_append.mp distinct
  refine ⟨distinct, fun model member => find?_key_eq_some modelsDistinct member,
    fun enumeration member => find?_key_eq_some enumsDistinct member, ?_⟩
  intro relationship member
  rw [inferRelationships_eq_map] at member
  obtain ⟨⟨model, field⟩, site, rfl⟩ := List.mem_map.mp member
  obtain ⟨inModels, inFields, reference⟩ := mem_of_mem_referenceFields site
  have describes := through_describes modelsDistinct inModels field
  refine ⟨model, ?_, field, inFields, describes.sourceField.symm, reference,
    describes.targetModel.symm, describes.foreignKeyColumns.symm,
    describes.referencedColumns.symm⟩
  rw [describes.sourceModel]
  exact filter_key_eq_singleton modelsDistinct inModels

/-! ## Conversions -/

/-- The standard header comment is one line. -/
theorem Settings.oneLine_standard : '\n' ∉ ({} : Settings).headerComment.text.toList := by
  decide

theorem schemaOf_eq_ok {settings : Settings} {dslText : String} {schema : Schema}
    (read : schemaOf settings dslText = .ok schema) :
    ∃ document, Document.ofDsl dslText = .ok document ∧
      document.classify settings.rejectCollisions.isFilled settings.foreignKeySuffixes =
        .ok (schema.models, schema.enums) ∧
      schema.relationships = inferRelationships schema.models := by
  unfold schemaOf at read
  cases parsed : Document.ofDsl dslText with
  | error cause =>
      rw [parsed] at read
      contradiction
  | ok document =>
      rw [parsed] at read
      cases classified : document.classify settings.rejectCollisions.isFilled
          settings.foreignKeySuffixes with
      | error cause =>
          simp [classified, bind, Except.bind] at read
      | ok blocks =>
          simp [classified, bind, Except.bind, pure, Except.pure] at read
          subst read
          exact ⟨document, rfl, classified, rfl⟩

/-- The schema of a document whose names are distinct. -/
def Document.schema (suffixes : List String) (document : Document) : Schema where
  models := modelsOf suffixes document
  enums := document.enums
  relationships := inferRelationships (modelsOf suffixes document)

theorem schemaOf_of_distinctNames (settings : Settings) {text : String} {document : Document}
    (read : Document.ofDsl text = .ok document) (distinct : document.DistinctNames) :
    schemaOf settings text = .ok (document.schema settings.foreignKeySuffixes) := by
  have classified := Document.classify_of_nodup distinct settings.rejectCollisions.isFilled
    settings.foreignKeySuffixes
  rw [schemaOf, read]
  simp only [bind, Except.bind, classified]
  rfl

/-- What a conversion comes from: a file of a known format whose text is not
blank, the DSL text for it, and a schema of this text that declares
something. -/
structure Conversion.MadeFrom (settings : Settings) (fileName text : String)
    (conversion : Conversion) : Prop where
  detected : settings.detectFormat? fileName = some conversion.format
  notBlank : isBlankText text = false
  written : dslTextOf settings conversion.format text = .ok conversion.dslText
  read : schemaOf settings conversion.dslText = .ok conversion.schema
  filled : conversion.schema.isEmpty = false

theorem convert_eq_ok_iff {settings : Settings} {fileName text : String} {conversion : Conversion} :
    convert settings fileName text = .ok conversion ↔
      conversion.MadeFrom settings fileName text := by
  constructor
  · intro converted
    unfold convert at converted
    split at converted
    · contradiction
    rename_i format detected
    split at converted
    · contradiction
    rename_i notBlank
    split at converted
    · contradiction
    rename_i dslText written
    split at converted
    · contradiction
    rename_i schema read
    split at converted
    · contradiction
    rename_i filled
    obtain rfl := Except.ok.inj converted
    exact ⟨detected, Bool.eq_false_iff.mpr notBlank, written, read, Bool.eq_false_iff.mpr filled⟩
  · rintro ⟨detected, notBlank, written, read, filled⟩
    simp only [convert, detected, notBlank, written, read, filled, Bool.false_eq_true, if_false]

/-- Where collisions are rejected, a document is refused exactly if a name is
repeated among its blocks, and then as malformed; whatever is converted gives a
consistent schema. -/
theorem consistent_of_convert (settings : Settings)
    (rejects : settings.rejectCollisions.isFilled = true) :
    (∀ document : Document,
      ((∃ cause, document.classify settings.rejectCollisions.isFilled
          settings.foreignKeySuffixes = .error cause) ↔ ¬document.DistinctNames) ∧
        ∀ cause, document.classify settings.rejectCollisions.isFilled
          settings.foreignKeySuffixes = .error cause → cause.isMalformed = true) ∧
      ∀ fileName text conversion, convert settings fileName text = .ok conversion →
        conversion.schema.Consistent := by
  rw [rejects]
  refine ⟨fun document => ⟨⟨?_, ?_⟩, fun cause refused => (classify_eq_error refused).2⟩, ?_⟩
  · rintro ⟨cause, refused⟩
    exact (classify_eq_error refused).1
  · intro repeated
    cases classified : document.classify true settings.foreignKeySuffixes with
    | error cause => exact ⟨cause, rfl⟩
    | ok blocks => exact absurd (classify_eq_ok_iff.mp classified).1 repeated
  · intro fileName text conversion converted
    obtain ⟨document, -, classified, inferred⟩ :=
      schemaOf_eq_ok (convert_eq_ok_iff.mp converted).read
    rw [rejects] at classified
    obtain ⟨distinct, models, enums⟩ := classify_eq_ok_iff.mp classified
    have names : (conversion.schema.models.map Model.name ++
        conversion.schema.enums.map Enumeration.name).Nodup := by
      rw [models, enums, modelsOf, List.map_map]
      exact distinct
    have consistent := consistent_of_nodup names
    rwa [← inferred] at consistent

/-- A model and an enum of one name. -/
def clashingDocument : Document where
  format := "dsl"
  tables := [{ name := "Role" }]
  enums := [{ name := "Role", values := ["ADMIN"] }]

def accountText : String :=
  "enum Role \x7b\n  ADMIN\n\x7d\n" ++
    "model Account \x7b\n  id Int @id\n  role Role\n  friends Account[]\n\x7d\n"

/-- The standard settings reject the clash, and convert the accounts to a
consistent schema with two relationships. -/
theorem consistent_convert_accountText :
    ({} : Settings).rejectCollisions.isFilled = true ∧
      (∃ cause, clashingDocument.classify true ["Id"] = .error cause) ∧
      ∃ conversion, convert {} "account.prisma" accountText = .ok conversion ∧
        conversion.schema.relationships.map (·.sourceField) = ["role", "friends"] ∧
        conversion.schema.Consistent := by
  obtain ⟨refused, consistent⟩ := consistent_of_convert {} rfl
  have clash : ¬clashingDocument.DistinctNames := by
    unfold Document.DistinctNames
    decide
  have fields : (convert {} "account.prisma" accountText).toOption.map
      (fun conversion => conversion.schema.relationships.map (·.sourceField)) =
        some ["role", "friends"] := by
    decide +kernel
  refine ⟨rfl, (refused clashingDocument).1.mpr clash, ?_⟩
  cases converted : convert {} "account.prisma" accountText with
  | error failure =>
      rw [converted] at fields
      contradiction
  | ok conversion =>
      rw [converted] at fields
      exact ⟨conversion, rfl, Option.some.inj fields, consistent _ _ _ converted⟩

end Crowsfoot
