import Crowsfoot.Proofs.Dsl.ReadNames
import Crowsfoot.Proofs.JsonSchema.Findings
import Crowsfoot.Proofs.Schema.Integrity
import Crowsfoot.Proofs.Text.WholePattern
import Crowsfoot.Schema.Payload

/-!
# Identifiers in converted schemas

The canonical shape asks for names in ASCII, while the notations allow all
letters.  That is the only way in which a converted schema can miss its shape:
it has one issue for every place that holds a name beyond ASCII, and no others.
-/

namespace Crowsfoot

open Crowsfoot.Dsl (IsName)
open Crowsfoot.JsonSchema
open Crowsfoot.Json (Value shownText)
open Crowsfoot.Text (CharSet CharClass Folding Pattern)

/-- A letter of ASCII or an underscore, and then letters and digits of ASCII
and underscores. -/
def isAsciiIdentifier (text : String) : Bool :=
  match text.toList with
  | [] => false
  | c :: rest => (c.isAlpha || c == '_') && rest.all fun c => c.isAlphanum || c == '_'

theorem beq_underscore (c : Char) :
    (c == '_') = (decide (95 ≤ c.toNat) && decide (c.toNat ≤ 95)) := by
  rw [Bool.eq_iff_iff, beq_iff_eq, ← Char.toNat_inj]
  simp
  omega

theorem isAlpha_eq_ranges (c : Char) :
    c.isAlpha = (decide (65 ≤ c.toNat ∧ c.toNat ≤ 90) ||
      decide (97 ≤ c.toNat) && decide (c.toNat ≤ 122)) :=
  rfl

theorem isDigit_eq_range (c : Char) :
    c.isDigit = (decide (48 ≤ c.toNat) && decide (c.toNat ≤ 57)) :=
  rfl

theorem contains_asciiLetter (c : Char) :
    asciiLetter.contains c = (c.isAlpha || c == '_') := by
  rw [beq_underscore, isAlpha_eq_ranges]
  simp [asciiLetter, CharSet.contains, CharSet.ofClasses, CharClass.between, CharClass.contains,
    Folding.variants, Bool.or_assoc]

theorem contains_asciiWord (c : Char) :
    asciiWord.contains c = (c.isAlphanum || c == '_') := by
  rw [beq_underscore, Char.isAlphanum, isAlpha_eq_ranges, isDigit_eq_range]
  simp [asciiWord, CharSet.contains, CharSet.ofClasses, CharClass.between, CharClass.contains,
    Folding.variants, Bool.or_assoc]

/-- The pattern of identifiers, on one line of text. -/
theorem occursIn_identifierPattern {text : String} (oneLine : '\n' ∉ text.toList) :
    identifierPattern.occursIn text = isAsciiIdentifier text := by
  rw [show identifierPattern = Pattern.whole asciiLetter asciiWord from rfl,
    Text.occursIn_whole _ _ oneLine, isAsciiIdentifier]
  cases text.toList with
  | nil => rfl
  | cons c rest =>
      simp only [contains_asciiLetter, show asciiWord.contains =
        (fun c => c.isAlphanum || c == '_') from funext contains_asciiWord]

/-- A place in a schema that holds a name. -/
structure NameSite where
  segments : List String
  name : String
  deriving DecidableEq

namespace NameSite

/-- A place one step further down. -/
def under (segment : String) (site : NameSite) : NameSite :=
  { site with segments := segment :: site.segments }

/-- What is reported of a name beyond ASCII. -/
def report (site : NameSite) : Report where
  message := shownText site.name ++ " does not match " ++ shownText identifierSource
  segments := site.segments

/-- The issue of a name beyond ASCII. -/
def issue (site : NameSite) : Issue :=
  site.report.issue

end NameSite

def Field.nameSites (field : Field) : List NameSite :=
  [⟨["name"], field.name⟩, ⟨["type_name"], field.typeName⟩]

def Model.nameSites (model : Model) : List NameSite :=
  ⟨["name"], model.name⟩ ::
    model.fields.flatMap fun field =>
      (field.nameSites.map (.under field.name)).map (.under "fields")

def Enumeration.nameSites (enumeration : Enumeration) : List NameSite :=
  [⟨["name"], enumeration.name⟩]

def Relationship.nameSites (relationship : Relationship) : List NameSite :=
  [⟨["source_model"], relationship.sourceModel⟩, ⟨["source_field"], relationship.sourceField⟩,
    ⟨["target_model"], relationship.targetModel⟩]

/-- The places of a schema that hold names: blocks and fields are shown by
their names, and relationships by their numbers. -/
def Schema.nameSites (schema : Schema) : List NameSite :=
  (schema.models.flatMap fun model =>
      (model.nameSites.map (.under model.name)).map (.under "models")) ++
    (schema.enums.flatMap fun enumeration =>
      (enumeration.nameSites.map (.under enumeration.name)).map (.under "enums")) ++
    (schema.relationships.zipIdx.flatMap fun (relationship, index) =>
      (relationship.nameSites.map (.under (toString index))).map (.under "relationships"))

/-- What is reported of the names at some places. -/
def misnamed (sites : List NameSite) : List Report :=
  (sites.filter fun site => !isAsciiIdentifier site.name).map NameSite.report

theorem misnamed_append (sites others : List NameSite) :
    misnamed (sites ++ others) = misnamed sites ++ misnamed others := by
  rw [misnamed, List.filter_append, List.map_append]
  rfl

theorem misnamed_flatMap {α : Type} (parts : List α) (sites : α → List NameSite) :
    misnamed (parts.flatMap sites) = parts.flatMap fun part => misnamed (sites part) := by
  rw [misnamed, List.filter_flatMap, List.map_flatMap]
  rfl

theorem misnamed_under (segment : String) (sites : List NameSite) :
    misnamed (sites.map (.under segment)) = (misnamed sites).map (Report.under segment) := by
  rw [misnamed, misnamed, List.filter_map, List.map_map, List.map_map]
  rfl

/-- A name is reported exactly if it goes beyond ASCII. -/
theorem reports_identifier {name : String} (isName : IsName name.toList) :
    Reports identifier (.string name) (misnamed [⟨[], name⟩]) := by
  have found : (Constraint.pattern identifierSource identifierPattern).findings (.string name) =
      if isAsciiIdentifier name then []
      else violated (shownText name ++ " does not match " ++ shownText identifierSource) := by
    rw [Constraint.findings, occursIn_identifierPattern isName.oneLine]
  rw [← List.append_nil (misnamed _)]
  refine .all_cons_silent rfl (.all_cons ?_ (.all_nil _))
  cases ascii : isAsciiIdentifier name with
  | true =>
      rw [ascii] at found
      simpa [misnamed, ascii] using Reports.silent found
  | false =>
      rw [ascii] at found
      refine ⟨[⟨_, []⟩], found, ?_⟩
      simp [misnamed, ascii, Violation.report, NameSite.report, pathSegments]

theorem reports_names {texts : List String} (nonempty : ∀ text ∈ texts, text ≠ "") :
    Reports names (.strings texts) [] := by
  apply Reports.listOf_silent
  intro text member
  apply Reports.silent
  have long : 1 ≤ text.length := by
    rw [Nat.one_le_iff_ne_zero, ne_eq, String.length_eq_zero_iff]
    exact nonempty text member
  simp [Constraint.findings, findingsOfAll, ValueType.admits, long]

theorem reports_types {types : List ValueType} {value : Value}
    (admitted : types.any (·.admits value) = true) : Reports (.all [.types types]) value [] := by
  apply Reports.silent
  simp only [Constraint.findings, findingsOfAll, admitted, if_true, List.append_nil]

theorem reports_ofType {type : ValueType} {value : Value} (admitted : type.admits value = true) :
    Reports (ofType type) value [] :=
  reports_types (by simp [admitted])

/-- A value of an enumeration. -/
theorem reports_oneOf {texts : List String} {text : String} (listed : text ∈ texts) :
    Reports (.all [.oneOf texts]) (.string text) [] := by
  apply Reports.silent
  simp [Constraint.findings, findingsOfAll, listed]

theorem DefaultKind.mem_all (kind : DefaultKind) : kind ∈ all := by
  cases kind <;> decide

theorem Cardinality.mem_all (cardinality : Cardinality) : cardinality ∈ all := by
  cases cardinality <;> decide

/-! ## Named parts -/

structure Field.Named (field : Field) : Prop where
  name : IsName field.name.toList
  typeName : IsName field.typeName.toList
  relationColumns : ∀ column ∈ field.relationColumns, column ≠ ""
  relationReferences : ∀ column ∈ field.relationReferences, column ≠ ""

structure Model.Named (model : Model) : Prop where
  name : IsName model.name.toList
  fields : ∀ field ∈ model.fields, field.Named

structure Relationship.Named (relationship : Relationship) : Prop where
  sourceModel : IsName relationship.sourceModel.toList
  sourceField : IsName relationship.sourceField.toList
  targetModel : IsName relationship.targetModel.toList
  foreignKeyColumns : ∀ column ∈ relationship.foreignKeyColumns, column ≠ ""
  referencedColumns : ∀ column ∈ relationship.referencedColumns, column ≠ ""

/-- A schema in which everything has a name. -/
structure Schema.Named (schema : Schema) : Prop where
  models : ∀ model ∈ schema.models, model.Named
  enums : ∀ enumeration ∈ schema.enums, enumeration.Named
  relationships : ∀ relationship ∈ schema.relationships, relationship.Named

theorem Dsl.IsName.ne_empty {name : String} (isName : IsName name.toList) : name ≠ "" :=
  mt String.toList_eq_nil_iff.mpr isName.nonempty

theorem Field.named_ofColumn (enumNames bound suffixes : List String) {column : Column}
    (named : column.Named) : (Field.ofColumn enumNames bound suffixes column).Named where
  name := named.name
  typeName := named.type
  relationColumns := fun _ member => Dsl.ne_empty_of_mem_relationColumns (.inl member)
  relationReferences := fun _ member => Dsl.ne_empty_of_mem_relationColumns (.inr member)

theorem Model.named_ofTable (enumNames suffixes : List String) {table : Table}
    (named : table.Named) : (Model.ofTable enumNames suffixes table).Named := by
  refine ⟨named.name, ?_⟩
  intro field member
  obtain ⟨column, inColumns, rfl⟩ := List.mem_map.mp member
  exact Field.named_ofColumn _ _ _ (named.columns column inColumns)

/-- A relationship has the names of its field. -/
theorem Relationship.named_through {model : Model} {field : Field} (modelNamed : model.Named)
    (fieldNamed : field.Named) (junctions : List (String × List String)) :
    ((Relationship.ofField model field).through junctions).Named := by
  have ends : ((Relationship.ofField model field).through junctions).ends =
      (Relationship.ofField model field).ends :=
    ends_through _
  generalize (Relationship.ofField model field).through junctions = relationship at ends
  obtain ⟨source, field', target, cardinality, columns, references, label⟩ := relationship
  simp only [Relationship.ends, Relationship.ofField, Relationship.mk.injEq] at ends
  obtain ⟨rfl, rfl, rfl, -, rfl, rfl, -⟩ := ends
  exact ⟨modelNamed.name, fieldNamed.name, fieldNamed.typeName, fieldNamed.relationColumns,
    fieldNamed.relationReferences⟩

/-- Everything in a schema that was converted has a name. -/
theorem Schema.named_of_schemaOf {settings : Settings} {dslText : String} {schema : Schema}
    (read : schemaOf settings dslText = .ok schema) : schema.Named := by
  obtain ⟨document, parsed, classified, inferred⟩ := schemaOf_eq_ok read
  obtain ⟨models, enums⟩ := blocks_of_classify classified
  have named := Document.named_of_ofDsl parsed
  have modelsNamed : ∀ model ∈ schema.models, model.Named := by
    rw [models]
    intro model member
    obtain ⟨table, inTables, rfl⟩ := List.mem_map.mp member
    exact Model.named_ofTable _ _ (named.tables table inTables)
  refine ⟨modelsNamed, fun enumeration member => named.enums enumeration (enums ▸ member), ?_⟩
  rw [inferred, inferRelationships_eq_map]
  intro relationship member
  obtain ⟨site, inSites, rfl⟩ := List.mem_map.mp member
  obtain ⟨inModels, inFields, -⟩ := mem_of_mem_referenceFields inSites
  have modelNamed := modelsNamed site.1 inModels
  exact Relationship.named_through modelNamed (modelNamed.fields site.2 inFields) _

theorem Field.Named.reports {field : Field} (named : field.Named) :
    Reports JsonSchema.field field.toJson (misnamed field.nameSites) := by
  have sites : field.nameSites = [⟨[], field.name⟩].map (.under "name") ++
      ([⟨[], field.typeName⟩].map (.under "type_name") ++ []) :=
    rfl
  have defaultValue : (ValueType.string.admits
      ((field.defaultValue.map Value.string).getD .null) || ValueType.null.admits
        ((field.defaultValue.map Value.string).getD .null)) = true := by
    cases field.defaultValue <;> rfl
  rw [sites, misnamed_append, misnamed_append, misnamed_under, misnamed_under]
  refine Reports.record
    (.cons (reports_identifier named.name)
    (.cons_silent (reports_oneOf (List.mem_map_of_mem field.kind.mem_all))
    (.cons (reports_identifier named.typeName)
    (.cons_silent (reports_ofType rfl)
    (.cons_silent (reports_ofType rfl)
    (.cons_silent (reports_ofType rfl)
    (.cons_silent (reports_ofType rfl)
    (.cons_silent (reports_ofType rfl)
    (.cons_silent (reports_ofType rfl)
    (.cons_silent (reports_ofType rfl)
    (.cons_silent (reports_oneOf (List.mem_map_of_mem field.defaultKind.mem_all))
    (.cons_silent (reports_types (by simpa using defaultValue))
    (.cons_silent (reports_ofType rfl)
    (.cons_silent (reports_names named.relationColumns)
    (.cons_silent (reports_names named.relationReferences) .nil)))))))))))))))
    ?_ ?_
  · simp [Assoc.keys]
  · simp [Assoc.keys]

theorem Model.Named.reports {model : Model} (named : model.Named) :
    Reports JsonSchema.model model.toJson (misnamed model.nameSites) := by
  have sites : model.nameSites = [⟨[], model.name⟩].map (.under "name") ++
      ((model.fields.flatMap fun field =>
        field.nameSites.map (.under field.name)).map (.under "fields") ++ []) := by
    rw [List.append_nil, List.map_flatMap]
    rfl
  have fields : Reports (listOf JsonSchema.field) (.array (model.fields.map Field.toJson))
      (misnamed (model.fields.flatMap fun field => field.nameSites.map (.under field.name))) := by
    simp only [misnamed_flatMap, misnamed_under]
    exact Reports.listOf_named
      (fun field member => ⟨rfl, (named.fields field member).name.ne_empty⟩)
      (fun field member => (named.fields field member).reports)
  rw [sites, misnamed_append, misnamed_append, misnamed_under, misnamed_under]
  refine Reports.record (.cons (reports_identifier named.name) (.cons fields .nil)) ?_ ?_
  · simp [Assoc.keys]
  · simp [Assoc.keys]

theorem Enumeration.Named.reports {enumeration : Enumeration} (named : enumeration.Named) :
    Reports JsonSchema.enumeration enumeration.toJson (misnamed enumeration.nameSites) := by
  have sites : enumeration.nameSites =
      [⟨[], enumeration.name⟩].map (.under "name") ++ [] :=
    rfl
  rw [sites, misnamed_append, misnamed_under]
  refine Reports.record
    (.cons (reports_identifier named.name) (.cons_silent (reports_names named.values) .nil))
    ?_ ?_
  · simp [Assoc.keys]
  · simp [Assoc.keys]

theorem Relationship.Named.reports {relationship : Relationship} (named : relationship.Named) :
    Reports JsonSchema.relationship relationship.toJson (misnamed relationship.nameSites) := by
  have sites : relationship.nameSites =
      [⟨[], relationship.sourceModel⟩].map (.under "source_model") ++
        ([⟨[], relationship.sourceField⟩].map (.under "source_field") ++
          ([⟨[], relationship.targetModel⟩].map (.under "target_model") ++ [])) :=
    rfl
  rw [sites, misnamed_append, misnamed_append, misnamed_append, misnamed_under, misnamed_under,
    misnamed_under]
  refine Reports.record
    (.cons (reports_identifier named.sourceModel)
    (.cons (reports_identifier named.sourceField)
    (.cons (reports_identifier named.targetModel)
    (.cons_silent (reports_oneOf (List.mem_map_of_mem relationship.cardinality.mem_all))
    (.cons_silent (reports_names named.foreignKeyColumns)
    (.cons_silent (reports_names named.referencedColumns)
    (.cons_silent (reports_ofType rfl)
    (.cons_silent (reports_ofType rfl)
    (.cons_silent (reports_ofType rfl) .nil)))))))))
    ?_ ?_
  · simp [Assoc.keys]
  · simp [Assoc.keys]

theorem Schema.Named.reports {schema : Schema} (named : schema.Named) :
    Reports canonical schema.toJson (misnamed schema.nameSites) := by
  have sites : schema.nameSites =
      (schema.models.flatMap fun model => model.nameSites.map (.under model.name)).map
          (.under "models") ++
        ((schema.enums.flatMap fun enumeration =>
            enumeration.nameSites.map (.under enumeration.name)).map (.under "enums") ++
          ((schema.relationships.zipIdx.flatMap fun (relationship, index) =>
            relationship.nameSites.map (.under (toString index))).map
              (.under "relationships") ++ [])) := by
    rw [List.append_nil, List.map_flatMap, List.map_flatMap, List.map_flatMap,
      ← List.append_assoc]
    rfl
  have models : Reports (listOf JsonSchema.model) (.array (schema.models.map Model.toJson))
      (misnamed (schema.models.flatMap fun model =>
        model.nameSites.map (.under model.name))) := by
    simp only [misnamed_flatMap, misnamed_under]
    exact Reports.listOf_named
      (fun model member => ⟨rfl, (named.models model member).name.ne_empty⟩)
      (fun model member => (named.models model member).reports)
  have enums : Reports (listOf JsonSchema.enumeration)
      (.array (schema.enums.map Enumeration.toJson))
      (misnamed (schema.enums.flatMap fun enumeration =>
        enumeration.nameSites.map (.under enumeration.name))) := by
    simp only [misnamed_flatMap, misnamed_under]
    exact Reports.listOf_named
      (fun enumeration member => ⟨rfl, (named.enums enumeration member).name.ne_empty⟩)
      (fun enumeration member => (named.enums enumeration member).reports)
  have relationships : Reports (listOf JsonSchema.relationship)
      (.array (schema.relationships.map Relationship.toJson))
      (misnamed (schema.relationships.zipIdx.flatMap fun (relationship, index) =>
        relationship.nameSites.map (.under (toString index)))) := by
    simp only [misnamed_flatMap, misnamed_under]
    exact Reports.listOf fun relationship member =>
      (named.relationships relationship member).reports
  rw [sites, misnamed_append, misnamed_append, misnamed_append, misnamed_under, misnamed_under,
    misnamed_under]
  refine Reports.record (.cons models (.cons enums (.cons relationships .nil))) ?_ ?_
  · simp [Assoc.keys]
  · simp [Assoc.keys]

/-- A converted schema has one issue for every place that holds a name beyond
ASCII, and no others. -/
theorem issues_of_convert {settings : Settings} {fileName text : String}
    {conversion : Conversion} (converted : convert settings fileName text = .ok conversion) :
    ∃ issues, canonical.issues conversion.schema.toJson = .ok issues ∧
      issues.Perm ((conversion.schema.nameSites.filter fun site =>
        !isAsciiIdentifier site.name).map NameSite.issue) := by
  have named := Schema.named_of_schemaOf (convert_eq_ok_iff.mp converted).read
  obtain ⟨issues, held, perm⟩ := named.reports.issues
  refine ⟨issues, held, ?_⟩
  rwa [misnamed, List.map_map] at perm

/-- A model, a field and an enum with names beyond ASCII. -/
def umlautText : String :=
  "model Haus \x7b\n  größe Int\n  straße Straße\n\x7d\nenum Straße \x7b\n  Allee\n\x7d\n"

/-- The enum is reported where it is declared, as a type and as a target. -/
theorem issues_umlautText :
    ∃ conversion, convert {} "haus.prisma" umlautText = .ok conversion ∧
      ∃ issues, canonical.issues conversion.schema.toJson = .ok issues ∧
        (issues.map Issue.path).Perm
          ["/models/Haus/fields/größe/name", "/models/Haus/fields/straße/name",
            "/models/Haus/fields/straße/type_name", "/enums/Straße/name",
            "/relationships/0/source_field", "/relationships/0/target_model"] := by
  have paths : (convert {} "haus.prisma" umlautText).toOption.map
      (fun conversion => ((conversion.schema.nameSites.filter fun site =>
        !isAsciiIdentifier site.name).map NameSite.issue).map Issue.path) =
      some
        ["/models/Haus/fields/größe/name", "/models/Haus/fields/straße/name",
          "/models/Haus/fields/straße/type_name", "/enums/Straße/name",
          "/relationships/0/source_field", "/relationships/0/target_model"] := by
    decide +kernel
  cases converted : convert {} "haus.prisma" umlautText with
  | error failure =>
      rw [converted] at paths
      contradiction
  | ok conversion =>
      rw [converted] at paths
      obtain ⟨issues, held, perm⟩ := issues_of_convert converted
      exact ⟨conversion, rfl, issues, held, Option.some.inj paths ▸ perm.map Issue.path⟩

end Crowsfoot
