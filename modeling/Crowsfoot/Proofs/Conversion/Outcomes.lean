import Crowsfoot.Conversion.Result
import Crowsfoot.Proofs.Dsl.Blocks
import Crowsfoot.Proofs.Schema.Integrity
import Crowsfoot.Proofs.Sql.Tables

/-!
# Outcomes of conversions

What comes of a source text in the schema DSL or in SQL: the text is blank, or
a body in it is not closed, or two of its blocks share a name, or it declares
nothing, or it is converted.  No text makes the program fail in any other way,
for what is written of a document can always be read again.
-/

namespace Crowsfoot

/-- The scan for tables comes to a statement whose body is not closed. -/
inductive Sql.Unclosed : List Char → Prop
  | here {text name opened : List Char} (found : Text.find? tableStatement? text = some (name, opened))
      (unclosed : splitBody false 0 opened = none) : Unclosed text
  | later {text name opened body after : List Char}
      (found : Text.find? tableStatement? text = some (name, opened))
      (closed : splitBody false 0 opened = some (body, after))
      (further : Unclosed after) : Unclosed text

theorem Sql.tables_of_unclosed {text : List Char} (isOpen : Unclosed text) :
    ∃ name, tables text = .error (.openTable name) := by
  induction isOpen with
  | here found unclosed => exact ⟨_, tables_of_open found unclosed⟩
  | later found closed further ih =>
      obtain ⟨name, failed⟩ := ih
      exact ⟨name, by rw [tables_of_some found closed, failed]; rfl⟩

/-- Reading tables fails at bodies that are not closed only. -/
theorem Sql.unclosed_of_error {text : List Char} {cause : SourceError}
    (failed : tables text = .error cause) : Unclosed text := by
  fun_induction tables text with
  | case1 => contradiction
  | case2 text name opened found _ unclosed => exact .here found unclosed
  | case3 => contradiction
  | case4 text name opened found body after closed inner read ih =>
      exact .later found closed (ih (Except.error.inj failed ▸ read))

/-- Whether a body in a source text is not closed; JSON has no such bodies. -/
def Unclosed : SourceFormat → String → Prop
  | .dsl, text => Dsl.Unclosed true text.toList
  | .sql, text => Sql.Unclosed (Sql.stripComments text.toList)
  | .json, _ => False

/-- Whether a source text is read as a document that declares nothing. -/
def DeclaresNothing (format : SourceFormat) (text : String) : Prop :=
  ∃ document, Document.ofSource format text = .ok document ∧ document.isEmpty = true

/-- Whether names are checked, and two blocks of the DSL text for a source text
share one. -/
def NamesClash (settings : Settings) (format : SourceFormat) (text : String) : Prop :=
  settings.rejectCollisions.isFilled = true ∧
    ∃ dslText read, dslTextOf settings format text = .ok dslText ∧
      Document.ofDsl dslText = .ok read ∧ ¬read.DistinctNames

/-- The schema DSL and SQL are read unless a body is not closed. -/
theorem ofSource_cases {format : SourceFormat} (block : format = .dsl ∨ format = .sql)
    (text : String) :
    (Unclosed format text ∧ ∃ cause, Document.ofSource format text = .error cause ∧
        cause.isMalformed = true) ∨
      (¬Unclosed format text ∧ ∃ document, Document.ofSource format text = .ok document) := by
  rcases block with rfl | rfl
  · rw [Document.ofSource, Document.ofDsl]
    cases read : Dsl.blocksFrom true text.toList with
    | ok blocks =>
        refine .inr ⟨fun isOpen => ?_, _, rfl⟩
        obtain ⟨name, failed⟩ := Dsl.blocksFrom_of_unclosed isOpen
        rw [read] at failed
        contradiction
    | error cause =>
        have isOpen := Dsl.unclosed_of_error read
        obtain ⟨name, failed⟩ := Dsl.blocksFrom_of_unclosed isOpen
        rw [read] at failed
        exact .inl ⟨isOpen, cause, rfl, Except.error.inj failed ▸ rfl⟩
  · rw [Document.ofSource, Document.ofSql]
    cases read : Sql.tables (Sql.stripComments text.toList) with
    | ok tables =>
        refine .inr ⟨fun isOpen => ?_, _, rfl⟩
        obtain ⟨name, failed⟩ := Sql.tables_of_unclosed isOpen
        rw [read] at failed
        contradiction
    | error cause =>
        have isOpen := Sql.unclosed_of_error read
        obtain ⟨name, failed⟩ := Sql.tables_of_unclosed isOpen
        rw [read] at failed
        exact .inl ⟨isOpen, cause, rfl, Except.error.inj failed ▸ rfl⟩

/-- A document of another notation is written in the DSL. -/
theorem dslTextOf_of_ok (settings : Settings) {format : SourceFormat} (imported : format ≠ .dsl)
    {text : String} {document : Document} (read : Document.ofSource format text = .ok document) :
    dslTextOf settings format text =
      .ok (document.toDsl settings.headerComment.text format.name) := by
  cases format with
  | dsl => contradiction
  | sql => simp only [dslTextOf, read]
  | json => simp only [dslTextOf, read]

theorem dslTextOf_of_error (settings : Settings) {format : SourceFormat} (imported : format ≠ .dsl)
    {text : String} {cause : SourceError} (failed : Document.ofSource format text = .error cause) :
    dslTextOf settings format text = .error (.source (some format) cause) := by
  cases format with
  | dsl => contradiction
  | sql => simp only [dslTextOf, failed]
  | json => simp only [dslTextOf, failed]

/-- The DSL text for a document is read, and it declares something exactly if
the document does. -/
theorem exists_dslTextOf {settings : Settings} (oneLine : '\n' ∉ settings.headerComment.text.toList)
    {format : SourceFormat} {text : String} {document : Document}
    (read : Document.ofSource format text = .ok document) :
    ∃ dslText again, dslTextOf settings format text = .ok dslText ∧
      Document.ofDsl dslText = .ok again ∧ again.isEmpty = document.isEmpty := by
  rcases eq_or_ne format .dsl with rfl | imported
  · exact ⟨text, document, rfl, read, rfl⟩
  · refine ⟨_, _, dslTextOf_of_ok settings imported read, document.ofDsl_toDsl oneLine _, ?_⟩
    simp [Document.isEmpty]

/-- A DSL text that is not read gives no schema. -/
theorem schemaOf_of_error (settings : Settings) {dslText : String} {cause : SourceError}
    (failed : Document.ofDsl dslText = .error cause) :
    schemaOf settings dslText = .error cause := by
  rw [schemaOf, failed]
  rfl

/-- A document that is read from DSL text gives a schema, which declares
something exactly if the document does, unless its names are checked and
clash. -/
theorem schemaOf_cases (settings : Settings) {dslText : String} {read : Document}
    (parsed : Document.ofDsl dslText = .ok read) :
    (settings.rejectCollisions.isFilled = true ∧ ¬read.DistinctNames ∧
        ∃ cause, schemaOf settings dslText = .error cause ∧ cause.isMalformed = true) ∨
      (¬(settings.rejectCollisions.isFilled = true ∧ ¬read.DistinctNames) ∧
        ∃ schema, schemaOf settings dslText = .ok schema ∧ schema.isEmpty = read.isEmpty) := by
  rw [schemaOf, parsed]
  cases classified : read.classify settings.rejectCollisions.isFilled
      settings.foreignKeySuffixes with
  | error cause =>
      cases rejects : settings.rejectCollisions.isFilled with
      | true =>
          rw [rejects] at classified
          obtain ⟨repeated, malformed⟩ := classify_eq_error classified
          refine .inl ⟨rfl, repeated, cause, ?_, malformed⟩
          simp [bind, Except.bind, classified]
      | false =>
          rw [rejects] at classified
          contradiction
  | ok blocks =>
      obtain ⟨models, enums⟩ := blocks
      obtain ⟨rfl, rfl⟩ := blocks_of_classify classified
      refine .inr ⟨?_, _, by simp [bind, Except.bind, classified]; rfl, ?_⟩
      · rintro ⟨rejects, repeated⟩
        rw [rejects] at classified
        exact repeated (classify_eq_ok_iff.mp classified).1
      · simp [Schema.isEmpty, Document.isEmpty, modelsOf]

/-! ## Conversions -/

section Convert

variable {settings : Settings} (oneLine : '\n' ∉ settings.headerComment.text.toList)
  {fileName text : String} {format : SourceFormat}
  (detected : settings.detectFormat? fileName = some format) (filled : isBlankText text = false)

include detected filled

/-- A text of another notation that is not read is refused for that reason. -/
theorem convert_of_error (imported : format ≠ .dsl) {cause : SourceError}
    (failed : Document.ofSource format text = .error cause) :
    convert settings fileName text = .error (.source (some format) cause) := by
  rw [convert, detected]
  simp only [filled, Bool.false_eq_true, if_false, dslTextOf_of_error settings imported failed]

/-- A text that is read as a document fails for no internal reason, whatever the
header. -/
theorem not_internal_of_ok {document : Document}
    (read : Document.ofSource format text = .ok document) :
    (conversionResult settings fileName text).errorKind ≠ some .conversionInternal := by
  obtain ⟨dslText, written⟩ : ∃ dslText, dslTextOf settings format text = .ok dslText := by
    rcases eq_or_ne format .dsl with rfl | imported
    · exact ⟨text, rfl⟩
    · exact ⟨_, dslTextOf_of_ok settings imported read⟩
  rw [conversionResult, convert, detected]
  simp only [filled, Bool.false_eq_true, if_false, written]
  rcases ofSource_cases (.inl rfl) dslText with
    ⟨-, cause, failed, malformed⟩ | ⟨-, again, parsed⟩
  · rw [schemaOf_of_error settings failed]
    simp [ConversionResult.ofFailure, Failure.kind, malformed]
  · rcases schemaOf_cases settings parsed with
      ⟨-, -, cause, refused, malformed⟩ | ⟨-, schema, made, -⟩
    · rw [refused]
      simp [ConversionResult.ofFailure, Failure.kind, malformed]
    · rw [made]
      cases empty : schema.isEmpty <;>
        simp [empty, ConversionResult.ofFailure, ConversionResult.ofConversion, Failure.kind]

include oneLine

/-- What comes of a text that is read as a document. -/
theorem convert_cases_of_ok {document : Document}
    (read : Document.ofSource format text = .ok document) :
    (NamesClash settings format text ∧
        ∃ failure, convert settings fileName text = .error failure ∧
          failure.kind = .malformedSource) ∨
      (¬NamesClash settings format text ∧ DeclaresNothing format text ∧
        convert settings fileName text = .error .noDefinitions) ∨
      (¬NamesClash settings format text ∧ ¬DeclaresNothing format text ∧
        ∃ conversion, convert settings fileName text = .ok conversion) := by
  obtain ⟨dslText, again, written, parsed, same⟩ := exists_dslTextOf oneLine read
  have clash : NamesClash settings format text ↔
      settings.rejectCollisions.isFilled = true ∧ ¬again.DistinctNames := by
    constructor
    · rintro ⟨rejects, otherText, other, otherWritten, otherParsed, repeated⟩
      obtain rfl := Except.ok.inj (written.symm.trans otherWritten)
      obtain rfl := Except.ok.inj (parsed.symm.trans otherParsed)
      exact ⟨rejects, repeated⟩
    · rintro ⟨rejects, repeated⟩
      exact ⟨rejects, dslText, again, written, parsed, repeated⟩
  have nothing : DeclaresNothing format text ↔ again.isEmpty = true := by
    rw [same]
    constructor
    · rintro ⟨other, otherRead, empty⟩
      obtain rfl := Except.ok.inj (read.symm.trans otherRead)
      exact empty
    · exact fun empty => ⟨document, read, empty⟩
  rw [convert, detected]
  simp only [filled, Bool.false_eq_true, if_false, written, nothing, clash]
  rcases schemaOf_cases settings parsed with
    ⟨rejects, repeated, cause, refused, malformed⟩ | ⟨apart, schema, made, sameEmpty⟩
  · left
    rw [refused]
    exact ⟨⟨rejects, repeated⟩, _, rfl, if_pos malformed⟩
  · right
    rw [made]
    simp only [sameEmpty]
    cases empty : again.isEmpty with
    | true => exact .inl ⟨apart, rfl, rfl⟩
    | false => exact .inr ⟨apart, by decide, _, rfl⟩

/-- What comes of a text that is not blank. -/
theorem convert_cases (block : format = .dsl ∨ format = .sql) :
    ((Unclosed format text ∨ NamesClash settings format text) ∧
        ∃ failure, convert settings fileName text = .error failure ∧
          failure.kind = .malformedSource) ∨
      (¬(Unclosed format text ∨ NamesClash settings format text) ∧ DeclaresNothing format text ∧
        convert settings fileName text = .error .noDefinitions) ∨
      (¬(Unclosed format text ∨ NamesClash settings format text) ∧
        ¬DeclaresNothing format text ∧
        ∃ conversion, convert settings fileName text = .ok conversion) := by
  rcases ofSource_cases block text with
    ⟨isOpen, cause, failed, malformed⟩ | ⟨closed, document, read⟩
  · left
    refine ⟨.inl isOpen, ?_⟩
    rcases eq_or_ne format .dsl with rfl | imported
    · refine ⟨.source none cause, ?_, if_pos malformed⟩
      rw [convert, detected]
      simp only [filled, Bool.false_eq_true, if_false, dslTextOf,
        schemaOf_of_error settings failed]
    · exact ⟨_, convert_of_error detected filled imported failed, if_pos malformed⟩
  · rw [or_iff_right closed]
    exact convert_cases_of_ok oneLine detected filled read

end Convert

/-- What the result of a conversion says about its source text. -/
structure ConversionResult.Describes (settings : Settings) (format : SourceFormat)
    (text : String) (result : ConversionResult) : Prop where
  emptyInput : result.errorKind = some .emptyInput ↔ isBlankText text = true
  malformedSource : isBlankText text = false →
    (result.errorKind = some .malformedSource ↔
      Unclosed format text ∨ NamesClash settings format text)
  noDefinitionsFound : isBlankText text = false → ¬Unclosed format text →
    ¬NamesClash settings format text →
      (result.errorKind = some .noDefinitionsFound ↔ DeclaresNothing format text)
  success : isBlankText text = false → ¬Unclosed format text →
    ¬NamesClash settings format text → ¬DeclaresNothing format text → result.success = true
  kind : result.success = true ↔ result.errorKind = none
  neverInternal : result.errorKind ≠ some .conversionInternal
  failure : result.success = false → result.schema = none ∧ result.dslText = ""

/-- A text in the schema DSL or in SQL is blank, or is malformed, or declares
nothing, or is converted; it never fails in another way. -/
theorem conversionResult_describes {settings : Settings}
    (oneLine : '\n' ∉ settings.headerComment.text.toList) {fileName : String}
    {format : SourceFormat} (detected : settings.detectFormat? fileName = some format)
    (block : format = .dsl ∨ format = .sql) (text : String) :
    (conversionResult settings fileName text).Describes settings format text := by
  cases blank : isBlankText text with
  | true =>
      have converted : convert settings fileName text = .error .emptyInput := by
        rw [convert, detected]
        simp only [blank, if_true]
      rw [conversionResult, converted]
      constructor <;> simp [ConversionResult.ofFailure, Failure.kind, blank]
  | false =>
      rcases convert_cases oneLine detected blank block with
        ⟨malformed, failure, converted, kind⟩ | ⟨sound, nothing, converted⟩ |
          ⟨sound, something, conversion, converted⟩
      · rw [conversionResult, converted]
        have excluded (closed : ¬Unclosed format text) (apart : ¬NamesClash settings format text) :
            False :=
          malformed.elim closed apart
        constructor
        case noDefinitionsFound => exact fun _ closed apart => (excluded closed apart).elim
        case success => exact fun _ closed apart => (excluded closed apart).elim
        all_goals simp [ConversionResult.ofFailure, kind, blank, malformed]
      · rw [conversionResult, converted]
        constructor <;> simp [ConversionResult.ofFailure, Failure.kind, blank, sound, nothing]
      · rw [conversionResult, converted]
        constructor <;> simp [ConversionResult.ofConversion, blank, sound, something]

/-- Two tables whose names are written alike. -/
def twinText : String :=
  "CREATE TABLE a_b (id INT); CREATE TABLE \"a b\" (id INT);"

/-- The tables clash, so nothing is converted. -/
theorem conversionResult_twinText :
    '\n' ∉ ({} : Settings).headerComment.text.toList ∧
      ({} : Settings).detectFormat? "twins.sql" = some .sql ∧
      (Unclosed .sql twinText ∨ NamesClash {} .sql twinText) ∧
      (conversionResult {} "twins.sql" twinText).errorKind = some .malformedSource ∧
      (conversionResult {} "twins.sql" twinText).schema = none := by
  have detected : ({} : Settings).detectFormat? "twins.sql" = some .sql := by decide +kernel
  have kind : (conversionResult {} "twins.sql" twinText).errorKind = some .malformedSource := by
    decide +kernel
  have describes :=
    conversionResult_describes Settings.oneLine_standard detected (.inr rfl) twinText
  exact ⟨Settings.oneLine_standard, detected,
    (describes.malformedSource (by decide +kernel)).mp kind, kind,
    (describes.failure (by decide +kernel)).1⟩

end Crowsfoot
