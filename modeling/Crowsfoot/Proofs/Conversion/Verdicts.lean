import Crowsfoot.Proofs.Conversion.Outcomes
import Crowsfoot.Proofs.Dsl.HeaderComments

/-!
# Verdicts of conversions

The verdict on a source text is the result of its conversion without the DSL
text.  Two runs that differ in their header comments come to the same verdict
if neither header opens a block.  This is exact: a header that opens a block is
told apart from all others by a source text that declares nothing.
-/

namespace Crowsfoot

open Json (Value)

/-- Settings with another header comment. -/
def Settings.withHeader (settings : Settings) (header : Value) : Settings :=
  { settings with headerComment := header }

/-- All that a result says, apart from the DSL text. -/
def ConversionResult.verdict (result : ConversionResult) : ConversionResult :=
  { result with dslText := "" }

/-- The verdict on a source text. -/
def verdict (settings : Settings) (fileName text : String) : ConversionResult :=
  (conversionResult settings fileName text).verdict

/-- The schema depends on what is read from the DSL text, and not on the header. -/
theorem schemaOf_withHeader_congr (settings : Settings) (header other : Value)
    {dslText otherText : String} (same : Document.ofDsl dslText = Document.ofDsl otherText) :
    schemaOf (settings.withHeader header) dslText =
      schemaOf (settings.withHeader other) otherText := by
  rw [schemaOf, schemaOf, same]
  rfl

/-- The two DSL texts for a source text are read alike, if there are any. -/
theorem dslTextOf_withHeader_congr (settings : Settings) {header other : Value}
    (opensNoBlock : Dsl.OpensNoBlock header.text) (otherOpensNoBlock : Dsl.OpensNoBlock other.text)
    (format : SourceFormat) (text : String) :
    (∃ failure, dslTextOf (settings.withHeader header) format text = .error failure ∧
        dslTextOf (settings.withHeader other) format text = .error failure) ∨
      ∃ dslText otherText, dslTextOf (settings.withHeader header) format text = .ok dslText ∧
        dslTextOf (settings.withHeader other) format text = .ok otherText ∧
        Document.ofDsl dslText = Document.ofDsl otherText := by
  rcases eq_or_ne format .dsl with rfl | imported
  · exact .inr ⟨text, text, rfl, rfl, rfl⟩
  · cases read : Document.ofSource format text with
    | error cause =>
        exact .inl ⟨_, dslTextOf_of_error _ imported read, dslTextOf_of_error _ imported read⟩
    | ok document =>
        exact .inr ⟨_, _, dslTextOf_of_ok _ imported read, dslTextOf_of_ok _ imported read,
          Dsl.ofDsl_toDsl_congr document format opensNoBlock otherOpensNoBlock⟩

/-- Headers that open no block do not change the verdict. -/
theorem verdict_withHeader_congr {header other : Value}
    (opensNoBlock : Dsl.OpensNoBlock header.text) (otherOpensNoBlock : Dsl.OpensNoBlock other.text)
    (settings : Settings) (fileName text : String) :
    verdict (settings.withHeader header) fileName text =
      verdict (settings.withHeader other) fileName text := by
  have sameDetection : (settings.withHeader header).detectFormat? fileName =
      (settings.withHeader other).detectFormat? fileName := rfl
  have sameExtensions : (settings.withHeader header).supportedExtensions =
      (settings.withHeader other).supportedExtensions := rfl
  rw [verdict, verdict, conversionResult, conversionResult, convert, convert, sameDetection,
    sameExtensions]
  cases (settings.withHeader other).detectFormat? fileName with
  | none => rfl
  | some format =>
      cases blank : isBlankText text with
      | true => simp only [if_true]
      | false =>
          simp only [Bool.false_eq_true, if_false]
          rcases dslTextOf_withHeader_congr settings opensNoBlock otherOpensNoBlock format text with
            ⟨failure, failed, otherFailed⟩ | ⟨dslText, otherText, written, otherWritten, same⟩
          · rw [failed, otherFailed]
          · rw [written, otherWritten]
            dsimp only
            rw [schemaOf_withHeader_congr settings header other same]
            cases schemaOf (settings.withHeader other) otherText with
            | error cause => rfl
            | ok schema =>
                dsimp only
                cases schema.isEmpty <;> rfl

/-- Text of the schema DSL is converted alike under all headers. -/
theorem conversionResult_withHeader_of_dsl {settings : Settings} {fileName : String}
    (detected : settings.detectFormat? fileName = some .dsl) (header : Value) (text : String) :
    conversionResult (settings.withHeader header) fileName text =
      conversionResult settings fileName text := by
  have detectedStill : (settings.withHeader header).detectFormat? fileName = some .dsl := detected
  rw [conversionResult, conversionResult, convert, convert, detected, detectedStill]
  rfl

/-! ## Headers that open a block -/

theorem distinctNames_of_isEmpty {document : Document} (empty : document.isEmpty = true) :
    document.DistinctNames := by
  obtain ⟨noTables, noEnums⟩ := document.isEmpty_iff.mp empty
  simp [Document.DistinctNames, noTables, noEnums]

/-- A source text that declares nothing is refused as such exactly if the
header opens no block. -/
theorem errorKind_of_declaresNothing_iff {settings : Settings} {fileName text : String}
    {format : SourceFormat} (detected : settings.detectFormat? fileName = some format)
    (imported : format ≠ .dsl) (filled : isBlankText text = false)
    (nothing : DeclaresNothing format text) (header : Value) :
    (verdict (settings.withHeader header) fileName text).errorKind = some .noDefinitionsFound ↔
      Dsl.OpensNoBlock header.text := by
  obtain ⟨document, read, empty⟩ := nothing
  have written : dslTextOf (settings.withHeader header) format text =
      .ok (document.toDsl header.text format.name) :=
    dslTextOf_of_ok _ imported read
  have detectedStill : (settings.withHeader header).detectFormat? fileName = some format := detected
  rw [← Dsl.exists_ofDsl_toDsl_isEmpty_iff empty header.text format, verdict, conversionResult,
    convert, detectedStill]
  simp only [filled, Bool.false_eq_true, if_false, written]
  rcases ofSource_cases (.inl rfl) (document.toDsl header.text format.name) with
    ⟨-, cause, failed, malformed⟩ | ⟨-, again, parsed⟩
  · -- a block of the header is not closed
    rw [Document.ofSource] at failed
    simp [schemaOf_of_error _ failed, failed, ConversionResult.verdict,
      ConversionResult.ofFailure, Failure.kind, malformed]
  · rw [Document.ofSource] at parsed
    rcases schemaOf_cases (settings.withHeader header) parsed with
      ⟨-, repeated, cause, refused, malformed⟩ | ⟨-, schema, made, sameEmpty⟩
    · -- blocks of the header share a name
      have notEmpty : again.isEmpty = false := by
        rw [Bool.eq_false_iff]
        exact fun againEmpty => repeated (distinctNames_of_isEmpty againEmpty)
      simp [refused, parsed, notEmpty, ConversionResult.verdict, ConversionResult.ofFailure,
        Failure.kind, malformed]
    · rw [made]
      simp only [sameEmpty, parsed]
      cases againEmpty : again.isEmpty with
      | true =>
          simp [againEmpty, ConversionResult.verdict, ConversionResult.ofFailure, Failure.kind]
      | false =>
          simp [againEmpty, ConversionResult.verdict, ConversionResult.ofConversion]

/-- A script with one statement, which declares nothing. -/
def queryText : String := "SELECT 1;"

theorem declaresNothing_queryText : DeclaresNothing .sql queryText := by
  have noTable : Text.find? Sql.tableStatement? (Sql.stripComments queryText.toList) = none := by
    decide +kernel
  have noEnum : Sql.enumerations (Sql.stripComments queryText.toList) = [] := by decide +kernel
  refine ⟨{ format := SourceFormat.sql.name }, ?_, rfl⟩
  rw [Document.ofSource, Document.ofSql, Sql.tables_of_none noTable, noEnum]

/-- A header comment never changes a verdict, compared with any header that
opens no block, exactly if it opens no block itself.  A header of one line opens
none; and text of the schema DSL is converted alike under all headers. -/
theorem verdict_withHeader_iff (header : Value) :
    ((∀ other : Value, Dsl.OpensNoBlock other.text →
        ∀ (settings : Settings) (fileName text : String),
          verdict (settings.withHeader header) fileName text =
            verdict (settings.withHeader other) fileName text) ↔
      Dsl.OpensNoBlock header.text) ∧
      ('\n' ∉ header.text.toList → Dsl.OpensNoBlock header.text) ∧
      ∀ (settings : Settings) (fileName : String), settings.detectFormat? fileName = some .dsl →
        ∀ text, conversionResult (settings.withHeader header) fileName text =
          conversionResult settings fileName text := by
  refine ⟨⟨?_, ?_⟩, Dsl.opensNoBlock_of_oneLine, fun settings fileName detected =>
    conversionResult_withHeader_of_dsl detected header⟩
  · intro immaterial
    have detected : ({} : Settings).detectFormat? "query.sql" = some .sql := by decide +kernel
    have filled : isBlankText queryText = false := by decide
    have onQuery (header : Value) :=
      errorKind_of_declaresNothing_iff detected (by decide) filled declaresNothing_queryText header
    have harmless : Dsl.OpensNoBlock (Value.string "").text := rfl
    rw [← onQuery, immaterial (.string "") harmless, onQuery]
    exact harmless
  · intro opensNoBlock other otherOpensNoBlock settings fileName text
    exact verdict_withHeader_congr opensNoBlock otherOpensNoBlock settings fileName text

/-- A header of two lines, neither of which opens a block. -/
def notesHeader : Value := .string "Notes\n  model of orders"

/-- A header that opens a block on its second line. -/
def blockHeader : Value := .string "Notes\nmodel A \x7b\n\x7d"

/-- The header of two lines changes nothing. -/
theorem verdict_notesHeader :
    Dsl.OpensNoBlock notesHeader.text ∧
      Dsl.OpensNoBlock ({} : Settings).headerComment.text ∧
      verdict (Settings.withHeader {} notesHeader) "query.sql" queryText =
        verdict {} "query.sql" queryText := by
  have opensNoBlock : Dsl.OpensNoBlock notesHeader.text := by decide +kernel
  have standard : Dsl.OpensNoBlock ({} : Settings).headerComment.text := by decide +kernel
  exact ⟨opensNoBlock, standard,
    (verdict_withHeader_iff notesHeader).1.mpr opensNoBlock _ standard {} "query.sql" queryText⟩

/-- Two settings that differ in their headers only: with the standard header a
script that declares nothing is refused, with a block in the header it becomes a
schema. -/
theorem verdict_blockHeader :
    (verdict {} "query.sql" queryText).success = false ∧
      (verdict {} "query.sql" queryText).errorKind = some .noDefinitionsFound ∧
      (verdict (Settings.withHeader {} blockHeader) "query.sql" queryText).success = true := by
  decide +kernel

end Crowsfoot
