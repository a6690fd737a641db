import Crowsfoot.Conversion
import Crowsfoot.Proofs.Dsl.CommentedLines
import Crowsfoot.Proofs.Dsl.OpenedBodies

/-!
# Comments behind fields

A comment behind a field of a text changes the schema exactly if it says of the
field what its attributes do not say, or closes what they leave open, provided
that the body of the model still ends where it did; where a line feed ends the
line, it does.
-/

namespace Crowsfoot

open Crowsfoot.Text Crowsfoot.Dsl

/-- The schema of a text that is read. -/
theorem schemaOf_of_ofDsl (settings : Settings) {text : String} {document : Document}
    (read : Document.ofDsl text = .ok document) :
    schemaOf settings text =
      (if settings.rejectCollisions.isFilled then checkNames document else .ok ()).map fun _ =>
        { models := modelsOf settings.foreignKeySuffixes document
          enums := document.enums
          relationships :=
            inferRelationships (modelsOf settings.foreignKeySuffixes document) } := by
  rw [schemaOf, read]
  simp only [bind, Except.bind, Document.classify]
  cases (if settings.rejectCollisions.isFilled then checkNames document else .ok ()) <;> rfl

/-- The document with a table among others. -/
def Document.around (earlier later : Document) (table : Table) : Document where
  format := SourceFormat.dsl.name
  tables := earlier.tables ++ table :: later.tables
  enums := earlier.enums ++ later.enums

theorem Dsl.documentOf_append_cons (earlier later : List Block) (name body : List Char) :
    documentOf (earlier ++ ⟨.model, name, body⟩ :: later) =
      .around (documentOf earlier) (documentOf later) (Block.table ⟨.model, name, body⟩) := by
  simp [documentOf, Document.around]

/-- Tables of one name among the same blocks give the same models exactly if
their columns give the same fields. -/
theorem modelsOf_around_iff (suffixes : List String) (earlier later : Document) (name : String)
    (first second : List Column) :
    modelsOf suffixes (Document.around earlier later { name := name, columns := first }) =
        modelsOf suffixes (Document.around earlier later { name := name, columns := second }) ↔
      first.map Field.alone = second.map Field.alone := by
  simp only [modelsOf, Document.around, List.map_append, List.map_cons, List.append_right_inj,
    List.cons.injEq, and_true, Model.ofTable_eq_iff]

/-- Texts that are read alike but for the columns of a table give one schema
exactly if the names clash in both, or the columns give the same fields. -/
theorem schemaOf_around_iff (settings : Settings) {text other : String}
    (earlier later : Document) (name : String) (first second : List Column)
    (read : Document.ofDsl text =
      .ok (Document.around earlier later { name := name, columns := first }))
    (otherRead : Document.ofDsl other =
      .ok (Document.around earlier later { name := name, columns := second })) :
    schemaOf settings other = schemaOf settings text ↔
      (∃ cause, schemaOf settings text = .error cause) ∨
        second.map Field.alone = first.map Field.alone := by
  have names : checkNames (Document.around earlier later { name := name, columns := second }) =
      checkNames (Document.around earlier later { name := name, columns := first }) := by
    simp only [checkNames, Document.around, List.map_append, List.map_cons]
  have models := modelsOf_around_iff settings.foreignKeySuffixes earlier later name second first
  rw [schemaOf_of_ofDsl settings read, schemaOf_of_ofDsl settings otherRead, names, ← models]
  cases (if settings.rejectCollisions.isFilled then
      checkNames (Document.around earlier later { name := name, columns := first })
    else .ok ()) with
  | error cause => exact iff_of_true rfl (.inl ⟨cause, rfl⟩)
  | ok =>
      constructor
      · intro same
        exact .inr (congrArg Schema.models (Except.ok.inj same))
      · rintro (⟨cause, failed⟩ | same)
        · contradiction
        · simp only [Except.map, same]
          rfl

/-! ## Fields in a text -/

/-- A field in a text: the text up to the brace that opens a model, with the
blocks in it, the lines of the model before the line of the field and behind
it, and the text behind the model.  The line ends outside of strings. -/
structure FieldSite where
  before : List Char
  earlier : List Block
  name : List Char
  linesBefore : List Char
  line : List Char
  linesAfter : List Char
  after : List Char
  column : Column
  opens : Opens true before earlier .model name
  closes : splitBody .plain 0 (linesBefore ++ (line ++ linesAfter) ++ '\x7d' :: after) =
    some (linesBefore ++ (line ++ linesAfter), after)
  begins : ∀ c ∈ linesBefore.getLast?, isLineBoundary c = true
  ends : ∀ c ∈ linesAfter.head?, isLineBoundary c = true
  oneLine : ∀ c ∈ line, isLineBoundary c = false
  declares : column? (strip line) = some column
  outside : (Mode.plain.behind (linesBefore ++ line)).inString = false

namespace FieldSite

variable (site : FieldSite)

/-- The body of the model with another line for the field. -/
def bodyWith (line : List Char) : List Char :=
  site.linesBefore ++ (line ++ site.linesAfter)

/-- The text with another line for the field. -/
def textWith (line : List Char) : String :=
  String.ofList (site.before ++ (site.bodyWith line ++ '\x7d' :: site.after))

/-- The text of the field. -/
def text : String :=
  site.textWith site.line

/-- The text with a comment behind the field. -/
def commented (comment : List Char) : String :=
  site.textWith (site.line ++ trailing comment)

/-- Whether the body still ends where it did when a comment stands behind the
field. -/
def StaysClosed (comment : List Char) : Prop :=
  splitBody .plain 0 (site.bodyWith (site.line ++ trailing comment) ++ '\x7d' :: site.after) =
    some (site.bodyWith (site.line ++ trailing comment), site.after)

/-- A line feed ends the comment, and all is as before. -/
theorem staysClosed_of_lineFeed (lineFeed : site.linesAfter.head? = some '\n')
    {comment : List Char} (oneLine : '\n' ∉ comment) : site.StaysClosed comment := by
  obtain ⟨later, spelled⟩ := List.head?_eq_some_iff.mp lineFeed
  have closes := site.closes
  have whole : site.linesBefore ++ (site.line ++ site.linesAfter) =
      site.linesBefore ++ site.line ++ site.linesAfter := by simp
  rw [whole, List.append_assoc] at closes
  obtain ⟨depth, goesOn⟩ := exists_splitBody_front closes
  have shown : site.bodyWith (site.line ++ trailing comment) ++ '\x7d' :: site.after =
      site.linesBefore ++ site.line ++
        (trailing comment ++ (site.linesAfter ++ '\x7d' :: site.after)) := by
    simp [bodyWith]
  have moves := Moves.trailing site.outside oneLine
  rw [goesOn, spelled, List.cons_append, splitBody_lineFeed site.outside] at closes
  obtain ⟨⟨body, rest⟩, found, same⟩ := Option.map_eq_some_iff.mp closes
  obtain ⟨sameBody, rfl⟩ := Prod.mk.inj same
  rw [List.append_cancel_left_eq] at sameBody
  subst sameBody
  rw [StaysClosed, shown, goesOn, trailing, moves depth, spelled, List.cons_append, found]
  simp [bodyWith, spelled]

/-- The text is read with the columns of the line among those of the other
lines. -/
theorem ofDsl_textWith {line : List Char}
    (closes : splitBody .plain 0 (site.bodyWith line ++ '\x7d' :: site.after) =
      some (site.bodyWith line, site.after)) :
    Document.ofDsl (site.textWith line) =
      (blocksFrom false site.after).map fun later =>
        .around (documentOf site.earlier) (documentOf later)
          { name := String.ofList site.name
            columns := columnsIn site.linesBefore ++
              (columnsIn line ++ columnsIn site.linesAfter) } := by
  have columns : (declarations (site.bodyWith line)).filterMap column? =
      columnsIn site.linesBefore ++ (columnsIn line ++ columnsIn site.linesAfter) := by
    rw [← columnsIn_append (.inr site.ends), ← columnsIn_append (.inl site.begins)]
    rfl
  rw [Document.ofDsl, textWith, String.toList_ofList, site.opens.blocksFrom closes]
  cases blocksFrom false site.after with
  | error cause => rfl
  | ok later =>
      simp only [Except.map, documentOf_append_cons, Block.table, columns]

/-- A comment behind a field changes nothing exactly if it is inert. -/
theorem schemaOf_commented_iff (settings : Settings) {comment : List Char}
    (commentOneLine : ∀ c ∈ comment, isLineBoundary c = false)
    (closes : site.StaysClosed comment) :
    schemaOf settings (site.commented comment) = schemaOf settings site.text ↔
      (∃ cause, schemaOf settings site.text = .error cause) ∨ InertComment site.column comment := by
  obtain ⟨changed, declares, same⟩ :=
    exists_columnsIn_trailing site.oneLine commentOneLine site.declares
  have plain : columnsIn site.line = [site.column] := by
    rw [columnsIn_of_oneLine site.oneLine, site.declares]
    rfl
  have read := site.ofDsl_textWith site.closes
  have otherRead := site.ofDsl_textWith closes
  rw [plain] at read
  rw [declares] at otherRead
  rw [text, commented]
  cases later : blocksFrom false site.after with
  | error cause =>
      rw [later] at read otherRead
      rw [schemaOf, schemaOf, read, otherRead]
      exact iff_of_true rfl (.inl ⟨cause, rfl⟩)
  | ok blocks =>
      rw [later] at read otherRead
      rw [schemaOf_around_iff settings _ _ _ _ _ read otherRead, ← same]
      simp

end FieldSite

/-- Every field on a line of its own, in a model of a text that is read, stands
at a site.  If a line feed ends its line, the body ends where it did when a
comment stands behind the field; and if so, the comment leaves the schema alone
exactly if it is inert, unless names clash.  A comment without at signs and
closing brackets is inert where the default is closed. -/
theorem schemaOf_commented {text : String} {earlier later : List Block}
    {name linesBefore line linesAfter : List Char} {column : Column}
    (read : blocksFrom true text.toList =
      .ok (earlier ++ ⟨.model, name, linesBefore ++ (line ++ linesAfter)⟩ :: later))
    (begins : ∀ c ∈ linesBefore.getLast?, isLineBoundary c = true)
    (ends : ∀ c ∈ linesAfter.head?, isLineBoundary c = true)
    (oneLine : ∀ c ∈ line, isLineBoundary c = false)
    (declares : column? (strip line) = some column)
    (outside : (Mode.plain.behind (linesBefore ++ line)).inString = false) :
    ∃ site : FieldSite, site.text = text ∧ site.earlier = earlier ∧
      site.linesBefore = linesBefore ∧ site.line = line ∧ site.linesAfter = linesAfter ∧
      ∀ comment : List Char, (∀ c ∈ comment, isLineBoundary c = false) →
        (linesAfter.head? = some '\n' → site.StaysClosed comment) ∧
        (site.StaysClosed comment → ∀ settings : Settings,
          (schemaOf settings (site.commented comment) = schemaOf settings text ↔
            (∃ cause, schemaOf settings text = .error cause) ∨ InertComment column comment)) ∧
        ('@' ∉ comment → ']' ∉ comment →
          (∀ argument ∈ find? (openingOf? "@default") column.constraints.toList,
            argumentText '(' false 0 argument ≠ argument) → InertComment column comment) := by
  obtain ⟨before, after, spelled, opens, closes⟩ := exists_opens read
  let site : FieldSite :=
    { before, earlier, name, linesBefore, line, linesAfter, after, column, opens, closes, begins,
      ends, oneLine, declares, outside }
  have sameText : site.text = text := by
    rw [FieldSite.text, FieldSite.textWith, FieldSite.bodyWith, ← spelled, String.ofList_toList]
  refine ⟨site, sameText, rfl, rfl, rfl, rfl, fun comment commentOneLine => ⟨?_, ?_, ?_⟩⟩
  · intro lineFeed
    refine site.staysClosed_of_lineFeed lineFeed fun member => ?_
    exact absurd (commentOneLine _ member) (by decide)
  · intro staysClosed settings
    rw [← sameText]
    exact site.schemaOf_commented_iff settings commentOneLine staysClosed
  · exact fun noMark noBracket closed => inertComment_of_plain noMark noBracket closed

/-- A model of a single field. -/
def counterText : String :=
  "model A \x7b\n  x Int @default(1)\n\x7d\n"

/-- Braces and parentheses behind the field are of no concern; a mark is. -/
theorem schemaOf_commented_counter :
    ∃ site : FieldSite, site.text = counterText ∧
      schemaOf {} (site.commented "see \x7b (1".toList) = schemaOf {} counterText ∧
      schemaOf {} (site.commented "not @unique".toList) ≠ schemaOf {} counterText := by
  have read : blocksFrom true counterText.toList =
      .ok ([] ++ ⟨.model, ['A'], ['\n'] ++ ("  x Int @default(1)".toList ++ ['\n'])⟩ :: []) := by
    decide +kernel
  have declares : column? (strip "  x Int @default(1)".toList) =
      some (readColumn ['x'] "Int".toList .none "@default(1)".toList) :=
    column?_of_fieldLine? (by decide +kernel)
  have begins : ∀ c ∈ some '\n', isLineBoundary c = true := by
    rintro c ⟨⟩
    decide
  obtain ⟨site, same, -, -, -, -, comments⟩ :=
    schemaOf_commented read begins begins (by decide) declares (by decide)
  have succeeds : ¬∃ cause, schemaOf {} counterText = .error cause := by
    rintro ⟨cause, failed⟩
    have made : (schemaOf {} counterText).toOption.isSome = true := by decide +kernel
    rw [failed] at made
    exact Bool.false_ne_true made
  refine ⟨site, same, ?_, ?_⟩
  · obtain ⟨stays, agree, inert⟩ := comments "see \x7b (1".toList (by decide)
    exact (agree (stays rfl) {}).mpr (.inr (inert (by decide) (by decide) (by decide +kernel)))
  · obtain ⟨stays, agree, -⟩ := comments "not @unique".toList (by decide)
    intro same
    rcases (agree (stays rfl) {}).mp same with failed | inert
    · exact succeeds failed
    · exact absurd (inert.unique (by decide +kernel)) (by decide +kernel)

/-- A comment that names a mark. -/
theorem schemaOf_idComment :
    schemaOf {} "model A \x7b\n  x Int // see @id\n\x7d\n" ≠
      schemaOf {} "model A \x7b\n  x Int\n\x7d\n" := by
  decide +kernel

end Crowsfoot
