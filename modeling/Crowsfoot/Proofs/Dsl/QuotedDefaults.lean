import Crowsfoot.Dsl.Printer
import Crowsfoot.Proofs.Json.Literals
import Crowsfoot.Proofs.Json.QuotedText
import Crowsfoot.Proofs.Text.Lines

/-!
# Quoted defaults

A default that is a string in the source is written as a string literal of the
same text, however it was quoted there.  The quotes decide: no other reading of
a default begins with one.
-/

namespace Crowsfoot.Dsl

open Crowsfoot.Text

/-- The quotes that a source writes a string in. -/
def quoteMarks : List Char :=
  ['\x27', '\x22']

/-- The signs that a literal begins with. -/
def literalSigns : List Char :=
  quoteMarks ++ ['-', '0', '1', '2', '3', '4', '5', '6', '7', '8', '9']

theorem unsigned_of_ne {c : Char} (notSign : c ≠ '-') (rest : List Char) :
    unsigned (c :: rest) = c :: rest := by
  unfold unsigned
  split
  · rename_i signed
    exact absurd (List.cons.inj signed).1 notSign
  · rfl

section Sign

variable {sign : Char} {text : List Char} (isSign : sign ∈ literalSigns)
  (begins : text.head? = some sign)
include isSign begins

/-- Such a sign keeps its place when a text is lowered. -/
theorem head?_lower_of_sign : (lower (String.ofList text)).toList.head? = some sign := by
  have kept : ∀ sign ∈ literalSigns, (sign == 'Σ') = false ∧ lowerChar sign = [sign] := by decide
  obtain ⟨rest, rfl⟩ := List.head?_eq_some_iff.mp begins
  obtain ⟨notSigma, same⟩ := kept sign isSign
  rw [lower, String.toList_ofList, String.toList_ofList, lowerChars, lowerFrom, notSigma, same]
  rfl

/-- A lowered text that begins with such a sign is no word that begins
otherwise. -/
theorem lower_ne_of_sign {word : String} (other : word.toList.head? ∉ literalSigns.map some) :
    lower (String.ofList text) ≠ word := by
  rintro rfl
  rw [head?_lower_of_sign isSign begins] at other
  exact other (List.mem_map_of_mem isSign)

theorem contains_lower_of_sign {forms : List String}
    (other : ∀ form ∈ forms, form.toList.head? ∉ literalSigns.map some) :
    forms.contains (lower (String.ofList text)) = false := by
  simp only [List.contains_eq_mem, decide_eq_false_iff_not]
  exact fun member => lower_ne_of_sign isSign begins (other _ member) rfl

/-- No word for a default is such a text. -/
theorem notWord_of_sign :
    nowForms.contains (lower (String.ofList text)) = false ∧
      uuidForms.contains (lower (String.ofList text)) = false ∧
      isAutoincrement (lower (String.ofList text)) = false ∧
      (lower (String.ofList text) == "true" || lower (String.ofList text) == "false") = false ∧
      (lower (String.ofList text) == "null") = false := by
  have differs {word : String} (other : word.toList.head? ∉ literalSigns.map some) :
      (lower (String.ofList text) == word) = false := by
    rw [beq_eq_false_iff_ne]
    exact lower_ne_of_sign isSign begins other
  have noSequence : (literal? "nextval(".toList (lower (String.ofList text)).toList).isSome =
      false := by
    obtain ⟨rest, begun⟩ := List.head?_eq_some_iff.mp (head?_lower_of_sign isSign begins)
    have notLetter : ∀ sign ∈ literalSigns, sign ≠ 'n' := by decide
    rw [begun]
    simp [literal?, notLetter sign isSign]
  refine ⟨contains_lower_of_sign isSign begins (by decide),
    contains_lower_of_sign isSign begins (by decide), ?_, ?_, differs (by decide)⟩
  · rw [isAutoincrement, differs (by decide), differs (by decide), noSequence]
    rfl
  · rw [differs (by decide), differs (by decide)]
    rfl

theorem bareExpression_of_sign (solid : Solid text) :
    bareExpression (String.ofList text) = text := by
  have notParen : ∀ sign ∈ literalSigns, sign ≠ '(' := by decide
  have noParens : hasOuterParens text = false := by
    simp [hasOuterParens, begins, notParen sign isSign]
  rw [bareExpression, String.toList_ofList, strip_of_solid solid, stripParens, noParens]
  rfl

/-- A number is written as it is. -/
theorem defaultArgument?_of_isNumber (solid : Solid text) (number : isNumber text = true) :
    defaultArgument? (String.ofList text) = some (String.ofList text) := by
  obtain ⟨now, uuid, autoincrement, boolean, null⟩ := notWord_of_sign isSign begins
  simp only [defaultArgument?, bareExpression_of_sign isSign begins solid, now, uuid,
    autoincrement, boolean, null, number, Bool.false_eq_true, if_false, if_true]

/-- A text in quotes is written as the literal of its content. -/
theorem defaultArgument?_of_unquote? (solid : Solid text) (noNumber : isNumber text = false)
    {content : List Char} (unquoted : unquote? text = some content) :
    defaultArgument? (String.ofList text) = some (Json.quote (String.ofList content)) := by
  obtain ⟨now, uuid, autoincrement, boolean, null⟩ := notWord_of_sign isSign begins
  simp only [defaultArgument?, bareExpression_of_sign isSign begins solid, now, uuid,
    autoincrement, boolean, null, noNumber, unquoted, Bool.false_eq_true, if_false]

end Sign

/-! ## Texts in quotes -/

/-- A text that begins and ends with the same quote. -/
structure InQuotes (mark : Char) (text : List Char) : Prop where
  isMark : mark ∈ quoteMarks
  begins : text.head? = some mark
  ends : text.getLast? = some mark
  two : 2 ≤ text.length

section InQuotes

variable {mark : Char} {text : List Char} (quoted : InQuotes mark text)
include quoted

theorem InQuotes.spelled : ∃ rest, text = mark :: rest :=
  List.head?_eq_some_iff.mp quoted.begins

theorem InQuotes.solid : Solid text := by
  have notBlank : ∀ mark ∈ quoteMarks, isBlank mark = false := by decide
  constructor
  · intro c member
    rw [quoted.begins, Option.mem_some_iff] at member
    exact member ▸ notBlank mark quoted.isMark
  · intro c member
    rw [List.head?_reverse, quoted.ends, Option.mem_some_iff] at member
    exact member ▸ notBlank mark quoted.isMark

theorem InQuotes.isNumber : isNumber text = false := by
  have notNumeral : ∀ mark ∈ quoteMarks, mark ≠ '-' ∧ isDecimal mark = false := by decide
  obtain ⟨rest, rfl⟩ := quoted.spelled
  obtain ⟨notSign, notDecimal⟩ := notNumeral mark quoted.isMark
  simp [Dsl.isNumber, unsigned_of_ne notSign, run?, notDecimal]

/-- A text in quotes is written as the literal of its content. -/
theorem InQuotes.defaultArgument? {content : List Char}
    (unquoted : unquote? text = some content) :
    defaultArgument? (String.ofList text) = some (Json.quote (String.ofList content)) :=
  defaultArgument?_of_unquote? (List.mem_append_left _ quoted.isMark) quoted.begins quoted.solid
    quoted.isNumber unquoted

end InQuotes

/-- How a notation quotes a string. -/
inductive Quoting
  | sql
  | json
  | dsl

/-- A text in which every single quote is doubled. -/
def doubled (text : List Char) : List Char :=
  text.flatMap fun c => if c == '\x27' then ['\x27', '\x27'] else [c]

/-- The default expression that a source states for a string: in single quotes
with doubled quotes inside, or as a literal, in ASCII or not. -/
def Quoting.expression : Quoting → String → String
  | .sql, text => String.ofList ('\x27' :: (doubled text.toList ++ ['\x27']))
  | .json, text => Json.quoteAscii text
  | .dsl, text => Json.quote text

theorem undouble_doubled (text : List Char) : undouble (doubled text) = text := by
  induction text with
  | nil => rfl
  | cons c rest ih =>
      rw [doubled, List.flatMap_cons]
      by_cases quote : c = '\x27'
      · subst c
        exact congrArg ('\x27' :: ·) ih
      · have single : (c == '\x27') = false := by simpa using quote
        rw [single]
        change undouble (c :: doubled rest) = c :: rest
        rw [undouble, ih]
        rintro later rfl -
        exact quote rfl

/-- What stands between two quotes of a kind is in quotes. -/
theorem inQuotes_of_enclosed {mark : Char} (isMark : mark ∈ quoteMarks) (content : List Char) :
    InQuotes mark (mark :: (content ++ [mark])) :=
  ⟨isMark, rfl, by simp [List.getLast?_cons], by simp⟩

theorem inQuotes_quote (text : String) : InQuotes '\x22' (Json.quote text).toList := by
  rw [Json.toList_quote]
  exact inQuotes_of_enclosed (by decide) _

theorem inQuotes_quoteAscii (text : String) : InQuotes '\x22' (Json.quoteAscii text).toList := by
  rw [Json.quoteAscii, String.toList_ofList]
  exact inQuotes_of_enclosed (by decide) _

theorem Quoting.inQuotes (quoting : Quoting) (text : String) :
    ∃ mark, InQuotes mark (quoting.expression text).toList := by
  cases quoting with
  | sql =>
      rw [expression, String.toList_ofList]
      exact ⟨_, inQuotes_of_enclosed (by decide : '\x27' ∈ quoteMarks) _⟩
  | json => exact ⟨_, inQuotes_quoteAscii text⟩
  | dsl => exact ⟨_, inQuotes_quote text⟩

/-- A literal is unquoted as such. -/
theorem unquote?_of_literal {text content : List Char} (quoted : InQuotes '\x22' text)
    (read : Json.unquote? text = some content) : unquote? text = some content := by
  have two := quoted.two
  simp [unquote?, quoted.begins, quoted.ends, read]
  omega

/-- A quoted string is unquoted as its content. -/
theorem Quoting.unquote?_expression (quoting : Quoting) (text : String) :
    unquote? (quoting.expression text).toList = some text.toList := by
  cases quoting with
  | sql =>
      have ends : ('\x27' :: (doubled text.toList ++ ['\x27'])).getLast? = some '\x27' := by
        simp [List.getLast?_cons]
      have inside : inner ('\x27' :: (doubled text.toList ++ ['\x27'])) = doubled text.toList := by
        simp [inner]
      rw [expression, String.toList_ofList, unquote?, inside, undouble_doubled, ends]
      simp
  | json => exact unquote?_of_literal (inQuotes_quoteAscii text) (Json.unquote?_quoteAscii text)
  | dsl => exact unquote?_of_literal (inQuotes_quote text) (Json.unquote?_quote text)

/-- A quoted string is written as its literal. -/
theorem defaultArgument?_expression (quoting : Quoting) (text : String) :
    defaultArgument? (quoting.expression text) = some (Json.quote text) := by
  obtain ⟨mark, quoted⟩ := quoting.inQuotes text
  have whole := quoted.defaultArgument? (quoting.unquote?_expression text)
  rwa [String.ofList_toList, String.ofList_toList] at whole

theorem expression_ne_empty (quoting : Quoting) (text : String) :
    (quoting.expression text == "") = false := by
  rw [beq_eq_false_iff_ne]
  intro empty
  obtain ⟨mark, quoted⟩ := quoting.inQuotes text
  have two := quoted.two
  simp [empty] at two

/-- A column with a quoted default is written with its literal, unless it
numbers itself. -/
theorem columnDefault?_expression (format : String) (column : Column) (quoting : Quoting)
    (text : String) :
    columnDefault? format { column with defaultText := some (quoting.expression text) } =
      if isSerial column.typeToken then some "autoincrement()" else some (Json.quote text) := by
  have declared : declaredDefault? { column with defaultText := some (quoting.expression text) } =
      some (Json.quote text) := by
    simp [declaredDefault?, expression_ne_empty, defaultArgument?_expression]
  simp [columnDefault?, declared]

end Crowsfoot.Dsl
