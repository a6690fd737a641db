import Crowsfoot.Proofs.Dsl.DefaultForms
import Crowsfoot.Proofs.Dsl.QuotedDefaults

/-!
# The rule for defaults

A string literal should be written for a quoted string and for nothing else:
some expressions have forms of their own, and all others should be handed on to
the database.  The expressions for which this holds are known exactly.  An
expression that is no call on one line is written as the literal of its own
text, and so is the inside of one that begins with a quote and ends with
another, although it is no quoted string.
-/

namespace Crowsfoot.Dsl

open Crowsfoot.Text

/-- An expression that has a form of its own in the schema DSL, or none because
it is null. -/
inductive Recognized (text : List Char) : Prop
  | now (form : nowForms.contains (lower (String.ofList text)) = true)
  | uuid (form : uuidForms.contains (lower (String.ofList text)) = true)
  | autoincrement (form : isAutoincrement (lower (String.ofList text)) = true)
  | boolean (form : (lower (String.ofList text) == "true" ||
      lower (String.ofList text) == "false") = true)
  | null (form : (lower (String.ofList text) == "null") = true)
  | number (form : isNumber text = true)

/-- What may stand inside quotes of a kind: a quote only behind another one, or,
between double quotes, behind a backslash. -/
inductive StringBody (mark : Char) : List Char → Prop
  | nil : StringBody mark []
  | plain {c : Char} {rest : List Char} (other : c ≠ mark) (later : StringBody mark rest) :
      StringBody mark (c :: rest)
  | doubled {rest : List Char} (later : StringBody mark rest) :
      StringBody mark (mark :: mark :: rest)
  | escaped {rest : List Char} (double : mark = '\x22') (later : StringBody mark rest) :
      StringBody mark ('\\' :: mark :: rest)

/-- A string between quotes. -/
def IsQuotedString (text : List Char) : Prop :=
  ∃ mark, InQuotes mark text ∧ StringBody mark (inner text)

/-- A call on one line: a dotted name and what stands between its parentheses. -/
def IsOneLineCall (text : List Char) : Prop :=
  ∃ first name gap arguments, text = first :: (name ++ (gap ++ '(' :: (arguments ++ [')']))) ∧
    (first.isAlpha = true ∨ first = '_') ∧ (∀ c ∈ name, isWord c = true ∨ c = '.') ∧
      (∀ c ∈ gap, isBlank c = true) ∧ '\n' ∉ arguments

/-- The argument that hands a text on to the database. -/
def generated (text : List Char) : String :=
  "dbgenerated(" ++ Json.quote (String.ofList text) ++ ")"

/-- An argument that is a string literal. -/
def IsLiteral (argument : String) : Prop :=
  ∃ content, Json.unquote? argument.toList = some content

theorem isCall_of_isOneLineCall {text : List Char} (call : IsOneLineCall text) :
    isCall text = true := by
  obtain ⟨first, name, gap, arguments, rfl, begins, inName, blank, oneLine⟩ := call
  have nameChars : ∀ c ∈ name, (isWord c || c == '.') = true := by
    intro c member
    simpa using inName c member
  have nameEnds : Stops (fun c => isWord c || c == '.')
      (gap ++ '(' :: (arguments ++ [')'])) := by
    cases gap with
    | nil => exact stops_cons_iff.mpr rfl
    | cons c later =>
        have blankHere := blank c List.mem_cons_self
        have notDot : c ≠ '.' := ne_of_class blankHere rfl
        apply stops_cons_iff.mpr
        simp [isWord_of_isBlank blankHere, notDot]
  have opened : skipBlanks (gap ++ '(' :: (arguments ++ [')'])) = '(' :: (arguments ++ [')']) :=
    dropWhile_append_of_stops blank (stops_cons_iff.mpr rfl)
  rw [isCall, dropWhile_append_of_stops nameChars nameEnds, opened]
  simpa [oneLine] using begins

theorem isOneLineCall_of_isCall {text : List Char} (call : isCall text = true) :
    IsOneLineCall text := by
  cases text with
  | nil => contradiction
  | cons first rest =>
      simp only [isCall, Bool.and_eq_true] at call
      obtain ⟨begins, closed⟩ := call
      split at closed
      · rename_i inside opened
        simp only [Bool.and_eq_true, beq_iff_eq, Bool.not_eq_true', List.contains_eq_mem,
          decide_eq_false_iff_not] at closed
        obtain ⟨ends, oneLine⟩ := closed
        obtain ⟨arguments, rfl⟩ := List.getLast?_eq_some_iff.mp ends
        refine ⟨first, rest.takeWhile fun c => isWord c || c == '.',
          (rest.dropWhile fun c => isWord c || c == '.').takeWhile isBlank, arguments,
          ?_, by simpa using begins, ?_, ?_, by simpa using oneLine⟩
        · rw [← opened, skipBlanks, List.takeWhile_append_dropWhile,
            List.takeWhile_append_dropWhile]
        · intro c member
          simpa using List.all_eq_true.mp List.all_takeWhile c member
        · exact List.all_eq_true.mp List.all_takeWhile
      · contradiction

theorem isCall_iff {text : List Char} : isCall text = true ↔ IsOneLineCall text :=
  ⟨isOneLineCall_of_isCall, isCall_of_isOneLineCall⟩

/-- The texts in quotes are the ones that are unquoted. -/
theorem exists_unquote?_iff {text : List Char} :
    (∃ content, unquote? text = some content) ↔ ∃ mark, InQuotes mark text := by
  constructor
  · rintro ⟨content, unquoted⟩
    unfold unquote? at unquoted
    split at unquoted
    · contradiction
    rename_i quoted
    simp only [Bool.or_eq_true, decide_eq_true_eq, bne_iff_ne, not_or, Nat.not_lt,
      Decidable.not_not] at quoted
    obtain ⟨two, same⟩ := quoted
    split at unquoted
    · rename_i single
      have begins := beq_iff_eq.mp single
      exact ⟨'\x27', by decide, begins, same ▸ begins, two⟩
    split at unquoted
    · rename_i double
      have begins := beq_iff_eq.mp double
      exact ⟨'\x22', by decide, begins, same ▸ begins, two⟩
    · contradiction
  · rintro ⟨mark, isMark, begins, ends, two⟩
    have short : ¬text.length < 2 := Nat.not_lt.mpr two
    simp only [quoteMarks, List.mem_cons, List.not_mem_nil, or_false] at isMark
    rcases isMark with rfl | rfl
    · exact ⟨_, by simp [unquote?, begins, ends, short]; rfl⟩
    · exact ⟨_, by simp [unquote?, begins, ends, short]; rfl⟩

/-- Nothing in quotes is recognized. -/
theorem InQuotes.notRecognized {mark : Char} {text : List Char} (quoted : InQuotes mark text) :
    ¬Recognized text := by
  have isSign : mark ∈ literalSigns := List.mem_append_left _ quoted.isMark
  obtain ⟨now, uuid, autoincrement, boolean, null⟩ := notWord_of_sign isSign quoted.begins
  intro recognized
  cases recognized with
  | now form => exact absurd (now.symm.trans form) (by decide)
  | uuid form => exact absurd (uuid.symm.trans form) (by decide)
  | autoincrement form => exact absurd (autoincrement.symm.trans form) (by decide)
  | boolean form => exact absurd (boolean.symm.trans form) (by decide)
  | null form => exact absurd (null.symm.trans form) (by decide)
  | number form => exact absurd (quoted.isNumber.symm.trans form) (by decide)

/-- Nothing in quotes is a call. -/
theorem InQuotes.notCall {mark : Char} {text : List Char} (quoted : InQuotes mark text) :
    ¬IsOneLineCall text := by
  have marks : ∀ mark ∈ quoteMarks, mark.isAlpha = false ∧ mark ≠ '_' := by decide
  obtain ⟨notLetter, notLine⟩ := marks mark quoted.isMark
  rintro ⟨first, name, gap, arguments, spelled, begins, -⟩
  have same := quoted.begins
  rw [spelled, List.head?_cons, Option.some.injEq] at same
  rw [same] at begins
  rcases begins with letter | line
  · rw [notLetter] at letter
    contradiction
  · exact notLine line

theorem not_isLiteral_of_head {argument : String} (begins : argument.toList.head? ≠ some '\x22') :
    ¬IsLiteral argument := by
  rintro ⟨content, read⟩
  cases spelled : argument.toList with
  | nil =>
      rw [spelled] at read
      contradiction
  | cons c rest =>
      rw [spelled] at read begins
      have notQuote : c ≠ '\x22' := by simpa using begins
      simp [Json.unquote?, notQuote] at read

theorem isLiteral_quote (text : String) : IsLiteral (Json.quote text) :=
  ⟨_, Json.unquote?_quote text⟩

theorem not_isLiteral_generated (text : List Char) : ¬IsLiteral (generated text) := by
  apply not_isLiteral_of_head
  simp [generated]

theorem not_isLiteral_of_number {text : List Char} (number : isNumber text = true) :
    ¬IsLiteral (String.ofList text) := by
  apply not_isLiteral_of_head
  rw [String.toList_ofList]
  intro begins
  obtain ⟨rest, rfl⟩ := List.head?_eq_some_iff.mp begins
  have other : isNumber ('\x22' :: rest) = false := by
    simp [isNumber, unsigned, run?, show isDecimal '\x22' = false from rfl]
  rw [other] at number
  contradiction

/-! ## The four ways of writing a default -/

/-- What a recognized expression is written as is no literal. -/
theorem not_isLiteral_of_recognized {expression argument : String}
    (recognized : Recognized (bareExpression expression))
    (written : argument ∈ defaultArgument? expression) : ¬IsLiteral argument := by
  have words : ∀ word ∈ defaultWords, word.toList.head? ≠ some '\x22' := by decide
  have word {text : String} (same : some text = some argument) (member : text ∈ defaultWords) :
      ¬IsLiteral argument :=
    Option.some.inj same ▸ not_isLiteral_of_head (words text member)
  unfold defaultArgument? at written
  simp only [Option.mem_def] at written
  split at written
  · exact word written (by decide)
  rename_i notNow
  split at written
  · exact word written (by decide)
  rename_i notUuid
  split at written
  · exact word written (by decide)
  rename_i notAutoincrement
  split at written
  · rename_i boolean
    simp only [Bool.or_eq_true, beq_iff_eq] at boolean
    rcases boolean with same | same
    · exact word (same ▸ written) (by decide)
    · exact word (same ▸ written) (by decide)
  rename_i notBoolean
  split at written
  · exact absurd written (Option.some_ne_none argument).symm
  rename_i notNull
  split at written
  · rename_i number
    exact Option.some.inj written ▸ not_isLiteral_of_number number
  rename_i notNumber
  cases recognized with
  | now form => exact absurd form notNow
  | uuid form => exact absurd form notUuid
  | autoincrement form => exact absurd form notAutoincrement
  | boolean form => exact absurd form notBoolean
  | null form => exact absurd form notNull
  | number form => exact absurd form notNumber

/-- What is not recognized is written as its content if it is in quotes, handed
on to the database if it is a call, and otherwise written as a literal. -/
theorem defaultArgument?_of_notRecognized {expression : String}
    (other : ¬Recognized (bareExpression expression)) :
    defaultArgument? expression =
      match unquote? (bareExpression expression) with
      | some content => some (Json.quote (String.ofList content))
      | none =>
          if isCall (bareExpression expression) then some (generated (bareExpression expression))
          else some (Json.quote (String.ofList (bareExpression expression))) := by
  have now := Bool.eq_false_iff.mpr fun form => other (.now form)
  have uuid := Bool.eq_false_iff.mpr fun form => other (.uuid form)
  have autoincrement := Bool.eq_false_iff.mpr fun form => other (.autoincrement form)
  have boolean := Bool.eq_false_iff.mpr fun form => other (.boolean form)
  have null := Bool.eq_false_iff.mpr fun form => other (.null form)
  have number := Bool.eq_false_iff.mpr fun form => other (.number form)
  simp only [defaultArgument?, now, uuid, autoincrement, boolean, null, number,
    Bool.false_eq_true, if_false]
  rfl

section Expression

variable {expression : String}

theorem exists_literal_of_inQuotes {mark : Char}
    (quoted : InQuotes mark (bareExpression expression)) :
    ∃ argument ∈ defaultArgument? expression, IsLiteral argument := by
  obtain ⟨content, unquoted⟩ := exists_unquote?_iff.mpr ⟨mark, quoted⟩
  refine ⟨_, ?_, isLiteral_quote (String.ofList content)⟩
  rw [defaultArgument?_of_notRecognized quoted.notRecognized, unquoted]
  rfl

theorem defaultArgument?_of_isOneLineCall (other : ¬Recognized (bareExpression expression))
    (call : IsOneLineCall (bareExpression expression)) :
    defaultArgument? expression = some (generated (bareExpression expression)) := by
  have unquoted : unquote? (bareExpression expression) = none := by
    rw [Option.eq_none_iff_forall_ne_some]
    intro content found
    obtain ⟨mark, quoted⟩ := exists_unquote?_iff.mp ⟨content, found⟩
    exact quoted.notCall call
  rw [defaultArgument?_of_notRecognized other, unquoted]
  exact if_pos (isCall_of_isOneLineCall call)

theorem exists_literal_of_other (other : ¬Recognized (bareExpression expression))
    (notCall : ¬IsOneLineCall (bareExpression expression)) :
    ∃ argument ∈ defaultArgument? expression, IsLiteral argument := by
  cases unquoted : unquote? (bareExpression expression) with
  | some content =>
      obtain ⟨mark, quoted⟩ := exists_unquote?_iff.mp ⟨content, unquoted⟩
      exact exists_literal_of_inQuotes quoted
  | none =>
      refine ⟨_, ?_, isLiteral_quote (String.ofList (bareExpression expression))⟩
      rw [defaultArgument?_of_notRecognized other, unquoted]
      exact if_neg (mt isCall_iff.mp notCall)

/-- A literal is written for what is in quotes, and for all that is neither
recognized nor a call on one line. -/
theorem exists_literal_iff :
    (∃ argument ∈ defaultArgument? expression, IsLiteral argument) ↔
      (∃ mark, InQuotes mark (bareExpression expression)) ∨
        ¬Recognized (bareExpression expression) ∧ ¬IsOneLineCall (bareExpression expression) := by
  constructor
  · rintro ⟨argument, written, literal⟩
    have other : ¬Recognized (bareExpression expression) :=
      fun recognized => not_isLiteral_of_recognized recognized written literal
    by_cases call : IsOneLineCall (bareExpression expression)
    · rw [defaultArgument?_of_isOneLineCall other call, Option.mem_some_iff] at written
      exact absurd (written ▸ literal) (not_isLiteral_generated _)
    · exact .inr ⟨other, call⟩
  · rintro (⟨mark, quoted⟩ | ⟨other, notCall⟩)
    · exact exists_literal_of_inQuotes quoted
    · exact exists_literal_of_other other notCall

end Expression

/-- The rule for the argument of an expression: a literal is written for a
quoted string and nothing else, and what is neither recognized nor a quoted
string is handed on to the database. -/
structure FollowsRule (text : List Char) (written : Option String) : Prop where
  literal : (∃ argument ∈ written, IsLiteral argument) ↔ IsQuotedString text
  other : ¬Recognized text → ¬IsQuotedString text → written = some (generated text)

section Rule

variable {expression : String}

theorem followsRule_of_recognized (recognized : Recognized (bareExpression expression)) :
    FollowsRule (bareExpression expression) (defaultArgument? expression) := by
  constructor
  · constructor
    · rintro ⟨argument, written, literal⟩
      exact absurd literal (not_isLiteral_of_recognized recognized written)
    · rintro ⟨mark, quoted, -⟩
      exact absurd recognized quoted.notRecognized
  · exact fun other => absurd recognized other

theorem followsRule_of_isQuotedString (string : IsQuotedString (bareExpression expression)) :
    FollowsRule (bareExpression expression) (defaultArgument? expression) := by
  constructor
  · apply iff_of_true _ string
    obtain ⟨mark, quoted, -⟩ := string
    exact exists_literal_of_inQuotes quoted
  · exact fun _ notString => absurd string notString

theorem followsRule_of_isOneLineCall (call : IsOneLineCall (bareExpression expression)) :
    FollowsRule (bareExpression expression) (defaultArgument? expression) := by
  by_cases recognized : Recognized (bareExpression expression)
  · exact followsRule_of_recognized recognized
  · rw [defaultArgument?_of_isOneLineCall recognized call]
    constructor
    · constructor
      · rintro ⟨argument, written, literal⟩
        obtain rfl := Option.mem_some_iff.mp written
        exact absurd literal (not_isLiteral_generated _)
      · rintro ⟨mark, quoted, -⟩
        exact absurd call quoted.notCall
    · exact fun _ _ => rfl

end Rule

/-- A literal is written for what is in quotes, and for all that is neither
recognized nor a call on one line.  So the rule holds of an expression exactly
if it is recognized, a quoted string, or a call on one line. -/
theorem followsRule_defaultArgument?_iff (expression : String) :
    ((∃ argument ∈ defaultArgument? expression, IsLiteral argument) ↔
        (∃ mark, InQuotes mark (bareExpression expression)) ∨
          ¬Recognized (bareExpression expression) ∧
            ¬IsOneLineCall (bareExpression expression)) ∧
      (FollowsRule (bareExpression expression) (defaultArgument? expression) ↔
        Recognized (bareExpression expression) ∨ IsQuotedString (bareExpression expression) ∨
          IsOneLineCall (bareExpression expression)) := by
  refine ⟨exists_literal_iff, ?_, ?_⟩
  · intro follows
    by_cases recognized : Recognized (bareExpression expression)
    · exact .inl recognized
    by_cases call : IsOneLineCall (bareExpression expression)
    · exact .inr (.inr call)
    · exact .inr (.inl (follows.literal.mp (exists_literal_of_other recognized call)))
  · rintro (recognized | string | call)
    · exact followsRule_of_recognized recognized
    · exact followsRule_of_isQuotedString string
    · exact followsRule_of_isOneLineCall call

/-- The rule fails where a literal is written for something else than a quoted
string. -/
theorem not_followsRule_of_literal {expression content : String}
    (written : defaultArgument? expression = some (Json.quote content))
    (notString : ¬IsQuotedString (bareExpression expression)) :
    ¬FollowsRule (bareExpression expression) (defaultArgument? expression) :=
  fun follows => notString (follows.literal.mp ⟨_, written, isLiteral_quote content⟩)

theorem not_isQuotedString_of_head {text : List Char}
    (begins : text.head? ∉ quoteMarks.map some) : ¬IsQuotedString text := by
  rintro ⟨mark, quoted, -⟩
  rw [quoted.begins] at begins
  exact begins (List.mem_map_of_mem quoted.isMark)

/-- Two strings with an operator between them are no quoted string. -/
theorem not_isQuotedString_concatenation : ¬IsQuotedString "'a' || 'b'".toList := by
  rintro ⟨mark, quoted, body⟩
  obtain rfl : '\x27' = mark := Option.some.inj quoted.begins
  have inside : inner "'a' || 'b'".toList = ['a', '\x27', ' ', '|', '|', ' ', '\x27', 'b'] := by
    decide
  rw [inside] at body
  cases body with
  | plain _ later =>
      cases later with
      | plain other _ => exact other rfl

/-- The rule fails of a keyword, of two strings with an operator between them,
and of a call on two lines: all are written as literals. -/
theorem not_followsRule_expressions :
    (defaultArgument? "CURRENT_DATE" = some (Json.quote "CURRENT_DATE") ∧
      ¬FollowsRule (bareExpression "CURRENT_DATE") (defaultArgument? "CURRENT_DATE")) ∧
    (defaultArgument? "'a' || 'b'" = some (Json.quote "a' || 'b") ∧
      ¬FollowsRule (bareExpression "'a' || 'b'") (defaultArgument? "'a' || 'b'")) ∧
    (defaultArgument? "f(1,\n2)" = some (Json.quote "f(1,\n2)") ∧
      ¬FollowsRule (bareExpression "f(1,\n2)") (defaultArgument? "f(1,\n2)")) := by
  have keyword : defaultArgument? "CURRENT_DATE" = some (Json.quote "CURRENT_DATE") := by
    decide +kernel
  have operator : defaultArgument? "'a' || 'b'" = some (Json.quote "a' || 'b") := by
    decide +kernel
  have lines : defaultArgument? "f(1,\n2)" = some (Json.quote "f(1,\n2)") := by
    decide +kernel
  have bare : bareExpression "'a' || 'b'" = "'a' || 'b'".toList := by
    decide +kernel
  refine ⟨⟨keyword, not_followsRule_of_literal keyword ?_⟩,
    ⟨operator, not_followsRule_of_literal operator ?_⟩,
    ⟨lines, not_followsRule_of_literal lines ?_⟩⟩
  · exact not_isQuotedString_of_head (by decide +kernel)
  · rw [bare]
    exact not_isQuotedString_concatenation
  · exact not_isQuotedString_of_head (by decide +kernel)

end Crowsfoot.Dsl
