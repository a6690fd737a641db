import Crowsfoot.Proofs.Sql.Nesting
import Crowsfoot.Proofs.Sql.Phrases

/-!
# Columns are read back

A column definition is taken for a column unless its name is spelled like the
beginning of a table constraint, or a literal speaks of a foreign key.  It is
then read with its name, its type and the text of its clauses.
-/

namespace Crowsfoot.Sql

open Crowsfoot.Text

/-- The text of a column with a name and a type. -/
def typedText (name : PlainName) (type : TypeName) (rest : List Char) : List Char :=
  name.name.toList ++ ' ' :: (type.text.toList ++ rest)

theorem ColumnDefinition.toList_text_eq (column : ColumnDefinition) :
    column.text.toList = typedText column.name column.type (tailText column.clauses) :=
  column.toList_text

namespace TypeName

variable (type : TypeName) (rest : List Char)

theorem exists_cons_text : ∃ c later, type.text.toList ++ rest = c :: later ∧ isWord c = true := by
  obtain ⟨c, later, spelled, word⟩ := type.run_word.exists_cons
  rw [type.toList_text, spelled]
  exact ⟨c, _, rfl, word⟩

theorem skipBlanks_text :
    skipBlanks (' ' :: (type.text.toList ++ rest)) = type.text.toList ++ rest := by
  obtain ⟨c, later, spelled, word⟩ := type.exists_cons_text rest
  rw [spelled]
  exact skipBlanks_of_stops (stops_cons_iff.mpr (isBlank_of_isWord word))

theorem blanks?_text :
    blanks? (' ' :: (type.text.toList ++ rest)) = some (type.text.toList ++ rest) :=
  congrArg some (type.skipBlanks_text rest)

/-- The end of a name is followed by no parenthesis. -/
theorem parenFollows_eq_false {text : List Char} (words : ∀ c ∈ text, isWord c = true) :
    parenFollows (text ++ ' ' :: (type.text.toList ++ rest)) = false := by
  rw [parenFollows]
  cases text with
  | nil =>
      obtain ⟨c, later, spelled, word⟩ := type.exists_cons_text rest
      rw [List.nil_append, type.skipBlanks_text, spelled]
      simpa using ne_of_class word rfl
  | cons c more =>
      have word := words c List.mem_cons_self
      have skipped : skipBlanks (c :: (more ++ ' ' :: (type.text.toList ++ rest))) =
          c :: (more ++ ' ' :: (type.text.toList ++ rest)) :=
        skipBlanks_of_stops (stops_cons_iff.mpr (isBlank_of_isWord word))
      rw [List.cons_append, skipped]
      simpa using ne_of_class word rfl

end TypeName

/-- The name and the type of a column do not speak of a foreign key. -/
theorem mentionsForeignKey_typedText (name : PlainName) (type : TypeName) {rest : List Char}
    (spaced : IsSpaced rest) (unread : (blanks? rest).bind (keyword? "key") = none) :
    mentionsForeignKey (typedText name type rest) = mentionsForeignKey rest := by
  have reads := readsAfter_keywords? "foreign" "key"
  have keyword : IsKeyword "foreign" := by decide
  have noKey : (blanks? (' ' :: (type.text.toList ++ rest))).bind (keyword? "key") = none := by
    rw [type.blanks?_text]
    exact type.keyword?_eq_none (by decide) spaced
  have behindType : find? (keywords? ["foreign", "key"]) (type.text.toList ++ rest) =
      find? (keywords? ["foreign", "key"]) rest := by
    rw [type.toList_text, List.append_assoc]
    refine reads.find?_target keyword type.run_word type.runs_parameters fun _ => ?_
    exact reads.find?_unless keyword type.run_word.word spaced.stops_isWord unread
  rw [mentionsForeignKey, occurs, typedText,
    reads.find?_unless keyword name.run.word (stops_cons_iff.mpr rfl) noKey,
    reads.find?_cons keyword rfl, behindType]
  rfl

/-- A column speaks of a foreign key exactly if one of its literals does. -/
theorem mentionsForeignKey_column (column : ColumnDefinition) :
    mentionsForeignKey column.text.toList =
      (literals column.clauses).any fun content => mentionsForeignKey content.toList := by
  have tail := isTail_tailText column.clauses
  have silent : column.clauses.any (Clause.states "foreign") = false := by
    rw [List.any_eq_false]
    intro clause _
    cases clause <;> simp [Clause.states]
  have phrase : ("foreign", "key") ∈ phrases := by decide
  have shown := occurs_phrase_tailText phrase column.clauses
  rw [silent, Bool.false_or] at shown
  rw [column.toList_text_eq,
    mentionsForeignKey_typedText column.name column.type tail.isSpaced (tail.unread (by decide))]
  exact shown

/-! ## Table constraints and columns -/

theorem letters?_append_letters (first second text : List Char) :
    letters? (first ++ second) text = (letters? first text).bind (letters? second) := by
  induction first generalizing text with
  | nil => rfl
  | cons letter more ih =>
      cases text with
      | nil => rfl
      | cons c rest =>
          simp only [List.cons_append, letters?]
          split
          · exact ih rest
          · rfl

/-- A word that is made of two keywords is spelled by one after the other. -/
theorem spells_append (first second : String) (text : List Char) :
    spells (first ++ second) text = ((keyword? first text).any (spells second)) := by
  rw [spells, keyword?, String.toList_append, letters?_append_letters, keyword?]
  cases letters? first.toList text <;> rfl

/-- The words of a table constraint, each with what has to follow it. -/
theorem beginsConstraint_eq (definition : List Char) :
    beginsConstraint definition =
      ((wholeKeyword? "constraint" definition).isSome ||
        (keywords? ["primary", "key"] definition).any (!wordFollows ·) ||
        (keyword? "check" definition).any parenFollows ||
        (keyword? "unique" definition).any fun rest =>
          (wholeKeyword? "key" (skipBlanks rest)).isSome ||
            (wholeKeyword? "index" (skipBlanks rest)).isSome || parenFollows rest) := by
  rw [beginsConstraint]
  cases keywords? ["primary", "key"] definition <;> cases keyword? "check" definition <;>
    cases keyword? "unique" definition <;> rfl

/-- The words that make a column look like a table constraint. -/
def constraintWords : List String :=
  ["constraint", "unique" ++ "key", "unique" ++ "index"]

section Name

variable (name : PlainName) (type : TypeName) {rest : List Char} (spaced : IsSpaced rest)

include spaced

/-- A keyword behind `unique` is whole exactly if it ends the name. -/
theorem isSome_wholeKeyword?_behind {word : String} (other : word ∈ ["key", "index"])
    {text : List Char} (words : ∀ c ∈ text, isWord c = true) :
    (wholeKeyword? word (skipBlanks (text ++ ' ' :: (type.text.toList ++ rest)))).isSome =
      spells word text := by
  have keyword := isKeyword_indexWord word other
  cases text with
  | nil =>
      rw [List.nil_append, type.skipBlanks_text, wholeKeyword?,
        type.keyword?_eq_none other spaced, spells, keyword?_nil keyword]
      rfl
  | cons c more =>
      have start : Stops isBlank (c :: more ++ ' ' :: (type.text.toList ++ rest)) :=
        stops_cons_iff.mpr (isBlank_of_isWord (words c List.mem_cons_self))
      rw [skipBlanks_of_stops start, wholeKeyword?_append_cons keyword rfl, Option.isSome_map,
        isSome_wholeKeyword?_run words]

/-- A column looks like a table constraint exactly if its name is spelled like
one of three words. -/
theorem beginsConstraint_typedText :
    beginsConstraint (typedText name type rest) =
      constraintWords.any fun word => spells word name.name.toList := by
  have words := name.run.word
  have stops : Stops isWord (' ' :: (type.text.toList ++ rest)) := stops_cons_iff.mpr rfl
  have checkKeyword : IsKeyword "check" := by decide
  have constraint : (wholeKeyword? "constraint"
      (name.name.toList ++ ' ' :: (type.text.toList ++ rest))).isSome =
        spells "constraint" name.name.toList := by
    rw [wholeKeyword?_append_cons (by decide) rfl, Option.isSome_map,
      isSome_wholeKeyword?_run words]
  have primary : keywords? ["primary", "key"]
      (name.name.toList ++ ' ' :: (type.text.toList ++ rest)) = none := by
    rw [readsAfter_keywords?, spacedKeywords?_run (by decide) words stops]
    split
    · rw [type.blanks?_text]
      exact type.keyword?_eq_none (by decide) spaced
    · rfl
  have inName {word : String} {more : List Char}
      (read : keyword? word name.name.toList = some more) : ∀ c ∈ more, isWord c = true :=
    fun c member => words c ((suffix_of_letters? read).mem member)
  have check : ((keyword? "check" name.name.toList).map
      (· ++ ' ' :: (type.text.toList ++ rest))).any parenFollows = false := by
    cases read : keyword? "check" name.name.toList with
    | none => rfl
    | some more => exact type.parenFollows_eq_false rest (inName read)
  have unique : (((keyword? "unique" name.name.toList).map
      (· ++ ' ' :: (type.text.toList ++ rest))).any fun more =>
        (wholeKeyword? "key" (skipBlanks more)).isSome ||
          (wholeKeyword? "index" (skipBlanks more)).isSome || parenFollows more) =
      (spells ("unique" ++ "key") name.name.toList ||
        spells ("unique" ++ "index") name.name.toList) := by
    rw [spells_append, spells_append]
    cases read : keyword? "unique" name.name.toList with
    | none => rfl
    | some more =>
        have moreWords := inName read
        simp only [Option.map_some, Option.any_some]
        rw [isSome_wholeKeyword?_behind type spaced (by decide) moreWords,
          isSome_wholeKeyword?_behind type spaced (by decide) moreWords,
          type.parenFollows_eq_false rest moreWords, Bool.or_false]
  rw [typedText, beginsConstraint_eq, constraint, primary, keyword?_append checkKeyword stops,
    keyword?_append isKeyword_unique stops, check, unique]
  simp [constraintWords]

/-- The word behind a name is a type of the table with what belongs to it. -/
theorem firstWord_behind : ∃ more, firstWord (' ' :: (type.text.toList ++ rest)) =
    type.word.toList ++ more ∧ (∀ c ∈ more, isBlank c = false) ∧ Stops (· != '(') more := by
  let behind := (optionalListText type.parameterTexts).toList ++ rest
  have spelled : type.text.toList ++ rest = type.word.toList ++ behind := by
    rw [type.toList_text, List.append_assoc]
  have words : ∀ c ∈ type.word.toList, (!isBlank c) = true := by
    intro c member
    simp [type.run_word.notBlank c member]
  refine ⟨behind.takeWhile (!isBlank ·), ?_, ?_, ?_⟩
  · change (skipBlanks (' ' :: (type.text.toList ++ rest))).takeWhile _ = _
    rw [type.skipBlanks_text, spelled, List.takeWhile_append_of_pos words]
  · intro c member
    simpa using (List.all_eq_true.mp List.all_takeWhile) c member
  · simp only [behind, optionalListText]
    split
    · rw [String.toList_empty, List.nil_append, takeWhile_of_stops (spaced.stops rfl)]
      exact stops_nil _
    · rw [toList_listText]
      exact stops_cons_iff.mpr rfl

/-- No column looks like an index. -/
theorem beginsIndex_typedText : beginsIndex (typedText name type rest) = false := by
  have words : splitWord (typedText name type rest) =
      (name.name.toList, ' ' :: (type.text.toList ++ rest)) :=
    splitWord_append_cons name.run.nonempty name.run.notBlank rfl _
  obtain ⟨more, second, solid, opens⟩ := firstWord_behind type spaced
  rw [beginsIndex, words]
  simp only [second, type.isKnownType_text solid opens, Bool.not_true, Bool.and_false]

theorem isTableConstraint_typedText :
    isTableConstraint (typedText name type rest) =
      constraintWords.any fun word => spells word name.name.toList := by
  rw [isTableConstraint, beginsConstraint_typedText name type spaced,
    beginsIndex_typedText name type spaced, Bool.or_false]

end Name

/-- The clauses of a column are the text behind its type. -/
theorem skipBlanks_tailText (clauses : List Clause) :
    skipBlanks (tailText clauses) = (joined " " (clauses.map Clause.text)).toList := by
  cases clauses with
  | nil => rfl
  | cons clause later =>
      have start := clause.stops_isBlank (tailText later)
      rw [tailText_cons, List.map_cons, toList_joined_cons, List.flatMap_map]
      exact skipBlanks_of_stops start

theorem columnName?_append (name : PlainName) {rest : List Char} (stops : Stops isWord rest) :
    columnName? (name.name.toList ++ rest) = some (name.name.toList, rest) := by
  have read := run?_append name.run.nonempty name.run.word stops
  obtain ⟨c, later, spelled, word⟩ := name.run.exists_cons
  have noMark : isNameMark c = false := by
    simp [isNameMark, ne_of_class word (rfl : isWord '\x22' = false),
      ne_of_class word (rfl : isWord '\x60' = false)]
  rw [spelled] at read ⊢
  rw [List.cons_append, columnName?, noMark]
  exact read

/-- A column is read with its name, its type and what stands behind it. -/
theorem columnParts?_typedText (name : PlainName) (type : TypeName) {rest : List Char}
    (spaced : IsSpaced rest) :
    columnParts? (typedText name type rest) =
      some (name.name.toList, type.token.toList, skipBlanks rest) := by
  have stops : Stops isWord (' ' :: (type.text.toList ++ rest)) := stops_cons_iff.mpr rfl
  rw [columnParts?, typedText, columnName?_append name stops]
  simp only [Option.bind_eq_bind, Option.bind_some, type.blanks?_text,
    type.typeToken?_text spaced]
  rfl

theorem columnParts?_column (column : ColumnDefinition) :
    columnParts? column.text.toList =
      some (column.name.name.toList, column.type.token.toList,
        column.declared.constraints.toList) := by
  rw [column.toList_text_eq,
    columnParts?_typedText column.name column.type (isTail_tailText column.clauses).isSpaced,
    skipBlanks_tailText]
  rfl

end Crowsfoot.Sql
