import Crowsfoot.Proofs.Sql.Comments

/-!
# Words behind `DEFAULT`

`GENERATED BY DEFAULT AS IDENTITY` and `ON DELETE SET DEFAULT` state no default
of a column, but the word `DEFAULT` stands in them.  The search for a default
takes whatever word follows it, and finds nothing only where it is the last
word of the definition.
-/

namespace Crowsfoot

open Crowsfoot.Text
open Crowsfoot.Sql

namespace Sql

/-- What changes a referenced row. -/
inductive Event
  | delete
  | update

/-- What happens to the rows that refer to a changed row. -/
inductive Reaction
  | cascade
  | restrict
  | setNull
  | setDefault

/-- A rule for the values of a column.  None of them states a default. -/
inductive Rule
  | notNull
  | null
  | primaryKey
  | unique
  | generatedAlways
  | generatedByDefault
  | references (table column : PlainName) (reactions : List (Event × Reaction))

def Event.words : Event → List String
  | delete => ["ON", "DELETE"]
  | update => ["ON", "UPDATE"]

def Reaction.words : Reaction → List String
  | cascade => ["CASCADE"]
  | restrict => ["RESTRICT"]
  | setNull => ["SET", "NULL"]
  | setDefault => ["SET", "DEFAULT"]

/-- Whether a reaction speaks of a default. -/
def Reaction.namesDefault : Reaction → Bool
  | setDefault => true
  | _ => false

/-- A table with a column of it. -/
def targetText (table column : PlainName) : String :=
  table.name ++ optionalListText [column.name]

namespace Rule

def words : Rule → List String
  | notNull => ["NOT", "NULL"]
  | null => ["NULL"]
  | primaryKey => ["PRIMARY", "KEY"]
  | unique => ["UNIQUE"]
  | generatedAlways => ["GENERATED", "ALWAYS", "AS", "IDENTITY"]
  | generatedByDefault => ["GENERATED", "BY", "DEFAULT", "AS", "IDENTITY"]
  | references table column reactions =>
      ["REFERENCES", targetText table column] ++
        reactions.flatMap fun (event, reaction) => event.words ++ reaction.words

/-- Whether a rule speaks of a default. -/
def namesDefault : Rule → Bool
  | generatedByDefault => true
  | references _ _ reactions => reactions.any fun (_, reaction) => reaction.namesDefault
  | _ => false

end Rule

/-- A column with rules, and without a default. -/
structure RuledColumn where
  name : PlainName
  type : TypeName
  rules : List Rule

namespace RuledColumn

def words (column : RuledColumn) : List String :=
  column.rules.flatMap Rule.words

def text (column : RuledColumn) : String :=
  joined " " (column.name.name :: column.type.text :: column.words)

end RuledColumn

/-- The words of rules. -/
def ruleWords : List String :=
  ["NOT", "NULL", "PRIMARY", "KEY", "UNIQUE", "GENERATED", "ALWAYS", "BY", "DEFAULT", "AS",
    "IDENTITY", "REFERENCES", "ON", "DELETE", "UPDATE", "CASCADE", "RESTRICT", "SET"]

/-- A word of a rule, or a table with a column of it. -/
def IsRuleText (text : String) : Prop :=
  text ∈ ruleWords ∨ ∃ table column, text = targetText table column

theorem run_of_ruleWord : ∀ word ∈ ruleWords, IsRun word.toList := by
  decide

theorem endsIn_ruleWord : ∀ word ∈ ruleWords, endsIn "foreign" word.toList = false ∧
    endsIn "default" word.toList = decide (word = "DEFAULT") := by
  decide

/-- Rules are made of these words. -/
theorem Rule.isRuleText (rule : Rule) : ∀ text ∈ rule.words, IsRuleText text := by
  have known {words : List String} (all : ∀ word ∈ words, word ∈ ruleWords) :
      ∀ text ∈ words, IsRuleText text :=
    fun text member => .inl (all text member)
  cases rule with
  | references table column reactions =>
      have pair (event : Event) (reaction : Reaction) :
          ∀ word ∈ event.words ++ reaction.words, word ∈ ruleWords := by
        cases event <;> cases reaction <;> decide
      rw [words, List.forall_mem_append, List.forall_mem_cons, List.forall_mem_singleton]
      refine ⟨⟨.inl (by decide), .inr ⟨table, column, rfl⟩⟩, ?_⟩
      intro text member
      obtain ⟨⟨event, reaction⟩, -, inPair⟩ := List.mem_flatMap.mp member
      exact known (pair event reaction) text inPair
  | _ => exact known (by decide)

theorem toList_targetText (table column : PlainName) : (targetText table column).toList =
    table.name.toList ++ (optionalListText [column.name]).toList :=
  String.toList_append ..

theorem targetText_spelled (table column : PlainName) : (targetText table column).toList =
    table.name.toList ++ '(' :: (column.name.toList ++ [')']) := by
  rw [toList_targetText]
  exact congrArg _ (toList_listText [column.name])

/-- A rule shows the word exactly if it speaks of a default. -/
theorem Rule.default_mem_words_iff (rule : Rule) :
    "DEFAULT" ∈ rule.words ↔ rule.namesDefault = true := by
  cases rule with
  | references table column reactions =>
      have parenthesis : '(' ∈ (targetText table column).toList := by
        rw [targetText_spelled]
        exact List.mem_append_right _ List.mem_cons_self
      have target : "DEFAULT" ≠ targetText table column := by
        intro same
        have absent : '(' ∉ "DEFAULT".toList := by decide
        exact absent (same ▸ parenthesis)
      have pair (event : Event) (reaction : Reaction) :
          "DEFAULT" ∈ event.words ++ reaction.words ↔ reaction.namesDefault = true := by
        cases event <;> cases reaction <;> decide
      simp only [words, namesDefault, List.cons_append, List.nil_append, List.mem_cons, target,
        List.mem_flatMap, pair, List.any_eq_true]
      simp
  | _ => simp [words, namesDefault]

theorem RuledColumn.isRuleText (column : RuledColumn) :
    ∀ text ∈ column.words, IsRuleText text := by
  intro text member
  obtain ⟨rule, -, inRule⟩ := List.mem_flatMap.mp member
  exact rule.isRuleText text inRule

namespace IsRuleText

variable {text : String} (isRuleText : IsRuleText text)

include isRuleText

theorem exists_cons : ∃ c rest, text.toList = c :: rest ∧ isWord c = true := by
  rcases isRuleText with member | ⟨table, column, rfl⟩
  · exact (run_of_ruleWord text member).exists_cons
  · obtain ⟨c, rest, spelled, word⟩ := table.run.exists_cons
    rw [toList_targetText, spelled]
    exact ⟨c, _, rfl, word⟩

theorem solid : Solid text.toList := by
  rcases isRuleText with member | ⟨table, column, rfl⟩
  · exact (run_of_ruleWord text member).solid
  · rw [toList_targetText]
    exact solid_optionalListText table.run.solid table.run.nonempty _

theorem carries : Carries false 0 text.toList false 0 := by
  rcases isRuleText with member | ⟨table, column, rfl⟩
  · exact .run (run_of_ruleWord text member)
  · rw [toList_targetText]
    exact (Carries.run table.run).append (.optionalListText (runs_names [column]))

theorem commentSign_notMem {sign : Char} (isSign : sign ∈ commentSigns) : sign ∉ text.toList := by
  have notWord := isWord_commentSign isSign
  rcases isRuleText with member | ⟨table, column, rfl⟩
  · exact (run_of_ruleWord text member).notMem notWord
  · rw [toList_targetText, List.mem_append, not_or]
    exact ⟨table.run.notMem notWord,
      commentSign_notMem_optionalListText isSign (runs_names [column])⟩

end IsRuleText

/-- Words with a blank before each. -/
def spacedWords (words : List String) : List Char :=
  words.flatMap fun word => ' ' :: word.toList

theorem RuledColumn.toList_text (column : RuledColumn) :
    column.text.toList = typedText column.name column.type (spacedWords column.words) := by
  rw [text, toList_joined_cons, List.flatMap_cons]
  rfl

theorem isSpaced_spacedWords {words : List String} (each : ∀ text ∈ words, IsRuleText text) :
    IsSpaced (spacedWords words) := by
  cases words with
  | nil => exact .inl rfl
  | cons word later =>
      obtain ⟨c, rest, spelled, isWord⟩ := (each word List.mem_cons_self).exists_cons
      rw [spacedWords, List.flatMap_cons, spelled]
      exact .inr ⟨c, rest ++ spacedWords later, rfl, isWord⟩

theorem carries_spacedWords {words : List String} (each : ∀ text ∈ words, IsRuleText text) :
    Carries false 0 (spacedWords words) false 0 :=
  .flatMap fun word member => (Carries.ordinary rfl).append (each word member).carries

/-! ## The default that is found -/

/-- The word behind the first `DEFAULT`. -/
def wordBehindDefault? : List String → Option String
  | [] => none
  | word :: later => if word = "DEFAULT" then later.head? else wordBehindDefault? later

/-- There is such a word exactly if `DEFAULT` is not just the last word. -/
theorem wordBehindDefault?_eq_none_iff {words : List String} :
    wordBehindDefault? words = none ↔ "DEFAULT" ∉ words.dropLast := by
  induction words with
  | nil => simp [wordBehindDefault?]
  | cons word later ih =>
      cases later with
      | nil => simp [wordBehindDefault?]
      | cons next more =>
          rw [List.dropLast_cons_cons, List.mem_cons, not_or, ← ih]
          by_cases default : word = "DEFAULT"
          · simp [wordBehindDefault?, default]
          · simp [wordBehindDefault?, default, Ne.symm default]

theorem mem_of_wordBehindDefault? {words : List String} {text : String}
    (found : wordBehindDefault? words = some text) : text ∈ words := by
  induction words with
  | nil => contradiction
  | cons word later ih =>
      rw [wordBehindDefault?] at found
      split at found
      · exact List.mem_cons_of_mem _ (List.mem_of_mem_head? found)
      · exact List.mem_cons_of_mem _ (ih found)

/-- A search passes over a word that does not end in its keyword. -/
theorem ReadsAfter.find?_ruleText {α : Type} {word : String}
    {next recognise : List Char → Option α} (keyword : IsKeyword word)
    (reads : ReadsAfter word next recognise) {text : String} (isRuleText : IsRuleText text)
    (other : text ∈ ruleWords → endsIn word text.toList = false) {rest : List Char}
    (spaced : IsSpaced rest) :
    find? recognise (' ' :: (text.toList ++ rest)) = find? recognise rest := by
  rw [reads.find?_cons keyword rfl]
  rcases isRuleText with member | ⟨table, column, rfl⟩
  · exact reads.find?_other keyword (run_of_ruleWord text member).word spaced.stops_isWord
      (other member)
  · rw [toList_targetText, List.append_assoc]
    exact reads.find?_target keyword table.run (runs_names [column]) fun none =>
      absurd none (List.cons_ne_nil _ _)

/-- Rules do not speak of a foreign key. -/
theorem mentionsForeignKey_spacedWords {words : List String}
    (each : ∀ text ∈ words, IsRuleText text) : mentionsForeignKey (spacedWords words) = false := by
  have keyword : IsKeyword "foreign" := by decide
  have reads := readsAfter_keywords? "foreign" "key"
  have absent : find? (keywords? ["foreign", "key"]) (spacedWords words) = none := by
    induction words with
    | nil => exact reads.find?_nil keyword
    | cons word later ih =>
        rw [List.forall_mem_cons] at each
        have spaced := isSpaced_spacedWords each.2
        exact (reads.find?_ruleText keyword each.1 (fun member => (endsIn_ruleWord word member).1)
          spaced).trans (ih each.2)
  rw [mentionsForeignKey, occurs, absent]
  rfl

/-- A word of a rule is read as a whole where a value is expected. -/
theorem value?_ruleText {text : String} (isRuleText : IsRuleText text) {rest : List Char}
    (spaced : IsSpaced rest) : value? (text.toList ++ rest) = some text.toList := by
  have first := isRuleText.exists_cons
  rcases isRuleText with member | ⟨table, column, rfl⟩
  · exact value?_run (run_of_ruleWord text member) (spaced.stops rfl)
      spaced.parenFollows_eq_false
  · have spelled := targetText_spelled table column
    have name : ∀ c ∈ table.name.toList, (isWord c || c == '.') = true := by
      intro c member
      rw [table.run.word c member]
      rfl
    have inside := upTo?_append (column.run.notMem (rfl : isWord ')' = false)) rest
    have call : call? ((targetText table column).toList ++ rest) =
        some (targetText table column).toList := by
      have skipped : skipBlanks ('(' :: (column.name.toList ++ ')' :: rest)) =
          '(' :: (column.name.toList ++ ')' :: rest) :=
        skipBlanks_of_stops (stops_cons_iff.mpr rfl)
      have noGap : ('(' :: (column.name.toList ++ ')' :: rest)).takeWhile isBlank = [] := rfl
      rw [spelled, call?, List.append_assoc, List.cons_append, List.append_assoc,
        List.singleton_append, run?_append table.run.nonempty name (stops_cons_iff.mpr rfl)]
      simp only [Option.bind_eq_bind, Option.bind_some, skipped, inside,
        noGap, List.append_nil]
      rfl
    obtain ⟨c, later, begins, word⟩ := first
    rw [begins] at call ⊢
    have plain : c ≠ '\x27' ∧ c ≠ '\x22' ∧ c ≠ '(' :=
      ⟨ne_of_class word rfl, ne_of_class word rfl, ne_of_class word rfl⟩
    rw [List.cons_append] at call ⊢
    simp [value?, plain, call]

theorem find?_defaultClause?_spacedWords {words : List String}
    (each : ∀ text ∈ words, IsRuleText text) :
    find? defaultClause? (spacedWords words) =
      (wordBehindDefault? words).map String.toList := by
  have reads := readsAfter_defaultClause?
  induction words with
  | nil => exact reads.find?_nil isKeyword_default
  | cons word later ih =>
      rw [List.forall_mem_cons] at each
      have spaced := isSpaced_spacedWords each.2
      have step : spacedWords (word :: later) = ' ' :: (word.toList ++ spacedWords later) := rfl
      rw [step, wordBehindDefault?]
      by_cases default : word = "DEFAULT"
      · subst default
        have letters : ∀ c ∈ "DEFAULT".toList, isWord c = true := by decide
        have ends : endsIn "default" "DEFAULT".toList = true := by decide
        rw [reads.find?_cons isKeyword_default rfl,
          reads.find?_run isKeyword_default letters spaced.stops_isWord, if_pos ends, if_pos rfl]
        cases later with
        | nil => exact reads.find?_nil isKeyword_default
        | cons next more =>
            have isNext := each.2 next List.mem_cons_self
            have isMore : ∀ text ∈ more, IsRuleText text :=
              fun text member => each.2 text (List.mem_cons_of_mem _ member)
            obtain ⟨c, rest, spelled, word⟩ := isNext.exists_cons
            have start : Stops isBlank (next.toList ++ spacedWords more) := by
              rw [spelled]
              exact stops_cons_iff.mpr (isBlank_of_isWord word)
            have found := value?_ruleText isNext (isSpaced_spacedWords isMore)
            have behind : blanks? (spacedWords (next :: more)) =
                some (next.toList ++ spacedWords more) :=
              blanks?_cons rfl start
            rw [behind, Option.bind_some, found]
            rfl
      · have other (member : word ∈ ruleWords) : endsIn "default" word.toList = false := by
          rw [(endsIn_ruleWord word member).2, decide_eq_false default]
        rw [reads.find?_ruleText isKeyword_default each.1 other spaced, ih each.2, if_neg default]

/-- The default among the clauses of a column is the word behind `DEFAULT`. -/
theorem defaultValue?_spacedWords {words : List String} (each : ∀ text ∈ words, IsRuleText text) :
    (defaultValue? (skipBlanks (spacedWords words))).map String.ofList =
      wordBehindDefault? words := by
  have skipped : find? defaultClause? (skipBlanks (spacedWords words)) =
      find? defaultClause? (spacedWords words) := by
    rcases isSpaced_spacedWords each with nothing | ⟨c, later, spelled, word⟩
    · rw [nothing]
      rfl
    · have start : skipBlanks (' ' :: c :: later) = c :: later :=
        skipBlanks_of_stops (stops_cons_iff.mpr (isBlank_of_isWord word))
      rw [spelled, start]
      exact (readsAfter_defaultClause?.find?_cons isKeyword_default rfl (c :: later)).symm
  rw [defaultValue?, skipped, find?_defaultClause?_spacedWords each]
  cases found : wordBehindDefault? words with
  | none => rfl
  | some text =>
      have solid := (each text (mem_of_wordBehindDefault? found)).solid
      simp [strip_of_solid solid]

/-! ## Columns with rules -/

namespace RuledColumn

variable (column : RuledColumn)

theorem isSpaced : IsSpaced (spacedWords column.words) :=
  isSpaced_spacedWords column.isRuleText

/-- Whether the name of a column is a word that a table constraint begins with. -/
def isHidden : Bool :=
  constraintWords.any fun word => spells word column.name.name.toList

/-- A column with rules is read with the word behind `DEFAULT` as its default, unless it
looks like a table constraint. -/
theorem column?_read : (Definition.read column.text.toList).column? =
    if column.isHidden then none
    else some (columnOf column.name.name.toList column.type.token.toList
      (skipBlanks (spacedWords column.words))) := by
  have unread : (blanks? (spacedWords column.words)).bind (keyword? "key") = none := by
    rw [words]
    cases column.rules with
    | nil => rfl
    | cons rule later => cases rule <;> rfl
  have silent : mentionsForeignKey column.text.toList = false := by
    rw [toList_text, mentionsForeignKey_typedText column.name column.type column.isSpaced unread]
    exact mentionsForeignKey_spacedWords column.isRuleText
  have constraint : isTableConstraint column.text.toList = column.isHidden := by
    rw [toList_text]
    exact isTableConstraint_typedText column.name column.type column.isSpaced
  have parts : columnParts? column.text.toList = some (column.name.name.toList,
      column.type.token.toList, skipBlanks (spacedWords column.words)) := by
    rw [toList_text]
    exact columnParts?_typedText column.name column.type column.isSpaced
  cases hidden : column.isHidden with
  | true =>
      rw [Definition.read, find?_foreignKeyClause?_eq_none silent, constraint, hidden]
      simp [Definition.column?]
  | false =>
      rw [read_of_columnParts? silent (constraint.trans hidden) parts]
      rfl

theorem carries : Carries false 0 column.text.toList false 0 := by
  rw [toList_text]
  exact (Carries.run column.name.run).append ((Carries.ordinary rfl).append
    ((Carries.type column.type).append (carries_spacedWords column.isRuleText)))

theorem solid : Solid column.text.toList ∧ column.text.toList ≠ [] := by
  have type : Solid column.type.text.toList := by
    rw [column.type.toList_text]
    exact solid_optionalListText column.type.run_word.solid column.type.run_word.nonempty _
  have typeNonempty : column.type.text.toList ≠ [] := by
    obtain ⟨c, later, spelled, -⟩ := column.type.exists_cons_text []
    rw [List.append_nil] at spelled
    rw [spelled]
    exact List.cons_ne_nil c later
  constructor
  · apply Solid.joined
    rw [List.forall_mem_cons, List.forall_mem_cons]
    refine ⟨⟨column.name.run.solid, column.name.run.nonempty⟩, ⟨type, typeNonempty⟩, ?_⟩
    intro text member
    have isRuleText := column.isRuleText text member
    obtain ⟨c, later, spelled, -⟩ := isRuleText.exists_cons
    exact ⟨isRuleText.solid, spelled ▸ List.cons_ne_nil c later⟩
  · rw [toList_text, typedText]
    simp

/-- No comment begins in a column. -/
theorem passes_text {mark : String} (member : mark ∈ commentMarks) :
    Passes (literal? mark.toList) column.text.toList := by
  apply passes_plain member
  intro sign isSign
  have notWord := isWord_commentSign isSign
  have notBlank : sign ≠ ' ' := by
    rintro rfl
    exact absurd isSign (by decide)
  have words : sign ∉ spacedWords column.words := by
    simp only [spacedWords, List.mem_flatMap, not_exists, not_and, List.mem_cons, not_or]
    exact fun text inWords => ⟨notBlank, (column.isRuleText text inWords).commentSign_notMem isSign⟩
  rw [toList_text, typedText]
  simp only [List.mem_append, List.mem_cons, not_or]
  exact ⟨column.name.run.notMem notWord, notBlank,
    commentSign_notMem_type isSign column.type, words⟩

end RuledColumn

/-- A statement for a table whose columns state no default. -/
structure RuledStatement where
  name : PlainName
  columns : List RuledColumn

namespace RuledStatement

variable (statement : RuledStatement)

def text : String :=
  tableText statement.name (statement.columns.map RuledColumn.text)

/-- The columns that do not look like table constraints. -/
def declared : List RuledColumn :=
  statement.columns.filter (!·.isHidden)

theorem definitions_text :
    definitions (joined ", " (statement.columns.map RuledColumn.text)).toList =
      statement.columns.map fun column => column.text.toList :=
  definitions_solid statement.columns (fun column => column.carries.isWhole) RuledColumn.solid

/-- The statement is read as one table of its columns. -/
theorem exists_table : ∃ document table,
    Document.ofSql statement.text = .ok document ∧ document.tables = [table] ∧
      table.name = statement.name.name ∧
      table.columns = statement.declared.map fun column =>
        columnOf column.name.name.toList column.type.token.toList
          (skipBlanks (spacedWords column.words)) := by
  have closed : ∀ text ∈ statement.columns.map RuledColumn.text, IsClosed text.toList := by
    rw [List.forall_mem_map]
    exact fun column _ => column.carries.isClosed
  have whole : stripComments statement.text.toList = statement.text.toList := by
    apply stripComments_of_passes
    intro mark member
    apply passes_tableText member
    rw [List.forall_mem_map]
    exact fun column _ => column.passes_text member
  have read := tables_tableText statement.name (statement.columns.map RuledColumn.text)
    (splitBody_joined (isClosed_of_plain (by decide)) closed [';'])
  refine ⟨_, _, (ofSql_eq_ok_iff whole).mpr ⟨_, read, rfl⟩, rfl, String.ofList_toList, ?_⟩
  have columns : (statement.columns.filterMap fun column =>
      (Definition.read column.text.toList).column?) = statement.declared.map fun column =>
        columnOf column.name.name.toList column.type.token.toList
          (skipBlanks (spacedWords column.words)) := by
    rw [declared, ← List.filterMap_eq_map, List.filterMap_filter]
    apply List.filterMap_congr
    intro column _
    rw [column.column?_read]
    cases column.isHidden <;> rfl
  simp only [tableOf, statement.definitions_text, List.filterMap_map]
  exact columns

/-- The statement is read as its columns, and with the word behind `DEFAULT` as the
default of each. -/
theorem exists_table_defaults : ∃ document table,
    Document.ofSql statement.text = .ok document ∧ document.tables = [table] ∧
      table.name = statement.name.name ∧
      table.columns.map (fun column => (column.name, column.typeToken, column.defaultText)) =
        statement.declared.map fun column =>
          (column.name.name, column.type.token, wordBehindDefault? column.words) := by
  obtain ⟨document, table, read, single, name, columns⟩ := statement.exists_table
  refine ⟨document, table, read, single, name, ?_⟩
  rw [columns, List.map_map]
  apply List.map_congr_left
  intro column _
  simp only [Function.comp_apply, columnOf, String.ofList_toList,
    defaultValue?_spacedWords column.isRuleText]

/-- The statement is read as its columns, and no default is reported for any of them. -/
def ReadsNoDefault : Prop :=
  ∃ document table, Document.ofSql statement.text = .ok document ∧ document.tables = [table] ∧
    table.name = statement.name.name ∧
    table.columns.map (fun column => (column.name, column.typeToken)) =
      statement.declared.map (fun column => (column.name.name, column.type.token)) ∧
    ∀ column ∈ table.columns, column.defaultText = none

theorem readsNoDefault_iff_last : statement.ReadsNoDefault ↔
    ∀ column ∈ statement.declared, "DEFAULT" ∉ column.words.dropLast := by
  obtain ⟨document, table, read, single, name, columns⟩ := statement.exists_table_defaults
  have parts := congrArg (List.map fun (name, type, _) => (name, type)) columns
  have defaults := congrArg (List.map fun (_, _, default) => default) columns
  simp only [List.map_map, Function.comp_def] at parts defaults
  have none : (∀ column ∈ table.columns, column.defaultText = none) ↔
      ∀ column ∈ statement.declared, "DEFAULT" ∉ column.words.dropLast := by
    simp only [← wordBehindDefault?_eq_none_iff]
    rw [← List.forall_mem_map (P := (· = none)), defaults, List.forall_mem_map]
  rw [← none]
  constructor
  · rintro ⟨document', table', read', single', -, -, noDefault⟩
    obtain rfl : document = document' := Except.ok.inj (read.symm.trans read')
    obtain rfl : table = table' := List.singleton_inj.mp (single.symm.trans single')
    exact noDefault
  · exact fun noDefault => ⟨document, table, read, single, name, parts, noDefault⟩

end RuledStatement

/-- The default that is reported for a column is the word behind `DEFAULT` in its rules.
So none is reported exactly if `DEFAULT` stands at the ends of definitions only, as in all
columns whose rules do not speak of a default. -/
theorem defaults_ruledColumns (statement : RuledStatement) :
    (∃ document table, Document.ofSql statement.text = .ok document ∧
      document.tables = [table] ∧ table.name = statement.name.name ∧
      table.columns.map (fun column => (column.name, column.typeToken, column.defaultText)) =
        statement.declared.map fun column =>
          (column.name.name, column.type.token, wordBehindDefault? column.words)) ∧
    (statement.ReadsNoDefault ↔
      ∀ column ∈ statement.declared, "DEFAULT" ∉ column.words.dropLast) ∧
    ((∀ column ∈ statement.columns, ∀ rule ∈ column.rules, rule.namesDefault = false) →
      statement.ReadsNoDefault) := by
  have lastIff := statement.readsNoDefault_iff_last
  refine ⟨statement.exists_table_defaults, lastIff, ?_⟩
  intro silent
  apply lastIff.mpr
  intro column isDeclared inFront
  obtain ⟨rule, isRule, inRule⟩ := List.mem_flatMap.mp (List.dropLast_subset _ inFront)
  have names := rule.default_mem_words_iff.mp inRule
  rw [silent column (List.mem_of_mem_filter isDeclared) rule isRule] at names
  contradiction

/-- A column of integers. -/
def RuledColumn.integer (name : PlainName) (rules : List Rule) : RuledColumn :=
  ⟨name, ⟨"INT", [], by decide⟩, rules⟩

/-- A statement with a single column of integers. -/
def RuledStatement.single (name column : PlainName) (rules : List Rule) : RuledStatement where
  name := name
  columns := [.integer column rules]

/-- Purchases, with rules that do not speak of defaults. -/
def purchaseStatement : RuledStatement where
  name := ⟨"purchases", by decide⟩
  columns := [.integer ⟨"id", by decide⟩ [.generatedAlways, .primaryKey],
    .integer ⟨"buyer", by decide⟩ [.references ⟨"buyers", by decide⟩ ⟨"id", by decide⟩
      [(.delete, .setNull), (.update, .cascade)], .unique]]

/-- A reference that goes back to a default. -/
def Rule.resetting (table column : PlainName) : Rule :=
  .references table column [(.delete, .setDefault)]

/-- A rule that ends in `DEFAULT` does no harm at the end of a definition. -/
theorem readsNoDefault_purchases :
    purchaseStatement.ReadsNoDefault ∧
      (RuledStatement.single ⟨"t", by decide⟩ ⟨"a", by decide⟩
        [.notNull, .resetting ⟨"u", by decide⟩ ⟨"id", by decide⟩]).ReadsNoDefault := by
  obtain ⟨-, -, silent⟩ := defaults_ruledColumns purchaseStatement
  obtain ⟨-, lastIff, -⟩ := defaults_ruledColumns (.single ⟨"t", by decide⟩ ⟨"a", by decide⟩
    [.notNull, .resetting ⟨"u", by decide⟩ ⟨"id", by decide⟩])
  exact ⟨silent (by decide), lastIff.mpr (by decide +kernel)⟩

/-- The word behind `DEFAULT` is reported as a default. -/
theorem not_readsNoDefault_rules :
    ¬(RuledStatement.single ⟨"t", by decide⟩ ⟨"a", by decide⟩
        [.generatedByDefault]).ReadsNoDefault ∧
      ¬(RuledStatement.single ⟨"t", by decide⟩ ⟨"a", by decide⟩
        [.resetting ⟨"u", by decide⟩ ⟨"id", by decide⟩, .notNull]).ReadsNoDefault := by
  simp only [RuledStatement.readsNoDefault_iff_last]
  constructor <;> decide +kernel

end Sql

end Crowsfoot
