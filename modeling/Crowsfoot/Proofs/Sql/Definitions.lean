import Crowsfoot.Proofs.Sql.Columns

/-!
# Definitions are read back

Foreign keys and table constraints are always read as what they declare.  A
column is read as it is declared exactly if the searches in the text of its
clauses find the clauses only.
-/

namespace Crowsfoot.Sql

open Crowsfoot.Text

/-- A search fails where a search for less fails. -/
theorem find?_eq_none_of {α β : Type} {more : List Char → Option α} {less : List Char → Option β}
    (fails : ∀ text, less text = none → more text = none) {text : List Char}
    (absent : find? less text = none) : find? more text = none := by
  induction text with
  | nil => exact fails [] absent
  | cons c rest ih =>
      rw [find?] at absent
      split at absent
      · contradiction
      · rename_i passed
        rw [find?_cons_of_none (fails _ passed)]
        exact ih absent

/-- What is read behind the word `foreign`. -/
def keyBehind? (text : List Char) : Option (List (List Char) × Reference) := do
  let rest ← keyword? "key" text
  let (columns, rest) ← parenthesizedList? rest
  let reference ← reference? (skipBlanks rest)
  pure (nameList columns, reference)

theorem foreignKeyClause?_eq (text : List Char) :
    foreignKeyClause? text = (keywords? ["foreign", "key"] text).bind fun rest =>
      (parenthesizedList? rest).bind fun (columns, rest) =>
        (reference? (skipBlanks rest)).bind fun reference => some (nameList columns, reference) :=
  rfl

theorem readsAfter_foreignKeyClause? :
    ReadsAfter "foreign" keyBehind? foreignKeyClause? := by
  intro text
  rw [foreignKeyClause?_eq, readsAfter_keywords?, Option.bind_assoc]
  rfl

/-- A text that does not speak of a foreign key holds no such clause. -/
theorem find?_foreignKeyClause?_eq_none {definition : List Char}
    (silent : mentionsForeignKey definition = false) :
    find? foreignKeyClause? definition = none := by
  rw [mentionsForeignKey, occurs, Option.isSome_eq_false_iff, Option.isNone_iff_eq_none] at silent
  refine find?_eq_none_of (fun text absent => ?_) silent
  rw [foreignKeyClause?_eq, absent]
  rfl

/-- The clause of a foreign key, without the name of its constraint. -/
theorem foreignKeyClause?_text (columns : List PlainName) (table : PlainName)
    (refColumns : List PlainName) :
    foreignKeyClause? ("FOREIGN KEY ".toList ++
      ((listText (columns.map PlainName.name)).toList ++
        ' ' :: (Clause.references table refColumns).text.toList)) =
      some (columns.map (·.name.toList), referenceTo table refColumns) := by
  have runs := runs_names columns
  have keywords (rest : List Char) :
      keywords? ["foreign", "key"] ("FOREIGN KEY ".toList ++ rest) = some (' ' :: rest) := rfl
  have blank (rest : List Char) : parenthesizedList? (' ' :: rest) = parenthesizedList? rest := rfl
  have start : Stops isBlank (Clause.references table refColumns).text.toList :=
    (Clause.references table refColumns).solid.first
  have skipped : skipBlanks (' ' :: (Clause.references table refColumns).text.toList) =
      (Clause.references table refColumns).text.toList := skipBlanks_of_stops start
  have spaced : IsSpaced [] := .inl rfl
  have reference := reference?_text table refColumns spaced
  rw [List.append_nil] at reference
  rw [foreignKeyClause?_eq, keywords, Option.bind_some, blank, parenthesizedList?_listText runs,
    Option.bind_some]
  dsimp only
  rw [skipped, reference, nameList_joined runs]
  simp [Function.comp_def]

/-- A foreign key is read as it is declared, whatever the name of its
constraint. -/
theorem read_foreignKey (name? : Option PlainName) (columns : List PlainName) (table : PlainName)
    (refColumns : List PlainName) :
    Definition.read (Declaration.foreignKey name? columns table refColumns).text.toList =
      .key (keyTo (columns.map PlainName.name) table refColumns) := by
  have reads := readsAfter_foreignKeyClause?
  have keyword : IsKeyword "foreign" := by decide
  have clause := foreignKeyClause?_text columns table refColumns
  have found : find? foreignKeyClause?
      (Declaration.foreignKey name? columns table refColumns).text.toList =
        some (columns.map (·.name.toList), referenceTo table refColumns) := by
    rw [Declaration.toList_foreignKey]
    cases name? with
    | none => exact find?_of_some clause
    | some name =>
        have spelled : (Declaration.constraintText (some name)).toList =
            "CONSTRAINT".toList ++ ' ' :: (name.name.toList ++ [' ']) := by
          simp [Declaration.constraintText]
        rw [spelled, List.append_assoc, List.cons_append, List.append_assoc,
          List.singleton_append, reads.find?_other keyword (by decide) (stops_cons_iff.mpr rfl)
            (by decide), reads.find?_cons keyword rfl,
          reads.find?_unless keyword name.run.word (stops_cons_iff.mpr rfl) rfl,
          reads.find?_cons keyword rfl]
        exact find?_of_some clause
  rw [Definition.read, found]
  simp [foreignKey_referenceTo, Function.comp_def]

/-- A table constraint declares neither a column nor a foreign key. -/
theorem read_of_constraint {definition : List Char}
    (silent : mentionsForeignKey definition = false) (begins : beginsConstraint definition = true) :
    Definition.read definition = .nothing := by
  rw [Definition.read, find?_foreignKeyClause?_eq_none silent]
  simp [isTableConstraint, begins]

section Constraint

variable (columns : List PlainName)

/-- A list of names does not speak of a foreign key. -/
theorem find?_foreignKey_listText :
    find? (keywords? ["foreign", "key"]) (listText (columns.map PlainName.name)).toList = none := by
  have reads := readsAfter_keywords? "foreign" "key"
  have listed := reads.passes_listText (by decide) (runs_names columns) []
  rwa [List.append_nil, reads.find?_nil (by decide)] at listed

theorem read_primaryKey :
    Definition.read (Declaration.primaryKey columns).text.toList = .nothing := by
  have reads := readsAfter_keywords? "foreign" "key"
  have keyword : IsKeyword "foreign" := by decide
  let list := (listText (columns.map PlainName.name)).toList
  have spelled : (Declaration.primaryKey columns).text.toList =
      "PRIMARY".toList ++ ' ' :: ("KEY".toList ++ ' ' :: list) :=
    String.toList_append ..
  have silent : find? (keywords? ["foreign", "key"])
      ("PRIMARY".toList ++ ' ' :: ("KEY".toList ++ ' ' :: list)) = none := by
    rw [reads.find?_other keyword (by decide) (stops_cons_iff.mpr rfl) (by decide),
      reads.find?_cons keyword rfl,
      reads.find?_other keyword (by decide) (stops_cons_iff.mpr rfl) (by decide),
      reads.find?_cons keyword rfl]
    exact find?_foreignKey_listText columns
  have begins : keywords? ["primary", "key"]
      ("PRIMARY".toList ++ ' ' :: ("KEY".toList ++ ' ' :: list)) = some (' ' :: list) := rfl
  rw [spelled]
  apply read_of_constraint
  · rw [mentionsForeignKey, occurs, silent]
    rfl
  · rw [beginsConstraint_eq, begins]
    simp [wordFollows, show isWord ' ' = false from rfl]

theorem read_unique :
    Definition.read (Declaration.unique columns).text.toList = .nothing := by
  have reads := readsAfter_keywords? "foreign" "key"
  have keyword : IsKeyword "foreign" := by decide
  let list := (listText (columns.map PlainName.name)).toList
  have spelled : (Declaration.unique columns).text.toList = "UNIQUE".toList ++ ' ' :: list :=
    String.toList_append ..
  have silent : find? (keywords? ["foreign", "key"]) ("UNIQUE".toList ++ ' ' :: list) = none := by
    rw [reads.find?_other keyword (by decide) (stops_cons_iff.mpr rfl) (by decide),
      reads.find?_cons keyword rfl]
    exact find?_foreignKey_listText columns
  have begins : keyword? "unique" ("UNIQUE".toList ++ ' ' :: list) = some (' ' :: list) := rfl
  have opens : parenFollows (' ' :: list) = true := by
    simp only [list, toList_listText]
    rfl
  rw [spelled]
  apply read_of_constraint
  · rw [mentionsForeignKey, occurs, silent]
    rfl
  · rw [beginsConstraint_eq, begins]
    simp [opens]

end Constraint

/-- The text of the clauses is their tail without the blank in front. -/
theorem tailText_cases (clauses : List Clause) :
    tailText clauses = (joined " " (clauses.map Clause.text)).toList ∨
      tailText clauses = ' ' :: (joined " " (clauses.map Clause.text)).toList := by
  rw [← skipBlanks_tailText]
  cases clauses with
  | nil => exact .inl rfl
  | cons clause later =>
      rw [tailText_cons]
      exact .inr (congrArg _ (skipBlanks_of_stops (clause.stops_isBlank (tailText later))).symm)

/-- A search in the text of the clauses is one in their tail. -/
theorem ReadsAfter.find?_joined {α : Type} {word : String} {next recognise : List Char → Option α}
    (reads : ReadsAfter word next recognise) (keyword : IsKeyword word) (clauses : List Clause) :
    find? recognise (joined " " (clauses.map Clause.text)).toList =
      find? recognise (tailText clauses) := by
  rcases tailText_cases clauses with same | blank
  · rw [same]
  · rw [blank, reads.find?_cons keyword rfl]

theorem hasUnique_joined (clauses : List Clause) :
    hasWholeKeyword "unique" false (joined " " (clauses.map Clause.text)).toList =
      hasWholeKeyword "unique" false (tailText clauses) := by
  rcases tailText_cases clauses with same | blank
  · rw [same]
  · rw [blank, hasWholeKeyword_cons isKeyword_unique rfl]

namespace ColumnDefinition

variable (column : ColumnDefinition)

/-- Whether a literal of a column shows something. -/
def shows (shown : List Char → Bool) : Bool :=
  (literals column.clauses).any fun content => shown content.toList

/-- The searches in the text of a column find the clauses of the column only:
its name is not spelled like a table constraint, its literals show no other
clauses than it has, and no name that it refers to is taken for a keyword. -/
structure Faithful : Prop where
  named : ∀ word ∈ constraintWords, spells word column.name.name.toList = false
  foreignKey : column.shows mentionsForeignKey = false
  primaryKey : .primaryKey ∈ column.clauses ∨ column.shows isPrimaryKey = false
  notNull : .primaryKey ∈ column.clauses ∨ .notNull ∈ column.clauses ∨
    column.shows isNotNull = false
  unique : .unique ∈ column.clauses ∨ column.shows (hasWholeKeyword "unique" false) = false ∧
    ∀ name ∈ referencedNames column.clauses, spells "unique" name.name.toList = false
  default : strayDefault column.clauses = false
  reference : column.shows (occurs (spacedKeywords? ["references"])) = true →
    (find? reference? column.declared.constraints.toList).map
      (Sql.foreignKey [column.name.name.toList]) = column.key?

/-! ## What the searches find -/

/-- One clause is among others exactly if what only it says is said. -/
theorem any_eq_decide_mem {clause : Clause} {said : Clause → Bool}
    (only : ∀ other, said other = true ↔ other = clause) (clauses : List Clause) :
    clauses.any said = decide (clause ∈ clauses) := by
  rw [Bool.eq_iff_iff, List.any_eq_true, decide_eq_true_iff]
  simp [only]

/-- The constraints say a phrase exactly if the clause that begins with its word is
declared, or if a literal shows the phrase. -/
theorem occurs_phrase_constraints {first second : String} {clause : Clause}
    (phrase : (first, second) ∈ phrases) (keyword : IsKeyword first)
    (only : ∀ other, Clause.states first other = true ↔ other = clause) :
    occurs (keywords? [first, second]) column.declared.constraints.toList =
      (decide (clause ∈ column.clauses) || column.shows (occurs (keywords? [first, second]))) := by
  rw [← any_eq_decide_mem only]
  exact (congrArg Option.isSome ((readsAfter_keywords? _ _).find?_joined keyword _)).trans
    (occurs_phrase_tailText phrase column.clauses)

theorem hasUnique_constraints :
    hasWholeKeyword "unique" false column.declared.constraints.toList =
      ((decide (.unique ∈ column.clauses) || (referencedNames column.clauses).any fun name =>
        spells "unique" name.name.toList) || column.shows (hasWholeKeyword "unique" false)) := by
  have said : column.clauses.any Clause.isUnique = decide (.unique ∈ column.clauses) :=
    any_eq_decide_mem (fun other => by simp [Clause.isUnique]) _
  rw [← said]
  exact (hasUnique_joined _).trans (hasUnique_tailText _)

theorem defaultValue?_constraints_eq_iff :
    (defaultValue? column.declared.constraints.toList).map String.ofList =
      column.declared.defaultText ↔ strayDefault column.clauses = false := by
  have same : defaultValue? column.declared.constraints.toList =
      defaultValue? (tailText column.clauses) :=
    congrArg (Option.map strip) (readsAfter_defaultClause?.find?_joined isKeyword_default _)
  rw [same]
  exact defaultValue?_tailText_eq_iff column.clauses

/-- Without the keyword in a literal, the reference that is found is the
declared one. -/
theorem find?_reference?_constraints
    (silent : column.shows (occurs (spacedKeywords? ["references"])) = false) :
    (find? reference? column.declared.constraints.toList).map
      (Sql.foreignKey [column.name.name.toList]) = column.key? := by
  have absent : ∀ content ∈ literals column.clauses,
      occurs (spacedKeywords? ["references"]) content.toList = false := by
    simpa [shows] using silent
  have found := readsAfter_reference?.find?_joined isKeyword_references column.clauses
  rw [find?_reference?_tailText absent] at found
  have same : ∀ clause : Clause, (clause.reference?.map
      (Sql.foreignKey [column.name.name.toList])) = clause.key? column.name.name := by
    intro clause
    cases clause with
    | references table columns =>
        exact congrArg some (by rw [foreignKey_referenceTo]; simp)
    | _ => rfl
  rw [declared]
  dsimp only
  rw [found, key?, List.map_findSome?]
  exact congrArg (column.clauses.findSome? ·) (funext same)

/-- Flags that are declared or shown are the declared ones exactly if nothing
else is shown. -/
theorem flags_iff (key shownKey notNull shownNotNull unique named shownUnique : Bool) :
    ((!(key || shownKey) && !(notNull || shownNotNull)) = (!key && !notNull) ∧
      (key || shownKey) = key ∧ (unique || named || shownUnique) = unique) ↔
    (key = true ∨ shownKey = false) ∧ (key = true ∨ notNull = true ∨ shownNotNull = false) ∧
      (unique = true ∨ shownUnique = false ∧ named = false) := by
  revert key shownKey notNull shownNotNull unique named shownUnique
  decide

/-- The column that is read from the parts of a definition is the declared one
exactly if its flags and its default are. -/
theorem columnOf_eq_declared_iff :
    columnOf column.name.name.toList column.type.token.toList
        column.declared.constraints.toList = column.declared ↔
      (.primaryKey ∈ column.clauses ∨ column.shows isPrimaryKey = false) ∧
      (.primaryKey ∈ column.clauses ∨ .notNull ∈ column.clauses ∨
        column.shows isNotNull = false) ∧
      (.unique ∈ column.clauses ∨ column.shows (hasWholeKeyword "unique" false) = false ∧
        ∀ name ∈ referencedNames column.clauses, spells "unique" name.name.toList = false) ∧
      strayDefault column.clauses = false := by
  have solid : strip column.declared.constraints.toList = column.declared.constraints.toList := by
    apply strip_of_solid
    apply Solid.joined
    rw [List.forall_mem_map]
    exact fun clause _ => ⟨clause.solid, clause.nonempty⟩
  have parts : columnOf column.name.name.toList column.type.token.toList
      column.declared.constraints.toList = column.declared ↔
        ((!isPrimaryKey column.declared.constraints.toList &&
          !isNotNull column.declared.constraints.toList) = column.declared.nullable ∧
        isPrimaryKey column.declared.constraints.toList = column.declared.primaryKey ∧
        hasWholeKeyword "unique" false column.declared.constraints.toList =
          column.declared.unique) ∧
        (defaultValue? column.declared.constraints.toList).map String.ofList =
          column.declared.defaultText := by
    rw [columnOf, solid]
    simp [declared, and_assoc]
  have isPrimaryKey : isPrimaryKey column.declared.constraints.toList =
      (decide (.primaryKey ∈ column.clauses) || column.shows isPrimaryKey) :=
    column.occurs_phrase_constraints (by decide) (by decide)
      fun other => by cases other <;> simp [Clause.states]
  have isNotNull : isNotNull column.declared.constraints.toList =
      (decide (.notNull ∈ column.clauses) || column.shows isNotNull) :=
    column.occurs_phrase_constraints (by decide) (by decide)
      fun other => by cases other <;> simp [Clause.states]
  rw [parts, defaultValue?_constraints_eq_iff, isPrimaryKey, isNotNull, hasUnique_constraints]
  simp only [declared]
  rw [flags_iff]
  simp only [decide_eq_true_eq, List.any_eq_false, Bool.not_eq_true, and_assoc]

end ColumnDefinition

/-- What is read as a column speaks of no foreign key and is no table
constraint. -/
theorem of_read_eq_column {definition : List Char} {declared : Column}
    {key? : Option ForeignKey} (read : Definition.read definition = .column declared key?) :
    mentionsForeignKey definition = false ∧ isTableConstraint definition = false := by
  rw [Definition.read] at read
  split at read
  · contradiction
  · split at read
    · contradiction
    · rename_i plain
      simpa using plain

theorem isTableConstraint_column (column : ColumnDefinition) :
    isTableConstraint column.text.toList =
      constraintWords.any fun word => spells word column.name.name.toList := by
  rw [column.toList_text_eq]
  exact isTableConstraint_typedText column.name column.type
    (isTail_tailText column.clauses).isSpaced

/-- A definition that speaks of a foreign key is no column. -/
theorem column?_read_of_mentions {definition : List Char}
    (mentions : mentionsForeignKey definition = true) :
    (Definition.read definition).column? = none := by
  rw [Definition.read, mentions]
  split <;> rfl

/-- A definition that looks like no other one is read from its parts. -/
theorem read_of_columnParts? {definition name type constraints : List Char}
    (unmentioned : mentionsForeignKey definition = false)
    (unconstrained : isTableConstraint definition = false)
    (parts : columnParts? definition = some (name, type, constraints)) :
    Definition.read definition = .column (columnOf name type constraints)
      ((find? reference? constraints).map (foreignKey [name])) := by
  rw [Definition.read, find?_foreignKeyClause?_eq_none unmentioned, unmentioned, unconstrained,
    parts]
  rfl

/-- A column that looks like no other definition is read from its parts. -/
theorem read_column {column : ColumnDefinition}
    (unmentioned : mentionsForeignKey column.text.toList = false)
    (unconstrained : isTableConstraint column.text.toList = false) :
    Definition.read column.text.toList =
      .column (columnOf column.name.name.toList column.type.token.toList
          column.declared.constraints.toList)
        ((find? reference? column.declared.constraints.toList).map
          (foreignKey [column.name.name.toList])) := by
  apply read_of_columnParts? unmentioned unconstrained
  exact columnParts?_column column

/-- A column is read as it is declared exactly if the searches find its clauses
only. -/
theorem read_column_iff (column : ColumnDefinition) :
    Definition.read column.text.toList = .column column.declared column.key? ↔
      column.Faithful := by
  have mentioned := mentionsForeignKey_column column
  have constraint := isTableConstraint_column column
  constructor
  · intro read
    obtain ⟨unmentioned, unconstrained⟩ := of_read_eq_column read
    rw [read_column unmentioned unconstrained] at read
    obtain ⟨whole, key⟩ := Definition.column.inj read
    obtain ⟨primaryKey, notNull, unique, default⟩ := column.columnOf_eq_declared_iff.mp whole
    rw [constraint] at unconstrained
    exact ⟨by simpa using unconstrained, mentioned.symm.trans unmentioned, primaryKey, notNull,
      unique, default, fun _ => key⟩
  · intro faithful
    have unconstrained : isTableConstraint column.text.toList = false := by
      rw [constraint]
      simpa using faithful.named
    have whole := column.columnOf_eq_declared_iff.mpr
      ⟨faithful.primaryKey, faithful.notNull, faithful.unique, faithful.default⟩
    rw [read_column (mentioned.trans faithful.foreignKey) unconstrained, whole]
    cases shown : column.shows (occurs (spacedKeywords? ["references"])) with
    | false => rw [column.find?_reference?_constraints shown]
    | true => rw [faithful.reference shown]

/-- What is found behind a part of a text is found in the text. -/
theorem isSome_find?_append {α : Type} {recognise : List Char → Option α} {back : List Char}
    (found : (find? recognise back).isSome = true) (front : List Char) :
    (find? recognise (front ++ back)).isSome = true := by
  induction front with
  | nil => exact found
  | cons c rest ih =>
      rw [List.cons_append, find?]
      split
      · rfl
      · exact ih

/-- A reference that is declared is not missed, though another may be found. -/
theorem isSome_find?_reference? {column : ColumnDefinition}
    (declared : column.key?.isSome = true) :
    (find? reference? column.declared.constraints.toList).isSome = true := by
  obtain ⟨clause, member, key⟩ := List.findSome?_isSome_iff.mp declared
  obtain ⟨before, after, split⟩ := List.append_of_mem member
  have tail : tailText column.clauses =
      tailText before ++ [' '] ++ (clause.text.toList ++ tailText after) := by
    rw [split, tailText, List.flatMap_append, List.append_assoc]
    exact congrArg _ (tailText_cons clause after)
  have found : (find? reference? (clause.text.toList ++ tailText after)).isSome = true := by
    cases clause with
    | references table columns =>
        rw [find?_of_some (reference?_text table columns (isTail_tailText after).isSpaced)]
        rfl
    | _ => contradiction
  have same := readsAfter_reference?.find?_joined isKeyword_references column.clauses
  rw [tail] at same
  exact (congrArg Option.isSome same).trans (isSome_find?_append found _)

end Crowsfoot.Sql
