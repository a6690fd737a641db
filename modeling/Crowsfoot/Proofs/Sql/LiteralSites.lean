import Crowsfoot.Proofs.Sql.ConstraintWords
import Crowsfoot.Proofs.Sql.RoundTrip

/-!
# Literals of columns

A literal among the clauses of a column hides its commas and parentheses from
the scans of the body, but not its words from the searches in the clauses.
-/

namespace Crowsfoot.Sql

open Crowsfoot.Text

/-- The account of the scan behind a text. -/
def Nesting.behind (nesting : Nesting) (text : List Char) : Nesting :=
  text.foldl Nesting.next nesting

/-- The pieces of a text are those of its parts, with one across. -/
theorem topLevelPieces_append (nesting : Nesting) (front back : List Char) :
    topLevelPieces nesting (front ++ back) =
      (topLevelPieces nesting front).dropLast ++
        prependTo ((topLevelPieces nesting front).getLastD [])
          (topLevelPieces (nesting.behind front) back) := by
  induction front generalizing nesting with
  | nil => exact (prependTo_nil (topLevelPieces_ne_nil _ _)).symm
  | cons c later ih =>
      have nonempty := topLevelPieces_ne_nil (nesting.next c) later
      have step : nesting.behind (c :: later) = (nesting.next c).behind later := rfl
      rw [List.cons_append, topLevelPieces_cons, topLevelPieces_cons, ih, step]
      generalize topLevelPieces (nesting.next c) later = pieces at nonempty ⊢
      obtain ⟨piece, others, rfl⟩ := List.exists_cons_of_ne_nil nonempty
      split
      · rfl
      · cases others with
        | nil => exact (prependTo_append [c] piece _).symm
        | cons next more => rfl

/-- Inside quotes, nothing separates definitions. -/
theorem topLevelPieces_quoted {nesting : Nesting} (single : nesting.inSingle = true)
    {content : List Char} (unquoted : '\x27' ∉ content) (rest : List Char) :
    topLevelPieces nesting (content ++ rest) =
      prependTo content (topLevelPieces nesting rest) := by
  apply topLevelPieces_still
  intro c member
  have other : c ≠ '\x27' := fun same => unquoted (same ▸ member)
  simp [Nesting.separates, Nesting.next, single, other]

/-- A literal lies in one piece, and the scan goes on behind it as before it. -/
theorem topLevelPieces_literal {nesting : Nesting} (single : nesting.inSingle = false)
    (double : nesting.inDouble = false) {content : List Char} (unquoted : '\x27' ∉ content)
    (rest : List Char) :
    topLevelPieces nesting ('\x27' :: (content ++ '\x27' :: rest)) =
      prependTo ('\x27' :: (content ++ ['\x27'])) (topLevelPieces nesting rest) := by
  obtain ⟨inSingle, inDouble, depth⟩ := nesting
  obtain rfl : inSingle = false := single
  obtain rfl : inDouble = false := double
  have opens : topLevelPieces ⟨false, false, depth⟩ ('\x27' :: (content ++ '\x27' :: rest)) =
      prependTo ['\x27'] (topLevelPieces ⟨true, false, depth⟩ (content ++ '\x27' :: rest)) :=
    topLevelPieces_cons _ _ _
  have closes : topLevelPieces ⟨true, false, depth⟩ ('\x27' :: rest) =
      prependTo ['\x27'] (topLevelPieces ⟨false, false, depth⟩ rest) :=
    topLevelPieces_cons _ _ _
  rw [opens, topLevelPieces_quoted rfl unquoted, closes, ← prependTo_append,
    ← prependTo_append]
  rfl

theorem strip_around {sign : Char} (solid : isBlank sign = false) (front middle back : List Char) :
    strip (front ++ sign :: (middle ++ sign :: back)) =
      skipBlanks front ++ sign :: (middle ++ sign :: trimEnd isBlank back) := by
  have last : trimEnd isBlank (sign :: back) = sign :: trimEnd isBlank back :=
    trimEnd_cons solid back
  have start : (front ++ sign :: (middle ++ sign :: back)).dropWhile isBlank =
      skipBlanks front ++ sign :: (middle ++ sign :: back) :=
    skipBlanks_append_cons solid front _
  have whole : skipBlanks front ++ sign :: (middle ++ sign :: back) =
      (skipBlanks front ++ sign :: middle) ++ sign :: back := by
    simp
  rw [strip, trim, start, whole, trimEnd_append (by simp [last]), last]
  simp

/-- Where a literal stands in a body: what stands before it and behind it, and that
a quote opens a literal there. -/
structure LiteralPlace where
  before : List Char
  after : List Char
  outsideSingle : (Nesting.top.behind before).inSingle = false
  outsideDouble : (Nesting.top.behind before).inDouble = false

namespace LiteralPlace

variable (place : LiteralPlace)

/-- The body with a literal of some content. -/
def body (content : List Char) : List Char :=
  place.before ++ '\x27' :: (content ++ '\x27' :: place.after)

/-- The definition that the literal stands in, up to the literal. -/
def head : List Char :=
  skipBlanks ((topLevelPieces .top place.before).getLastD [])

/-- The rest of the definition. -/
def tail : List Char :=
  trimEnd isBlank ((topLevelPieces (Nesting.top.behind place.before) place.after).headD [])

/-- The definition that the literal stands in. -/
def definition (content : List Char) : List Char :=
  place.head ++ '\x27' :: (content ++ '\x27' :: place.tail)

/-- What the definition is read as. -/
def read (content : List Char) : Definition :=
  Definition.read (place.definition content)

/-- The content of a literal changes one definition of a body, and leaves the others
alone. -/
theorem exists_definitions : ∃ earlier later, ∀ content, '\x27' ∉ content →
    definitions (place.body content) = earlier ++ place.definition content :: later := by
  have nonempty := topLevelPieces_ne_nil (Nesting.top.behind place.before) place.after
  obtain ⟨first, others, pieces⟩ := List.exists_cons_of_ne_nil nonempty
  refine ⟨((topLevelPieces .top place.before).dropLast.map strip).filter (!·.isEmpty),
    (others.map strip).filter (!·.isEmpty), fun content unquoted => ?_⟩
  have across : topLevelPieces .top (place.body content) =
      (topLevelPieces .top place.before).dropLast ++
        ((topLevelPieces .top place.before).getLastD [] ++
          '\x27' :: (content ++ '\x27' :: first)) :: others := by
    rw [body, topLevelPieces_append,
      topLevelPieces_literal place.outsideSingle place.outsideDouble unquoted, pieces,
      ← prependTo_append]
    simp [prependTo]
  have stripped : strip ((topLevelPieces .top place.before).getLastD [] ++
      '\x27' :: (content ++ '\x27' :: first)) = place.definition content := by
    rw [strip_around rfl, definition, head, tail, pieces]
    rfl
  have kept : (place.definition content).isEmpty = false := by simp [definition]
  rw [definitions, across, List.map_append, List.map_cons, stripped, List.filter_append,
    List.filter_cons_of_pos (by simp [kept])]

/-- The content of a literal changes what one definition adds to the table. -/
theorem exists_tableOf (table : List Char) :
    ∃ columnsBefore columnsAfter keysBefore keysAfter, ∀ content, '\x27' ∉ content →
      tableOf table (place.body content) =
        { name := String.ofList table
          columns := columnsBefore ++ ((place.read content).column?.toList ++ columnsAfter)
          foreignKeys := keysBefore ++ ((place.read content).key?.toList ++ keysAfter) } := by
  obtain ⟨earlier, later, cut⟩ := place.exists_definitions
  refine ⟨(earlier.map Definition.read).filterMap Definition.column?,
    (later.map Definition.read).filterMap Definition.column?,
    (earlier.map Definition.read).filterMap Definition.key?,
    (later.map Definition.read).filterMap Definition.key?, fun content unquoted => ?_⟩
  have around {α : Type} (select : Definition → Option α) :
      ((earlier ++ place.definition content :: later).map Definition.read).filterMap select =
        (earlier.map Definition.read).filterMap select ++
          ((select (place.read content)).toList ++
            (later.map Definition.read).filterMap select) := by
    rw [List.map_append, List.map_cons, List.filterMap_append, List.filterMap_cons, read]
    cases select (Definition.read (place.definition content)) <;> rfl
  simp only [tableOf, cut content unquoted, around]

end LiteralPlace

/-- A search that finds nothing across a quote. -/
structure StopsAtQuotes (shows : List Char → Bool) : Prop where
  empty : shows [] = false
  quote : ∀ front back, shows (front ++ '\x27' :: back) = (shows front || shows back)

theorem stopsAtQuotes_phrase {first second : String} (firstKeyword : IsKeyword first)
    (secondKeyword : IsKeyword second) : StopsAtQuotes (occurs (keywords? [first, second])) where
  empty := by rw [occurs, (readsAfter_keywords? first second).find?_nil firstKeyword]; rfl
  quote := occurs_keywords?_append_cons firstKeyword secondKeyword rfl rfl

theorem stopsAtQuotes_mentionsForeignKey : StopsAtQuotes mentionsForeignKey :=
  stopsAtQuotes_phrase (by decide) (by decide)

theorem stopsAtQuotes_isPrimaryKey : StopsAtQuotes isPrimaryKey :=
  stopsAtQuotes_phrase (by decide) (by decide)

theorem stopsAtQuotes_isNotNull : StopsAtQuotes isNotNull :=
  stopsAtQuotes_phrase (by decide) (by decide)

theorem stopsAtQuotes_unique : StopsAtQuotes (hasWholeKeyword "unique" false) where
  empty := rfl
  quote := hasWholeKeyword_append_cons isKeyword_unique rfl false

/-- Whether the constraints of a column, or a text among them, refuse null. -/
def refusesNull (constraints : List Char) : Bool :=
  isPrimaryKey constraints || isNotNull constraints

theorem stopsAtQuotes_refusesNull : StopsAtQuotes refusesNull where
  empty := by
    rw [refusesNull, stopsAtQuotes_isPrimaryKey.empty, stopsAtQuotes_isNotNull.empty]
    rfl
  quote front back := by
    rw [refusesNull, stopsAtQuotes_isPrimaryKey.quote, stopsAtQuotes_isNotNull.quote, refusesNull,
      refusesNull]
    ac_rfl

/-- Such a search finds something in a literal or around it. -/
theorem StopsAtQuotes.literal {shows : List Char → Bool} (stops : StopsAtQuotes shows)
    (front content back : List Char) :
    shows (front ++ '\x27' :: (content ++ '\x27' :: back)) =
      (shows (front ++ '\x27' :: '\x27' :: back) || shows content) := by
  have empty : shows ('\x27' :: back) = shows back := by
    have split := stops.quote [] back
    rwa [List.nil_append, stops.empty, Bool.false_or] at split
  rw [stops.quote, stops.quote, stops.quote, empty, Bool.or_assoc, Bool.or_comm (shows content)]

/-! ## Columns with a literal -/

/-- A literal among the clauses of a column.  The definition is read as a column
while the literal is empty, and the literal stands behind the name and the type.
A parenthesis that opens behind the type is closed outside of the literal. -/
structure LiteralSite extends LiteralPlace where
  name : List Char
  type : List Char
  front : List Char
  parts : columnParts? (toLiteralPlace.definition []) =
    some (name, type, front ++ '\x27' :: '\x27' :: toLiteralPlace.tail)
  column : (toLiteralPlace.read []).column?.isSome = true
  closes : front.head? = some '(' → ')' ∈ front ++ toLiteralPlace.tail

namespace LiteralSite

variable (site : LiteralSite)

/-- The clauses of the column. -/
def clauses (content : List Char) : List Char :=
  site.front ++ '\x27' :: (content ++ '\x27' :: site.tail)

/-- The reference that is found in the clauses. -/
def key? (content : List Char) : Option ForeignKey :=
  (find? reference? (site.clauses content)).map (foreignKey [site.name])

theorem columnParts?_definition (content : List Char) :
    columnParts? (site.definition content) = some (site.name, site.type, site.clauses content) := by
  refine columnParts?_before site.parts (fun opening => ?_) _
  have closing := site.closes opening
  rw [List.mem_append] at closing ⊢
  exact closing.imp id fun inTail => List.mem_cons_of_mem _ (List.mem_cons_of_mem _ inTail)

/-- What a search finds in the clauses is found around the literal or in it. -/
theorem shows_clauses {shows : List Char → Bool} (stops : StopsAtQuotes shows)
    (content : List Char) :
    shows (site.clauses content) = (shows (site.clauses []) || shows content) :=
  stops.literal site.front content site.tail

/-- The definition with the empty literal speaks of no foreign key, and constrains
no table. -/
theorem declares : mentionsForeignKey (site.definition []) = false ∧
    isTableConstraint (site.definition []) = false := by
  have column := site.column
  rw [LiteralPlace.read, Definition.read] at column
  split at column
  · contradiction
  · split at column
    · contradiction
    · rename_i other
      rwa [Bool.or_eq_true, not_or, Bool.not_eq_true, Bool.not_eq_true] at other

theorem mentionsForeignKey_definition (content : List Char) :
    mentionsForeignKey (site.definition content) = mentionsForeignKey content := by
  have split := stopsAtQuotes_mentionsForeignKey.literal site.head content site.tail
  have silent : mentionsForeignKey (site.head ++ '\x27' :: '\x27' :: site.tail) = false :=
    site.declares.1
  rwa [silent, Bool.false_or] at split

theorem isTableConstraint_definition (content : List Char) :
    isTableConstraint (site.definition content) = false := by
  have start : Stops isBlank site.head := stops_dropWhile isBlank _
  have blank := exists_blank_of_columnParts? site.parts
  have sameConstraint : beginsConstraint (site.definition content) =
      beginsConstraint (site.definition []) := by
    rw [LiteralPlace.definition, LiteralPlace.definition, beginsConstraint_before,
      beginsConstraint_before]
  have sameIndex : beginsIndex (site.definition content) = beginsIndex (site.definition []) :=
    beginsIndex_before start blank _ _
  have other := site.declares.2
  rw [isTableConstraint] at other ⊢
  rw [sameConstraint, sameIndex, other]

/-- Unless the literal speaks of a foreign key, the definition is read as the column. -/
theorem read_of_silent {content : List Char} (silent : mentionsForeignKey content = false) :
    site.read content =
      .column (columnOf site.name site.type (site.clauses content)) (site.key? content) := by
  have definitionSilent := (site.mentionsForeignKey_definition content).trans silent
  exact read_of_columnParts? definitionSilent (site.isTableConstraint_definition content)
    (site.columnParts?_definition content)

/-- If it does, there is no column. -/
theorem column?_of_mentions {content : List Char} (mentions : mentionsForeignKey content = true) :
    (site.read content).column? = none :=
  column?_read_of_mentions ((site.mentionsForeignKey_definition content).trans mentions)

end LiteralSite

/-- Two definitions that declare columns with the same name, type and flags, and the
same foreign key. -/
def Definition.Agrees (first second : Definition) : Prop :=
  ∃ column other, first.column? = some column ∧ second.column? = some other ∧
    column.name = other.name ∧ column.typeToken = other.typeToken ∧
    column.nullable = other.nullable ∧ column.primaryKey = other.primaryKey ∧
    column.unique = other.unique ∧ first.key? = second.key?

namespace LiteralSite

variable (site : LiteralSite)

/-- Two contents of a literal that the searches do not tell apart: neither speaks of
a foreign key, and they show the same where the clauses around them do not say so
already. -/
structure Alike (first second : List Char) : Prop where
  foreignKey : mentionsForeignKey first = false ∧ mentionsForeignKey second = false
  primaryKey : isPrimaryKey (site.clauses []) = true ∨ isPrimaryKey first = isPrimaryKey second
  null : refusesNull (site.clauses []) = true ∨ refusesNull first = refusesNull second
  unique : hasWholeKeyword "unique" false (site.clauses []) = true ∨
    hasWholeKeyword "unique" false first = hasWholeKeyword "unique" false second
  reference : site.key? first = site.key? second

theorem shows_clauses_eq_iff {shows : List Char → Bool} (stops : StopsAtQuotes shows)
    (first second : List Char) :
    shows (site.clauses first) = shows (site.clauses second) ↔
      shows (site.clauses []) = true ∨ shows first = shows second := by
  rw [site.shows_clauses stops first, site.shows_clauses stops second]
  cases shows (site.clauses []) <;> simp

theorem nullable_columnOf (name type constraints : List Char) :
    (columnOf name type constraints).nullable = !refusesNull constraints :=
  (Bool.not_or _ _).symm

theorem silent_of_column {content : List Char} {column : Column}
    (declared : (site.read content).column? = some column) :
    mentionsForeignKey content = false := by
  by_contra mentions
  rw [site.column?_of_mentions (Bool.not_eq_false _ ▸ mentions)] at declared
  contradiction

/-- The column is the same for two contents exactly if the searches do not tell them
apart. -/
theorem agrees_iff (first second : List Char) :
    (site.read first).Agrees (site.read second) ↔ site.Alike first second := by
  have primaryKey := site.shows_clauses_eq_iff stopsAtQuotes_isPrimaryKey first second
  have null := site.shows_clauses_eq_iff stopsAtQuotes_refusesNull first second
  have unique := site.shows_clauses_eq_iff stopsAtQuotes_unique first second
  constructor
  · rintro ⟨column, other, declared, otherDeclared, -, -, sameNull, sameKey, sameUnique, sameTarget⟩
    have silent := site.silent_of_column declared
    have otherSilent := site.silent_of_column otherDeclared
    rw [site.read_of_silent silent] at declared sameTarget
    rw [site.read_of_silent otherSilent] at otherDeclared sameTarget
    obtain rfl := Option.some.inj declared
    obtain rfl := Option.some.inj otherDeclared
    rw [nullable_columnOf, nullable_columnOf, Bool.not_inj_iff] at sameNull
    exact ⟨⟨silent, otherSilent⟩, primaryKey.mp sameKey, null.mp sameNull, unique.mp sameUnique,
      sameTarget⟩
  · intro alike
    rw [site.read_of_silent alike.foreignKey.1, site.read_of_silent alike.foreignKey.2]
    refine ⟨_, _, rfl, rfl, rfl, rfl, ?_, primaryKey.mpr alike.primaryKey,
      unique.mpr alike.unique, alike.reference⟩
    rw [nullable_columnOf, nullable_columnOf, null.mpr alike.null]

/-- If no references clause is open in front of the literal, a content without such a
clause has no part in the one that is found. -/
theorem find?_reference?_clauses (closes : ClosesReferences site.front) {content : List Char}
    (absent : occurs (spacedKeywords? ["references"]) content = false) :
    find? reference? (site.clauses content) =
      (find? reference? site.front).or (find? reference? site.tail) := by
  have passes := readsAfter_reference?.passes_of_absent isKeyword_references absent
    (show isWord '\x27' = false from rfl) rfl site.tail
  rw [List.append_assoc] at passes
  rw [clauses, find?_reference?_before closes]
  exact congrArg _ passes

/-- Contents that look like nothing else are alike. -/
theorem alike_of_plain (closes : ClosesReferences site.front) {first second : List Char}
    (plain : ∀ shown ∈ lookAlikes, shown first = false ∧ shown second = false) :
    site.Alike first second := by
  have foreignKey := plain mentionsForeignKey (by simp [lookAlikes])
  have primaryKey := plain isPrimaryKey (by simp [lookAlikes])
  have notNull := plain isNotNull (by simp [lookAlikes])
  have unique := plain (hasWholeKeyword "unique" false) (by simp [lookAlikes])
  have references := plain (occurs (spacedKeywords? ["references"])) (by simp [lookAlikes])
  refine ⟨foreignKey, .inr (primaryKey.1.trans primaryKey.2.symm), .inr ?_,
    .inr (unique.1.trans unique.2.symm), ?_⟩
  · rw [refusesNull, refusesNull, primaryKey.1, primaryKey.2, notNull.1, notNull.2]
  · rw [key?, key?, site.find?_reference?_clauses closes references.1,
      site.find?_reference?_clauses closes references.2]

end LiteralSite

/-- The content of a literal changes the column around it, and nothing else in the
table.  Two contents leave the name, the type, the flags and the foreign key of the
column the same exactly if the searches in the clauses do not tell them apart; and
contents that look like no clause are not told apart, unless they stand inside a
references clause. -/
theorem tableOf_literal (site : LiteralSite) (table : List Char) :
    (∃ columnsBefore columnsAfter keysBefore keysAfter, ∀ content, '\x27' ∉ content →
      tableOf table (site.body content) =
        { name := String.ofList table
          columns := columnsBefore ++ ((site.read content).column?.toList ++ columnsAfter)
          foreignKeys := keysBefore ++ ((site.read content).key?.toList ++ keysAfter) }) ∧
    (∀ first second,
      (site.read first).Agrees (site.read second) ↔ site.Alike first second) ∧
    (ClosesReferences site.front → ∀ first second,
      (∀ shown ∈ lookAlikes, shown first = false ∧ shown second = false) →
        (site.read first).Agrees (site.read second)) := by
  refine ⟨site.exists_tableOf table, site.agrees_iff, fun closes first second plain => ?_⟩
  exact (site.agrees_iff first second).mpr (site.alike_of_plain closes plain)

/-- The state of an order, between two other columns. -/
def stateSite : LiteralSite where
  before := "id INT PRIMARY KEY, state VARCHAR(9) DEFAULT ".toList
  after := " UNIQUE, total INT".toList
  outsideSingle := by decide +kernel
  outsideDouble := by decide +kernel
  name := "state".toList
  type := "VARCHAR(9)".toList
  front := "DEFAULT ".toList
  parts := by decide +kernel
  column := by decide +kernel
  closes := by decide

/-- A comma and a parenthesis in the literal are of no concern, nor is a clause that
stands around it as well; another clause is. -/
theorem tableOf_literal_state :
    (stateSite.read "new".toList).Agrees (stateSite.read "done, (or) not".toList) ∧
      (stateSite.read "new".toList).Agrees (stateSite.read "unique".toList) ∧
      ¬(stateSite.read "new".toList).Agrees (stateSite.read "not null".toList) := by
  obtain ⟨-, agrees, plain⟩ := tableOf_literal stateSite "orders".toList
  have unique : hasWholeKeyword "unique" false (stateSite.clauses []) = true := by
    decide +kernel
  refine ⟨plain (by decide +kernel) _ _ (by decide +kernel), (agrees _ _).mpr ?_, fun same => ?_⟩
  · exact ⟨by decide +kernel, .inr (by decide +kernel), .inr (by decide +kernel), .inl unique,
      by decide +kernel⟩
  · have null := ((agrees _ _).mp same).null
    revert null
    decide +kernel

/-- A body with a column that has a default. -/
def bodyWithDefault (content : String) : List Char :=
  ("a TEXT DEFAULT \x27" ++ content ++ "\x27").toList

/-- The literal makes the column refuse null, takes it for a key, or takes it away. -/
theorem tableOf_bodyWithDefault :
    (tableOf ['t'] (bodyWithDefault "x")).columns.map
        (fun column => (column.nullable, column.primaryKey, column.unique)) =
      [(true, false, false)] ∧
    (tableOf ['t'] (bodyWithDefault "not null")).columns.map Column.nullable = [false] ∧
    (tableOf ['t'] (bodyWithDefault "primary key")).columns.map Column.primaryKey = [true] ∧
    (tableOf ['t'] (bodyWithDefault "unique")).columns.map Column.unique = [true] ∧
    (tableOf ['t'] (bodyWithDefault "foreign key")).columns = [] ∧
    (tableOf ['t'] (bodyWithDefault "x")).foreignKeys.length = 0 ∧
    (tableOf ['t'] (bodyWithDefault "references x")).foreignKeys.length = 1 := by
  refine ⟨?_, ?_, ?_, ?_, ?_, ?_, ?_⟩
  all_goals decide +kernel

end Crowsfoot.Sql
