import Crowsfoot.Proofs.Sql.Clauses

/-!
# Defaults and references among clauses

The value of a default clause and the target of a reference are read back, and
they are the ones that the clauses declare, unless an earlier clause holds the
keyword that is searched for.
-/

namespace Crowsfoot.Sql

open Crowsfoot.Text

/-- A value that begins with neither a quote nor a parenthesis, and is no
call, is plain. -/
theorem value?_of_plain {c : Char} {rest : List Char}
    (plain : c ≠ '\x27' ∧ c ≠ '\x22' ∧ c ≠ '(') (noCall : call? (c :: rest) = none) :
    value? (c :: rest) = plainValue? (c :: rest) := by
  simp [value?, plain, noCall]

/-- A word before the end or a blank is read as a value, where no parenthesis
makes it a call. -/
theorem value?_run {word rest : List Char} (run : IsRun word)
    (blank : Stops (fun c => !isBlank c) rest) (closed : parenFollows rest = false) :
    value? (word ++ rest) = some word := by
  have ends (takes : Char → Bool) (solid : ∀ c, isBlank c = true → takes c = false) :
      Stops takes rest := by
    intro c member
    exact solid c (by simpa using blank c member)
  have name : run? (fun c => isWord c || c == '.') (word ++ rest) = some (word, rest) := by
    refine run?_append run.nonempty (fun c member => by simp [run.word c member]) (ends _ ?_)
    intro c isBlank
    simp only [isWord_of_isBlank isBlank, Bool.false_or, beq_eq_false_iff_ne]
    exact ne_of_class isBlank rfl
  have plain : run? (fun c => !isBlank c && c != ',') (word ++ rest) = some (word, rest) := by
    refine run?_append run.nonempty (fun c member => ?_) (ends _ fun c blank => by simp [blank])
    simp [run.notBlank c member, ne_of_class (run.word c member) (rfl : isWord ',' = false)]
  have noCall : call? (word ++ rest) = none := by
    rw [parenFollows] at closed
    rw [call?, name]
    simp only [Option.bind_eq_bind, Option.bind_some]
    split
    · rename_i opened
      rw [opened] at closed
      contradiction
    · rfl
  obtain ⟨c, later, rfl, word⟩ := run.exists_cons
  rw [List.cons_append] at noCall plain ⊢
  rw [value?_of_plain ⟨ne_of_class word rfl, ne_of_class word rfl, ne_of_class word rfl⟩ noCall,
    plainValue?, plain]
  rfl

/-- A literal without quotes inside ends at the next quote. -/
theorem singleQuoted?_append {content : List Char} (unquoted : '\x27' ∉ content)
    {rest : List Char} (stops : Stops (· == '\x27') rest) :
    singleQuoted? (content ++ '\x27' :: rest) = some (content ++ ['\x27']) := by
  induction content with
  | nil =>
      cases rest with
      | nil => rfl
      | cons c later =>
          have other : c ≠ '\x27' := by simpa using stops_cons_iff.mp stops
          rw [List.nil_append, singleQuoted?.eq_3 _ _ (by simp [other])]
          rfl
  | cons c later ih =>
      rw [List.mem_cons, not_or] at unquoted
      have other : c ≠ '\x27' := fun same => unquoted.1 same.symm
      rw [List.cons_append, singleQuoted?.eq_3 _ _ (by simp [other]), ih unquoted.2]
      simp [other]

theorem DefaultValue.value?_text (value : DefaultValue) {rest : List Char}
    (spaced : IsSpaced rest) :
    value? (value.text.toList ++ rest) = some value.text.toList := by
  cases value with
  | integer number =>
      obtain ⟨n, unsigned | signed⟩ := toList_toString_int number
      · rw [text, unsigned]
        exact value?_run (run_toString n) (spaced.stops rfl) spaced.parenFollows_eq_false
      · have solid : ∀ c ∈ '-' :: (toString n).toList, (!isBlank c && c != ',') = true := by
          rw [List.forall_mem_cons]
          refine ⟨by decide, fun c member => ?_⟩
          have run := run_toString n
          simp [run.notBlank c member, ne_of_class (run.word c member) (rfl : isWord ',' = false)]
        have stops : Stops (fun c => !isBlank c && c != ',') rest := spaced.stops rfl
        have plain := run?_append (List.cons_ne_nil _ _) solid stops
        have noCall : call? ('-' :: (toString n).toList ++ rest) = none := rfl
        rw [List.cons_append] at noCall plain
        rw [text, signed, List.cons_append, value?_of_plain (by decide) noCall, plainValue?, plain]
        rfl
  | literal content unquoted =>
      have quoted := singleQuoted?_append unquoted (spaced.stops rfl)
      rw [toList_literal, List.cons_append, List.append_assoc, List.singleton_append]
      simp only [value?, quoted]
      rfl

theorem readsAfter_defaultClause? : ReadsAfter "default" value? defaultClause? := by
  intro text
  rw [spacedKeywords?_singleton, Option.bind_assoc]
  rfl

theorem isKeyword_default : IsKeyword "default" := by
  decide

/-- Whether a reference without columns, to a table whose name ends in
`default`, makes the next clause look like a default before any default
stands. -/
def strayDefault : List Clause → Bool
  | [] => false
  | .default _ :: _ => false
  | .references table [] :: next :: later =>
      endsIn "default" table.name.toList || strayDefault (next :: later)
  | _ :: later => strayDefault later

/-- The text that is taken for the default of a column. -/
def foundDefault? : List Clause → Option String
  | [] => none
  | .default value :: _ => some value.text
  | .references table [] :: next :: later =>
      if endsIn "default" table.name.toList then some next.keyword
      else foundDefault? (next :: later)
  | _ :: later => foundDefault? later

theorem endsIn_clauseWord : ∀ word ∈ clauseWords,
    (word ≠ "DEFAULT" → endsIn "default" word.toList = false) ∧
      (word ≠ "REFERENCES" → endsIn "references" word.toList = false) := by
  decide

theorem Clause.endsIn_keyword_default {clause : Clause} (other : ∀ value, clause ≠ default value) :
    endsIn "default" clause.keyword.toList = false := by
  refine (endsIn_clauseWord _ clause.keyword_mem).1 ?_
  cases clause with
  | default value => exact absurd rfl (other value)
  | _ => simp [keyword]

/-- A default value begins with neither a blank nor a parenthesis nor a
letter. -/
theorem DefaultValue.exists_cons (value : DefaultValue) :
    ∃ c rest, value.text.toList = c :: rest ∧ isBlank c = false ∧ c ≠ '(' ∧
      c.isAlpha = false := by
  cases value with
  | integer number =>
      obtain ⟨n, unsigned | signed⟩ := toList_toString_int number
      · obtain ⟨c, rest, spelled, word⟩ := (run_toString n).exists_cons
        have member : c ∈ (toString n).toList := spelled ▸ List.mem_cons_self
        exact ⟨c, rest, unsigned.trans spelled, isBlank_of_isWord word, ne_of_class word rfl,
          isAlpha_of_isDigit (isDigit_of_mem_toString member)⟩
      · exact ⟨'-', _, signed, rfl, by decide, by decide⟩
  | literal content unquoted =>
      exact ⟨'\x27', _, toList_literal unquoted, rfl, by decide, by decide⟩

/-- No default value is the keyword of a clause. -/
theorem DefaultValue.text_ne_keyword (value : DefaultValue) (clause : Clause) :
    value.text ≠ clause.keyword := by
  have letters : ∀ word ∈ clauseWords, word.toList.head?.all Char.isAlpha = true := by decide
  obtain ⟨c, rest, spelled, -, -, noLetter⟩ := value.exists_cons
  intro same
  have letter := letters _ clause.keyword_mem
  rw [← same, spelled, List.head?_cons, Option.all_some, noLetter] at letter
  contradiction

/-- What stands after the keyword of a clause is nothing, or a blank with
neither a blank nor a parenthesis after it. -/
theorem Clause.operand_cases (clause : Clause) : clause.operand.toList = [] ∨
    ∃ c rest, clause.operand.toList = ' ' :: c :: rest ∧ isBlank c = false ∧ c ≠ '(' := by
  cases clause with
  | notNull => exact .inr ⟨'N', _, rfl, rfl, by decide⟩
  | primaryKey => exact .inr ⟨'K', _, rfl, rfl, by decide⟩
  | unique => exact .inl rfl
  | default value =>
      obtain ⟨c, rest, spelled, notBlank, notParen, -⟩ := value.exists_cons
      exact .inr ⟨c, rest, by simp [operand, spelled], notBlank, notParen⟩
  | references table columns =>
      obtain ⟨c, rest, spelled, word⟩ := table.run.exists_cons
      exact .inr ⟨c, rest ++ (optionalListText (columns.map PlainName.name)).toList,
        by simp [operand, spelled], isBlank_of_isWord word, ne_of_class word rfl⟩

/-- The keyword of a clause is read as a value. -/
theorem value?_keyword (clause : Clause) {rest : List Char} (spaced : IsSpaced rest) :
    value? (clause.text.toList ++ rest) = some clause.keyword.toList := by
  rw [clause.toList_text, List.append_assoc]
  rcases clause.operand_cases with nothing | ⟨c, later, spelled, notBlank, notParen⟩
  · rw [nothing, List.nil_append]
    exact value?_run clause.run_keyword (spaced.stops rfl) spaced.parenFollows_eq_false
  · rw [spelled]
    refine value?_run clause.run_keyword (stops_cons_iff.mpr rfl) ?_
    have skipped : skipBlanks (' ' :: c :: (later ++ rest)) = c :: (later ++ rest) :=
      skipBlanks_of_stops (stops_cons_iff.mpr notBlank)
    rw [parenFollows, List.cons_append, List.cons_append, skipped]
    simp [notParen]

/-- A value is read right behind its keyword. -/
theorem defaultClause?_text (value : DefaultValue) {rest : List Char} (spaced : IsSpaced rest) :
    defaultClause? ((Clause.default value).text.toList ++ rest) = some value.text.toList := by
  have start := value.solid.1.first.append value.solid.2 rest
  rw [Clause.toList_default, List.append_assoc, List.cons_append, readsAfter_defaultClause?,
    spacedKeywords?_run isKeyword_default (by decide) (stops_cons_iff.mpr rfl),
    if_pos (by decide), blanks?_cons rfl start]
  exact value.value?_text spaced

/-- The default clause that is found among some clauses. -/
theorem find?_defaultClause?_tailText (clauses : List Clause) :
    find? defaultClause? (tailText clauses) = (foundDefault? clauses).map String.toList := by
  have reads := readsAfter_defaultClause?
  have closing : endsIn "default" "NULL".toList = false ∧
      endsIn "default" "KEY".toList = false := by decide
  have skip (clause : Clause) (later : List Clause) : find? defaultClause?
      (tailText (clause :: later)) =
        find? defaultClause? (clause.text.toList ++ tailText later) := by
    rw [tailText_cons, reads.find?_cons isKeyword_default rfl]
  have bare (table : PlainName) (rest : List Char) :
      find? defaultClause? ((Clause.references table []).text.toList ++ rest) =
        find? defaultClause? (table.name.toList ++ rest) := by
    rw [Clause.toList_references, List.append_assoc, List.cons_append, List.append_assoc,
      reads.find?_other isKeyword_default (by decide) (stops_cons_iff.mpr rfl) (by decide),
      reads.find?_cons isKeyword_default rfl]
    rfl
  fun_induction foundDefault? clauses with
  | case1 => exact reads.find?_nil isKeyword_default
  | case2 value later =>
      rw [skip, find?_of_some (defaultClause?_text value (isTail_tailText later).isSpaced)]
      rfl
  | case3 table next later stray =>
      have start := next.stops_isBlank (tailText later)
      have value : (blanks? (tailText (next :: later))).bind value? =
          some next.keyword.toList := by
        rw [tailText_cons, blanks?_cons rfl start]
        exact value?_keyword next (isTail_tailText later).isSpaced
      rw [skip, bare, reads.find?_run isKeyword_default table.run.word
        (isTail_tailText _).isSpaced.stops_isWord, if_pos stray, value]
      rfl
  | case4 table next later fine ih =>
      have absent : (Clause.references table []).holds "default" = false := by
        simpa [Clause.holds] using fine
      rw [skip, reads.find?_clause isKeyword_default closing
        (Clause.endsIn_keyword_default (by simp)) absent (isTail_tailText _), ih]
  | case5 clause later notDefault notBare ih =>
      have other := Clause.endsIn_keyword_default notDefault
      have passed (absent : clause.holds "default" = false) :=
        reads.find?_clause isKeyword_default closing other absent (isTail_tailText later)
      rw [skip, ← ih]
      cases clause with
      | default value => exact absurd rfl (notDefault value)
      | references table columns =>
          cases columns with
          | nil =>
              cases later with
              | nil =>
                  rw [bare]
                  exact reads.find?_unless isKeyword_default table.run.word (stops_nil _) rfl
              | cons next more => exact (notBare table next more rfl rfl).elim
          | cons column more => exact passed rfl
      | _ => exact passed rfl

/-- The default that is found is the declared one exactly if none is stray. -/
theorem foundDefault?_eq_iff (clauses : List Clause) :
    foundDefault? clauses = clauses.findSome? Clause.defaultText? ↔
      strayDefault clauses = false := by
  fun_induction foundDefault? clauses with
  | case1 => simp [strayDefault]
  | case2 value later => simp [strayDefault, List.findSome?_cons, Clause.defaultText?]
  | case3 table next later stray =>
      have differs : some next.keyword ≠ List.findSome? Clause.defaultText?
          (.references table [] :: next :: later) := by
        intro same
        obtain ⟨clause, -, declared⟩ := List.exists_of_findSome?_eq_some same.symm
        cases clause with
        | default value => exact value.text_ne_keyword next (Option.some.inj declared)
        | _ => contradiction
      simp [strayDefault, stray, differs]
  | case4 table next later fine ih =>
      simpa [strayDefault, fine, List.findSome?_cons, Clause.defaultText?] using ih
  | case5 clause later notDefault notBare ih =>
      have undeclared : clause.defaultText? = none := by
        cases clause with
        | default value => exact (notDefault value rfl).elim
        | _ => rfl
      rw [strayDefault.eq_4 _ _ notDefault notBare, List.findSome?_cons, undeclared]
      exact ih

theorem solid_of_foundDefault? {clauses : List Clause} {text : String}
    (found : foundDefault? clauses = some text) : Solid text.toList := by
  fun_induction foundDefault? clauses with
  | case1 => contradiction
  | case2 value later => exact Option.some.inj found ▸ value.solid.1
  | case3 table next later stray => exact Option.some.inj found ▸ next.run_keyword.solid
  | case4 table next later fine ih => exact ih found
  | case5 clause later notDefault notBare ih => exact ih found

/-- The default of a column is the declared one exactly if none is stray. -/
theorem defaultValue?_tailText_eq_iff (clauses : List Clause) :
    (defaultValue? (tailText clauses)).map String.ofList =
      clauses.findSome? Clause.defaultText? ↔ strayDefault clauses = false := by
  have read : (defaultValue? (tailText clauses)).map String.ofList = foundDefault? clauses := by
    rw [defaultValue?, find?_defaultClause?_tailText]
    cases found : foundDefault? clauses with
    | none => rfl
    | some text => simp [strip_of_solid (solid_of_foundDefault? found)]
  rw [read]
  exact foundDefault?_eq_iff clauses

/-! ## References -/

theorem isKeyword_references : IsKeyword "references" := by
  decide

/-- What is read behind the keyword of a reference. -/
def target? (text : List Char) : Option Reference :=
  (qualifiedName? text).map fun (table, rest) =>
    let columns := match parenthesizedList? rest with
      | some (inside, _) => nameList inside
      | none => []
    ⟨unqualified table, if columns.isEmpty then ["id".toList] else columns⟩

theorem readsAfter_reference? : ReadsAfter "references" target? reference? := by
  intro text
  rw [spacedKeywords?_singleton, Option.bind_assoc, reference?]
  cases keyword? "references" text with
  | none => rfl
  | some afterWord =>
      simp only [Option.bind_eq_bind, Option.bind_some]
      cases blanks? afterWord with
      | none => rfl
      | some afterBlanks =>
          simp only [Option.bind_some, target?]
          cases qualifiedName? afterBlanks <;> rfl

/-- The reference that leads to columns of a table. -/
def referenceTo (table : PlainName) (columns : List PlainName) : Reference where
  table := table.name.toList
  columns := if columns.isEmpty then ["id".toList] else columns.map (·.name.toList)

theorem foreignKey_referenceTo (columns : List (List Char)) (table : PlainName)
    (refColumns : List PlainName) :
    foreignKey columns (referenceTo table refColumns) =
      keyTo (columns.map String.ofList) table refColumns := by
  cases refColumns <;> simp [foreignKey, referenceTo, keyTo]

/-- A list is read up to its closing parenthesis, with anything after it. -/
theorem parenthesizedList?_listText {texts : List String}
    (runs : ∀ text ∈ texts, IsRun text.toList) (rest : List Char) :
    parenthesizedList? ((listText texts).toList ++ rest) =
      some ((joined ", " texts).toList, rest) := by
  have absent : ')' ∉ (joined ", " texts).toList := by
    intro member
    rcases mem_of_mem_joined member with inSeparator | ⟨text, textMember, inText⟩
    · exact absurd inSeparator (by decide)
    · exact (runs text textMember).notMem rfl inText
  rw [toList_listText, List.cons_append, List.append_assoc, List.singleton_append,
    parenthesizedList?, skipBlanks_of_stops (stops_cons_iff.mpr rfl)]
  exact upTo?_append absent rest

theorem target?_text {table : PlainName} {columns : List PlainName} {rest : List Char}
    (spaced : IsSpaced rest) :
    target? (table.name.toList ++
      ((optionalListText (columns.map PlainName.name)).toList ++ rest)) =
        some (referenceTo table columns) := by
  cases columns with
  | nil =>
      have name := table.run.qualifiedName? spaced.namePart?_eq_none
      change (qualifiedName? (table.name.toList ++ rest)).map _ = _
      rw [name, Option.map_some]
      dsimp only
      rw [spaced.parenthesizedList?_eq_none, table.run.unqualified]
      rfl
  | cons column later =>
      have runs := runs_names (column :: later)
      have list := parenthesizedList?_listText runs rest
      have ends : namePart? ((listText ((column :: later).map PlainName.name)).toList ++ rest) =
          none := by
        rw [toList_listText]
        rfl
      change (qualifiedName? (table.name.toList ++
        ((listText ((column :: later).map PlainName.name)).toList ++ rest))).map _ = _
      rw [table.run.qualifiedName? ends, Option.map_some]
      dsimp only
      rw [list, table.run.unqualified]
      simp only [nameList_joined runs, referenceTo]
      simp

/-- A reference is read right behind its keyword. -/
theorem reference?_text (table : PlainName) (columns : List PlainName) {rest : List Char}
    (spaced : IsSpaced rest) :
    reference? ((Clause.references table columns).text.toList ++ rest) =
      some (referenceTo table columns) := by
  have start := table.run.stops_isBlank
    ((optionalListText (columns.map PlainName.name)).toList ++ rest)
  rw [Clause.toList_references, List.append_assoc, List.cons_append, List.append_assoc,
    readsAfter_reference?, spacedKeywords?_run isKeyword_references (by decide)
      (stops_cons_iff.mpr rfl), if_pos (by decide), blanks?_cons rfl start]
  exact target?_text spaced

/-- The reference of a clause. -/
def Clause.reference? : Clause → Option Reference
  | references table columns => some (referenceTo table columns)
  | _ => none

/-- The first reference among some clauses is found if no literal holds the
keyword. -/
theorem find?_reference?_tailText {clauses : List Clause}
    (absent : ∀ content ∈ literals clauses,
      occurs (spacedKeywords? ["references"]) content.toList = false) :
    find? Sql.reference? (tailText clauses) = clauses.findSome? Clause.reference? := by
  have reads := readsAfter_reference?
  have closing : endsIn "references" "NULL".toList = false ∧
      endsIn "references" "KEY".toList = false := by decide
  induction clauses with
  | nil => exact reads.find?_nil isKeyword_references
  | cons clause later ih =>
      have laterAbsent : ∀ content ∈ literals later,
          occurs (spacedKeywords? ["references"]) content.toList = false := by
        have kept := ((List.sublist_cons_self clause later).filterMap Clause.literal?).subset
        exact fun content member => absent content (kept member)
      have tail := isTail_tailText later
      have passed (other : clause.keyword ≠ "REFERENCES")
          (silent : clause.holds "references" = false) :
          find? Sql.reference? (clause.text.toList ++ tailText later) =
            later.findSome? Clause.reference? := by
        rw [reads.find?_clause isKeyword_references closing
          ((endsIn_clauseWord _ clause.keyword_mem).2 other) silent tail]
        exact ih laterAbsent
      rw [tailText_cons, reads.find?_cons isKeyword_references rfl, List.findSome?_cons]
      cases clause with
      | references table columns =>
          exact find?_of_some (reference?_text table columns tail.isSpaced)
      | default value =>
          refine passed (by simp [Clause.keyword]) ?_
          cases value with
          | integer number => rfl
          | literal content unquoted =>
              exact absent content (List.mem_filterMap.mpr ⟨_, List.mem_cons_self, rfl⟩)
      | _ => exact passed (by simp [Clause.keyword]) rfl

end Crowsfoot.Sql
