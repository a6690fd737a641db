import Crowsfoot.Proofs.Sql.Definitions

/-!
# What is read is a part of the text

Every recogniser of SQL leaves the end of the text that it is given.  So the
clauses of the columns that are read stand in the text, one after the other and
without overlap.
-/

namespace Crowsfoot.Sql

open Crowsfoot.Text

theorem suffix_of_parenthesizedList? {text inside rest : List Char}
    (matched : parenthesizedList? text = some (inside, rest)) : rest <:+ text := by
  simp only [parenthesizedList?] at matched
  split at matched
  · rename_i opened skipped
    exact ((suffix_of_upTo? matched).trans (List.suffix_cons '(' opened)).trans
      (skipped ▸ List.dropWhile_suffix _)
  · contradiction

theorem suffix_of_quotedPart? {mark : Char} {text part after : List Char}
    (found : quotedPart? mark text = some (part, after)) : after <:+ text := by
  cases text with
  | nil => contradiction
  | cons c rest =>
      simp only [quotedPart?] at found
      split at found
      · contradiction
      · simp only [Option.bind_eq_bind, Option.bind_eq_some_iff] at found
        obtain ⟨⟨inside, later⟩, closed, kept⟩ := found
        split at kept
        · contradiction
        · obtain ⟨-, rfl⟩ := Prod.mk.inj (Option.some.inj kept)
          exact (suffix_of_upTo? closed).trans (List.suffix_cons c rest)

theorem suffix_of_namePart? {text part after : List Char}
    (found : namePart? text = some (part, after)) : after <:+ text := by
  simp only [namePart?] at found
  split at found
  · rename_i quoted
    exact suffix_of_quotedPart? (quoted.trans found)
  · split at found
    · rename_i quoted
      exact suffix_of_quotedPart? (quoted.trans found)
    · split at found
      · contradiction
      · split at found
        · obtain ⟨-, rfl⟩ := Prod.mk.inj (Option.some.inj found)
          exact List.suffix_cons _ _
        · contradiction

theorem nameParts_suffix (text : List Char) : (nameParts text).2 <:+ text := by
  fun_induction nameParts text with
  | case1 => exact List.suffix_rfl
  | case2 text part after found parts rest read ih =>
      rw [read] at ih
      exact ih.trans (suffix_of_namePart? found)

theorem suffix_of_qualifiedName? {text name rest : List Char}
    (matched : qualifiedName? text = some (name, rest)) : rest <:+ text := by
  have suffix := nameParts_suffix text
  simp only [qualifiedName?] at matched
  split at matched
  · contradiction
  · rw [Option.some.inj matched] at suffix
    exact suffix

theorem suffix_of_keywords? {words : List String} {text rest : List Char}
    (matched : keywords? words text = some rest) : rest <:+ text := by
  fun_induction keywords? words text with
  | case1 => exact Option.some.inj matched ▸ List.suffix_rfl
  | case2 => exact suffix_of_letters? matched
  | case3 text word next later ih =>
      simp only [Option.bind_eq_bind, Option.bind_eq_some_iff] at matched
      obtain ⟨afterWord, wordMatched, afterBlanks, blanksMatched, laterMatched⟩ := matched
      exact ((ih _ laterMatched).trans (suffix_of_blanks? blanksMatched)).trans
        (suffix_of_letters? wordMatched)

theorem skipKeywords_suffix (groups : List (List String)) (text : List Char) :
    skipKeywords groups text <:+ text := by
  induction groups with
  | nil => exact List.suffix_rfl
  | cons words others ih =>
      simp only [skipKeywords]
      split
      · rename_i matched
        simp only [spacedKeywords?, Option.bind_eq_bind, Option.bind_eq_some_iff] at matched
        obtain ⟨afterWords, wordsMatched, blanksMatched⟩ := matched
        exact (suffix_of_blanks? blanksMatched).trans (suffix_of_keywords? wordsMatched)
      · exact ih

/-- A body stands behind the parenthesis that opens it. -/
theorem opening_suffix_of_tableStatement? {text name body : List Char}
    (matched : tableStatement? text = some (name, body)) : '(' :: body <:+ text := by
  simp only [tableStatement?, Option.bind_eq_bind, Option.bind_eq_some_iff] at matched
  obtain ⟨afterCreate, create, afterBlanks, first, afterTable, table, beforeName, second,
    ⟨found, afterName⟩, qualified, opening⟩ := matched
  have name : afterName <:+ text :=
    (suffix_of_qualifiedName? qualified).trans <| (skipKeywords_suffix _ _).trans <|
      (suffix_of_blanks? second).trans <| (suffix_of_letters? table).trans <|
        (skipKeywords_suffix _ _).trans <| (suffix_of_blanks? first).trans
          (suffix_of_letters? create)
  split at opening
  · rename_i opened skipped
    obtain ⟨-, rfl⟩ := Prod.mk.inj (Option.some.inj opening)
    rw [← skipped]
    exact (List.dropWhile_suffix isBlank).trans name
  · contradiction

theorem suffix_of_tableStatement? {text name body : List Char}
    (matched : tableStatement? text = some (name, body)) : body <:+ text :=
  (List.suffix_cons '(' body).trans (opening_suffix_of_tableStatement? matched)

/-- What a search leaves is the end of the text. -/
theorem suffix_of_find? {α : Type} {recognise : List Char → Option (α × List Char)}
    (reads : ∀ {text rest : List Char} {answer : α},
      recognise text = some (answer, rest) → rest <:+ text)
    {text rest : List Char} {answer : α} (found : find? recognise text = some (answer, rest)) :
    rest <:+ text := by
  obtain ⟨part, isEnd, read⟩ := exists_of_find? found
  exact (reads read).trans isEnd

/-! ## Columns -/

theorem suffix_of_columnName? {text name rest : List Char}
    (matched : columnName? text = some (name, rest)) : rest <:+ text := by
  cases text with
  | nil => contradiction
  | cons c later =>
      simp only [columnName?] at matched
      split at matched
      · split at matched
        · rename_i name mark after quoted
          obtain ⟨-, rfl⟩ := Prod.mk.inj (Option.some.inj matched)
          exact ((List.suffix_cons mark _).trans (suffix_of_run? quoted)).trans
            (List.suffix_cons c later)
        · contradiction
      · exact suffix_of_run? matched

/-- What stands behind the brackets of a list type, or behind none. -/
theorem suffix_of_brackets {token bare bracketed rest after : List Char}
    (matched : (match after with
      | '[' :: ']' :: behind => some (bracketed, behind)
      | behind => some (bare, behind)) = some (token, rest)) : rest <:+ after := by
  split at matched
  · obtain ⟨-, rfl⟩ := Prod.mk.inj (Option.some.inj matched)
    exact List.suffix_append ['[', ']'] _
  · obtain ⟨-, rfl⟩ := Prod.mk.inj (Option.some.inj matched)
    exact List.suffix_rfl

theorem suffix_of_typeToken? {text token rest : List Char}
    (matched : typeToken? text = some (token, rest)) : rest <:+ text := by
  cases text with
  | nil => contradiction
  | cons c later =>
      have word : later.dropWhile isTypeChar <:+ c :: later :=
        (List.dropWhile_suffix _).trans (List.suffix_cons c later)
      simp only [typeToken?] at matched
      split at matched
      · contradiction
      · cases listed : parenthesizedList? (later.dropWhile isTypeChar) with
        | none =>
            rw [listed] at matched
            exact (suffix_of_brackets matched).trans word
        | some parts =>
            rw [listed] at matched
            exact (suffix_of_brackets matched).trans
              ((suffix_of_parenthesizedList? listed).trans word)

theorem suffix_of_columnParts? {definition name type constraints : List Char}
    (matched : columnParts? definition = some (name, type, constraints)) :
    constraints <:+ definition := by
  simp only [columnParts?, Option.bind_eq_bind, Option.bind_eq_some_iff, Option.pure_def,
    Option.some.injEq, Prod.mk.injEq] at matched
  obtain ⟨⟨read, afterName⟩, named, afterBlanks, blanks, ⟨token, afterType⟩, typed, -, -, rfl⟩ :=
    matched
  exact (List.dropWhile_suffix _).trans <| (suffix_of_typeToken? typed).trans <|
    (suffix_of_blanks? blanks).trans (suffix_of_columnName? named)

theorem trim_sublist (drops : Char → Bool) (text : List Char) :
    (trim drops text).Sublist text := by
  obtain ⟨gap, split, -⟩ := exists_trimEnd_append drops (text.dropWhile drops)
  have front : (trim drops text).Sublist (text.dropWhile drops) := by
    rw [split]
    exact List.sublist_append_left _ _
  exact front.trans (List.dropWhile_sublist _)

theorem strip_sublist (text : List Char) : (strip text).Sublist text :=
  trim_sublist isBlank text

/-- A definition declares the column of its parts. -/
theorem parts_of_read {definition : List Char} {column : Column}
    (read : (Definition.read definition).column? = some column) :
    ∃ name type constraints, columnParts? definition = some (name, type, constraints) ∧
      column = columnOf name type constraints := by
  rw [Definition.read] at read
  split at read
  · contradiction
  · split at read
    · contradiction
    · split at read
      · contradiction
      · rename_i name type constraints parts
        exact ⟨name, type, constraints, parts, (Option.some.inj read).symm⟩

/-- The clauses of a column that is read stand in its definition. -/
theorem constraints_sublist {definition : List Char} {column : Column}
    (read : (Definition.read definition).column? = some column) :
    column.constraints.toList.Sublist definition := by
  obtain ⟨name, type, constraints, parts, rfl⟩ := parts_of_read read
  rw [columnOf, String.toList_ofList]
  exact (strip_sublist constraints).trans (suffix_of_columnParts? parts).sublist

theorem eq_of_splitBody {quoted : Bool} {depth : Nat} {text body after : List Char}
    (closed : splitBody quoted depth text = some (body, after)) :
    text = body ++ ')' :: after := by
  induction text generalizing quoted depth body with
  | nil => contradiction
  | cons c rest ih =>
      have further {quoted : Bool} {depth : Nat}
          (continued : (splitBody quoted depth rest).map
            (fun parts => (c :: parts.1, parts.2)) = some (body, after)) :
          c :: rest = body ++ ')' :: after := by
        simp only [Option.map_eq_some_iff, Prod.mk.injEq] at continued
        obtain ⟨⟨inner, later⟩, found, rfl, rfl⟩ := continued
        rw [ih found]
        rfl
      simp only [splitBody] at closed
      split at closed
      · exact further closed
      · split at closed
        · exact further closed
        · split at closed
          · exact further closed
          · split at closed
            · rename_i closing
              split at closed
              · obtain ⟨rfl, rfl⟩ := Prod.mk.inj (Option.some.inj closed)
                rw [beq_iff_eq.mp closing]
                rfl
              · exact further closed
            · exact further closed

theorem flatten_topLevelPieces_sublist (nesting : Nesting) (text : List Char) :
    (topLevelPieces nesting text).flatten.Sublist text := by
  induction text generalizing nesting with
  | nil => simp [topLevelPieces]
  | cons c rest ih =>
      rw [topLevelPieces]
      split
      · exact (ih nesting).cons c
      · have behind := ih (nesting.next c)
        split
        · simp
        · rename_i piece later found
          rw [found] at behind
          exact behind.cons_cons c

/-- Definitions are pieces of the body, in order. -/
theorem flatten_definitions_sublist (body : List Char) :
    (definitions body).flatten.Sublist body := by
  have kept : ∀ pieces : List (List Char),
      (((pieces.map strip).filter (!·.isEmpty)).flatten).Sublist pieces.flatten := by
    intro pieces
    induction pieces with
    | nil => simp
    | cons piece later ih =>
        rw [List.map_cons, List.filter_cons, List.flatten_cons]
        split
        · exact (strip_sublist piece).append ih
        · exact ih.trans (List.sublist_append_right _ _)
  exact (kept _).trans (flatten_topLevelPieces_sublist _ _)

/-- The text of the clauses of some columns. -/
def clausesText (columns : List Column) : List Char :=
  columns.flatMap fun column => column.constraints.toList

theorem clausesText_tableOf_sublist (name body : List Char) :
    (clausesText (tableOf name body).columns).Sublist body := by
  have each : ∀ definitions : List (List Char),
      (clausesText ((definitions.map Definition.read).filterMap Definition.column?)).Sublist
        definitions.flatten := by
    intro definitions
    induction definitions with
    | nil => exact List.Sublist.slnil
    | cons definition later ih =>
        rw [List.map_cons, List.flatten_cons, List.filterMap_cons]
        cases read : (Definition.read definition).column? with
        | none => exact ih.trans (List.sublist_append_right _ _)
        | some column =>
            rw [clausesText, List.flatMap_cons]
            exact (constraints_sublist read).append ih
  exact (each _).trans (flatten_definitions_sublist body)

/-- The clauses of the columns that are read stand in the text, one after the
other. -/
theorem clausesText_tables_sublist {text : List Char} {read : List Table}
    (found : tables text = .ok read) :
    (read.flatMap fun table => clausesText table.columns).Sublist text := by
  fun_induction tables text generalizing read with
  | case1 text absent =>
      obtain rfl := Except.ok.inj found
      exact List.nil_sublist _
  | case2 => contradiction
  | case3 text qualified opened statement name body after closed later behind =>
      rename_i ih
      obtain rfl := Except.ok.inj found
      have inside : (body ++ ')' :: after).Sublist text :=
        eq_of_splitBody closed ▸ (suffix_of_find? suffix_of_tableStatement? statement).sublist
      rw [List.flatMap_cons]
      exact ((clausesText_tableOf_sublist _ body).append ((ih behind).cons ')')).trans inside
  | case4 => contradiction

end Crowsfoot.Sql
