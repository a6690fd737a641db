import Crowsfoot.Proofs.Dsl.WrittenColumns

/-!
# Lines that are cut

A line boundary in a written default cuts the line of its column.  What stands
before the cut still declares the column; what stands behind it is read as
further lines, and may declare columns that the document does not have.
-/

namespace Crowsfoot.Dsl

open Crowsfoot.Text

/-- The part of a written default that stays on the line of its column. -/
def shownDefault (format : String) (column : Column) : List Char :=
  ((columnDefault? format column).getD "").toList.takeWhile (!isLineBoundary ·)

/-- The part of a written default from its first line boundary on. -/
def hiddenDefault (format : String) (column : Column) : List Char :=
  ((columnDefault? format column).getD "").toList.dropWhile (!isLineBoundary ·)

/-- The columns that are declared behind the first line boundary in a written
default. -/
def strayColumns (format : String) (column : Column) : List Column :=
  match hiddenDefault format column with
  | [] => []
  | _ :: behind => columnsIn (behind ++ ')' :: trailingChars column none)

theorem strayColumns_of_hidden {format : String} {column : Column}
    (hidden : hiddenDefault format column = []) : strayColumns format column = [] := by
  unfold strayColumns
  rw [hidden]

/-- On one line, every character is shown. -/
theorem shown_of_oneLine {text : List Char} (oneLine : ∀ c ∈ text, isLineBoundary c = false) :
    ∀ c ∈ text, (!isLineBoundary c) = true := by
  intro c member
  rw [oneLine c member]
  rfl

/-- What is shown stops at a line boundary. -/
theorem stops_boundary {boundary : Char} (cuts : isLineBoundary boundary = true)
    (back : List Char) : Stops (!isLineBoundary ·) (boundary :: back) := by
  rw [stops_cons_iff, cuts]
  rfl

/-- A default without line boundaries is shown whole. -/
theorem shownDefault_of_oneLine {format : String} {column : Column}
    (oneLine : ∀ text ∈ columnDefault? format column, ∀ c ∈ text.toList,
      isLineBoundary c = false) :
    shownDefault format column = ((columnDefault? format column).getD "").toList ∧
      hiddenDefault format column = [] := by
  have shown : ∀ c ∈ ((columnDefault? format column).getD "").toList,
      (!isLineBoundary c) = true := by
    cases written : columnDefault? format column with
    | none => simp
    | some text => exact shown_of_oneLine (oneLine text written)
  have whole := takeWhile_append_of_stops shown (stops_nil _)
  have rest := dropWhile_append_of_stops shown (stops_nil _)
  rw [List.append_nil] at whole rest
  exact ⟨whole, rest⟩

/-- A default is cut at its first line boundary. -/
theorem shownDefault_of_cut {format text : String} {column : Column} {front back : List Char}
    {boundary : Char} (written : columnDefault? format column = some text)
    (spelled : text.toList = front ++ boundary :: back) (cuts : isLineBoundary boundary = true)
    (oneLine : ∀ c ∈ front, isLineBoundary c = false) :
    shownDefault format column = front ∧ hiddenDefault format column = boundary :: back := by
  have shown := shown_of_oneLine oneLine
  have stops := stops_boundary cuts back
  rw [shownDefault, hiddenDefault, written, Option.getD_some, spelled]
  exact ⟨takeWhile_append_of_stops shown stops, dropWhile_append_of_stops shown stops⟩

/-- On a line that is not cut, a relation is found in the default only. -/
theorem hasRelation_of_oneLine {format : String} {column : Column}
    (plain : '@' ∉ column.name.toList)
    (oneLine : ∀ text ∈ columnDefault? format column, ∀ c ∈ text.toList,
      isLineBoundary c = false) :
    hasAttribute "@relation" (joined " " (columnAttributes format column none)).toList =
      hasAttribute "@relation" (shownDefault format column) := by
  have noId : ("@relation" == "@id") = false := by decide
  have noUnique : ("@relation" == "@unique") = false := by decide
  rw [hasAttribute_columnAttributes (by decide) plain none,
    (shownDefault_of_oneLine oneLine).1, noId, noUnique, Option.isSome_none, Bool.false_and,
    Bool.false_and, Bool.false_or, Bool.false_or, Bool.and_false, Bool.or_false]
  cases columnDefault? format column with
  | none => exact (hasAttribute_nil (nonempty_of_mark (by decide))).symm
  | some text => rfl

/-- On a line that is cut, a relation is found before the cut only. -/
theorem hasRelation_of_cut (column : Column) (front : List Char) :
    hasAttribute "@relation"
        (trimEnd isBlank (leadingChars column ++ ("@default".toList ++ '(' :: front))) =
      hasAttribute "@relation" front := by
  obtain ⟨-, opens, -⟩ := separates_of_mark (by decide : "@relation" ∈ markNames)
  have noLeading : ∀ leading ∈ [[], "@id ".toList, "@unique ".toList],
      hasAttribute "@relation" (leading ++ "@default".toList) = false := by
    decide
  rw [hasAttribute_trimEnd (by decide), ← List.append_assoc,
    hasAttribute_append_cons (nonempty_of_mark (by decide)) opens,
    noLeading _ (leadingChars_mem column), Bool.false_or]

/-! ## The columns of a line -/

/-- Every line of a column declares the column, and after it the stray columns.
Unless its name has an at sign, it has the relation that is found in the shown
part of its default. -/
theorem columnsIn_columnLine_eq_cons {document : Document} {column : Column}
    (lined : LinedColumn column)
    (enumNames : ∀ enumeration ∈ document.enums, '\n' ∉ enumeration.name.toList) :
    ∃ first, columnsIn (columnLine document column none).toList =
        first :: strayColumns document.format column ∧
      first.name = identifier column.name ∧
      first.typeToken = typeName document column ∧
      first.isList = column.isList ∧
      ('@' ∉ column.name.toList →
        hasRelation first.constraints =
          hasAttribute "@relation" (shownDefault document.format column)) := by
  have list : (modifierOf column == .list) = column.isList := by
    unfold modifierOf
    cases column.isList <;> cases column.nullable <;> cases column.primaryKey <;> decide
  by_cases oneLine : ∀ text ∈ columnDefault? document.format column, ∀ c ∈ text.toList,
      isLineBoundary c = false
  · have noKey : ∀ key ∈ (none : Option ForeignKey), PlainKey key := by simp
    rw [columnsIn_columnLine lined enumNames noKey oneLine,
      strayColumns_of_hidden (shownDefault_of_oneLine oneLine).2]
    refine ⟨_, rfl, String.ofList_toList, String.ofList_toList, list, fun plain => ?_⟩
    rw [readColumn_constraints, hasRelation, String.toList_ofList,
      hasRelation_of_oneLine plain oneLine]
  · obtain ⟨text, lostText⟩ := Classical.not_forall.mp oneLine
    obtain ⟨written, notOneLine⟩ := Classical.not_imp.mp lostText
    obtain ⟨c, member, cuts⟩ : ∃ c ∈ text.toList, isLineBoundary c = true := by
      simpa using notOneLine
    obtain ⟨front, boundary, back, spelled, boundaryCuts, frontOneLine⟩ := exists_first member cuts
    have read := columnsIn_columnLine_of_cut lined enumNames (Option.mem_def.mp written) spelled
      boundaryCuts frontOneLine none
    obtain ⟨shown, hidden⟩ := shownDefault_of_cut (Option.mem_def.mp written) spelled boundaryCuts
      frontOneLine
    rw [read]
    unfold strayColumns
    rw [hidden]
    refine ⟨_, rfl, String.ofList_toList, String.ofList_toList, list, fun _ => ?_⟩
    rw [readColumn_constraints, hasRelation, String.toList_ofList, hasRelation_of_cut, shown]

/-- A default that is written without visible boundaries stays on its line. -/
theorem DefaultForm.oneLine {text : String} (form : DefaultForm text) (oneLine : OneLine text) :
    ∀ c ∈ text.toList, isLineBoundary c = false := by
  intro c member
  cases boundary : isLineBoundary c with
  | false => rfl
  | true =>
      have hidden := oneLine c member
      have signs : ∀ chars ∈ ["dbgenerated(", ")"], ∀ c ∈ chars.toList,
          isLineBoundary c = false := by
        decide
      have notSign {chars : String} (isSign : chars ∈ ["dbgenerated(", ")"])
          (inSign : c ∈ chars.toList) : False := by
        rw [signs chars isSign c inSign] at boundary
        contradiction
      cases form with
      | word isWord =>
          have words : ∀ word ∈ defaultWords, ∀ c ∈ word.toList, isLineBoundary c = false := by
            decide
          exact boundary.symm.trans (words text isWord c member)
      | number number =>
          rw [String.toList_ofList] at member
          have notBlank := (isDecimal_quiet (isDecimal_of_mem_number number member)).2
          rw [isBlank_of_isLineBoundary boundary] at notBlank
          contradiction
      | literal content =>
          rw [Json.toList_quote] at member
          exact absurd (mem_of_boundary_mem_quoteChars member boundary).2 hidden
      | call ends =>
          rw [String.toList_append, String.toList_append, Json.toList_quote] at member
          rcases List.mem_append.mp member with front | ended
          · rcases List.mem_append.mp front with opened | inLiteral
            · exact (notSign (by simp) opened).elim
            · exact absurd (mem_of_boundary_mem_quoteChars inLiteral boundary).2 hidden
          · exact (notSign (by simp) ended).elim

/-- A default that is written without visible boundaries is shown whole and has
no stray columns. -/
theorem shownDefault_of_visible {format : String} {column : Column}
    (visible : ∀ text ∈ columnDefault? format column, OneLine text) :
    shownDefault format column = ((columnDefault? format column).getD "").toList ∧
      hiddenDefault format column = [] :=
  shownDefault_of_oneLine fun text written =>
    (defaultForm_of_columnDefault? (Option.mem_def.mp written)).oneLine (visible text written)

/-- A default that is inert as it is written has no stray columns, and shows no
relation. -/
theorem strayColumns_of_inert {format : String} {column : Column}
    (inert : ∀ text ∈ columnDefault? format column, Inert text) :
    strayColumns format column = [] ∧
      hasAttribute "@relation" (shownDefault format column) = false := by
  obtain ⟨shown, hidden⟩ := shownDefault_of_visible fun text written =>
    (inert text written).oneLine
  refine ⟨strayColumns_of_hidden hidden, ?_⟩
  obtain ⟨letters, spelled⟩ := spelled_of_mark (by decide : "@relation" ∈ markNames)
  rw [shown]
  apply hasAttribute_of_notMem spelled
  cases written : columnDefault? format column with
  | none => simp
  | some text => exact (inert text written).atSign

end Crowsfoot.Dsl
