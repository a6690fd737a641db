import Crowsfoot.Proofs.Dsl.QuotedContents
import Crowsfoot.Proofs.Dsl.ShownLines
import Mathlib.Data.List.Chain

/-!
# Lines of one column

The names of a foreign key may keep line feeds, and a line feed cuts the line of
the column that carries the key.  But a comma or a bracket stands behind each of
them, and a line that begins with such a sign declares no column.  So a column
whose default stays on its line is the only one that its line declares.
-/

namespace Crowsfoot.Dsl

open Crowsfoot.Text

/-- A sign that is no blank and begins no name. -/
structure IsSign (c : Char) : Prop where
  notBlank : isBlank c = false
  notWord : isWord c = false

/-- A text in which a sign stands behind every line boundary, unless the text
ends there. -/
def Guarded (text : List Char) : Prop :=
  text.IsChain fun c next => isLineBoundary c = true → IsSign next

theorem guarded_of_oneLine {text : List Char} (oneLine : ∀ c ∈ text, isLineBoundary c = false) :
    Guarded text := by
  induction text with
  | nil => exact List.isChain_nil
  | cons c rest ih =>
      rw [List.forall_mem_cons] at oneLine
      refine List.isChain_cons.mpr ⟨fun next _ cuts => ?_, ih oneLine.2⟩
      rw [oneLine.1] at cuts
      contradiction

theorem oneLine_getLast? {text : List Char} (oneLine : ∀ c ∈ text, isLineBoundary c = false) :
    ∀ c ∈ text.getLast?, isLineBoundary c = false :=
  fun c last => oneLine c (List.mem_of_getLast? last)

/-- Two texts, if the first does not end in a line boundary or the second
begins with a sign. -/
theorem Guarded.append {front back : List Char} (first : Guarded front) (second : Guarded back)
    (seam : (∀ c ∈ front.getLast?, isLineBoundary c = false) ∨ ∀ c ∈ back.head?, IsSign c) :
    Guarded (front ++ back) := by
  refine List.isChain_append.mpr ⟨first, second, fun c last next head cuts => ?_⟩
  rcases seam with ends | begins
  · rw [ends c last] at cuts
    contradiction
  · exact begins next head

/-- Texts that are guarded with the separator behind them are guarded where they
are joined. -/
theorem Guarded.joined {separator : String} {texts : List String}
    (nonempty : separator.toList ≠ [])
    (oneLine : ∀ c ∈ separator.toList, isLineBoundary c = false)
    (each : ∀ text ∈ texts, Guarded (text.toList ++ separator.toList)) :
    Guarded (joined separator texts).toList := by
  fun_induction Text.joined separator texts with
  | case1 => exact List.isChain_nil
  | case2 text => exact (each text List.mem_cons_self).left_of_append
  | case3 text next later ih =>
      rw [List.forall_mem_cons] at each
      rw [String.toList_append, String.toList_append]
      refine each.1.append (ih each.2) (.inl ?_)
      rw [List.getLast?_append_of_ne_nil _ nonempty]
      exact oneLine_getLast? oneLine

/-- Nothing that stands behind a guarded line boundary declares a column. -/
theorem columnsBehind_of_guarded {text : List Char} (guarded : Guarded text) :
    columnsBehind text = [] := by
  induction length : text.length using Nat.strong_induction_on generalizing text with
  | _ n ih =>
      have stops := stops_dropWhile (!isLineBoundary ·) text
      have isEnd := List.dropWhile_suffix (!isLineBoundary ·) (l := text)
      rw [columnsBehind]
      cases hidden : text.dropWhile (!isLineBoundary ·) with
      | nil => rfl
      | cons boundary behind =>
          rw [hidden] at stops isEnd
          have cuts : isLineBoundary boundary = true := by
            simpa using stops_cons_iff.mp stops
          cases behind with
          | nil => rfl
          | cons sign rest =>
              obtain ⟨guards, restGuarded⟩ := List.isChain_cons_cons.mp (guarded.suffix isEnd)
              have isSign := guards cuts
              have signOneLine := isLineBoundary_of_notBlank isSign.notBlank
              have shown : columnsIn (shownPart (sign :: rest)) = [] := by
                rw [shownPart_cons signOneLine]
                apply columnsIn_of_sign [] (by simp) isSign.notBlank isSign.notWord
                rw [← shownPart_cons signOneLine]
                exact oneLine_shownPart _
              have shorter : (sign :: rest).length < n := by
                have bound := isEnd.length_le
                rw [List.length_cons, length] at bound
                omega
              rw [List.drop_one, List.tail_cons, columnsIn_eq_append, shown,
                ih _ shorter restGuarded rfl]
              rfl

/-! ## Attributes -/

/-- An identifier has a line boundary at its end only. -/
theorem guarded_identifier (name : String) : Guarded (identifier name).toList := by
  have oneLine : ∀ c ∈ withoutFinalLineFeed (identifierChars name.toList),
      isLineBoundary c = false := fun c member =>
    isLineBoundary_of_isWord ((isName_identifierChars name.toList).word c member)
  rw [toList_identifier]
  rcases withoutFinalLineFeed_cases (identifierChars name.toList) with same | ended
  · rw [same]
    exact guarded_of_oneLine oneLine
  · rw [ended]
    exact (guarded_of_oneLine oneLine).append (List.isChain_singleton _)
      (.inl (oneLine_getLast? oneLine))

theorem isSign_comma : IsSign ',' :=
  ⟨rfl, rfl⟩

theorem isSign_bracket : IsSign ']' :=
  ⟨rfl, rfl⟩

theorem guarded_nameList (names : List String) : Guarded (nameList names).toList := by
  refine Guarded.joined (by decide) (by decide) fun text member => ?_
  obtain ⟨name, -, rfl⟩ := List.mem_map.mp member
  refine (guarded_identifier name).append (guarded_of_oneLine (by decide)) (.inr fun c begins => ?_)
  obtain rfl : ',' = c := Option.some.inj begins
  exact isSign_comma

/-- A comma or a bracket stands behind every name of a foreign key. -/
theorem guarded_relationAttribute (key : ForeignKey) :
    Guarded (relationAttribute key).toList := by
  have opened : ∀ c ∈ "@relation(fields: [".toList, isLineBoundary c = false := by
    decide +kernel
  have between : ∀ c ∈ "], references: [".toList, isLineBoundary c = false := by
    decide +kernel
  have ended : Guarded "])".toList := guarded_of_oneLine (by decide)
  have bracket {front : List Char} (begins : front.head? = some ']') (rest : List Char) :
      ∀ c ∈ (front ++ rest).head?, IsSign c := by
    obtain ⟨later, rfl⟩ := List.head?_eq_some_iff.mp begins
    rintro c head
    obtain rfl : ']' = c := Option.some.inj head
    exact isSign_bracket
  have lastBegins := bracket (by decide : "])".toList.head? = some ']') []
  rw [List.append_nil] at lastBegins
  have references := (guarded_nameList key.refColumns).append ended (.inr lastBegins)
  have middleBegins := bracket (by decide +kernel : "], references: [".toList.head? = some ']')
    ((nameList key.refColumns).toList ++ "])".toList)
  have later := (guarded_of_oneLine between).append references
    (.inl (oneLine_getLast? between))
  have columns := (guarded_nameList key.columns).append later (.inr middleBegins)
  unfold relationAttribute
  simp only [String.toList_append, List.append_assoc]
  exact (guarded_of_oneLine opened).append columns (.inl (oneLine_getLast? opened))

section Column

variable {document : Document} {column : Column} (lined : LinedColumn column)
  (default : ∀ text ∈ columnDefault? document.format column,
    ∀ c ∈ text.toList, isLineBoundary c = false)
include lined default

theorem guarded_columnAttribute {key? : Option ForeignKey} {text : String}
    (member : text ∈ columnAttributes document.format column key?) : Guarded text.toList := by
  have marks : ∀ text ∈ ["@id", "@unique", "@default(", ")", "@"],
      ∀ c ∈ text.toList, isLineBoundary c = false := by
    decide
  simp only [columnAttributes, List.mem_append, List.mem_map, Option.mem_toList] at member
  rcases member with (((id | unique) | ⟨text, written, rfl⟩) | ⟨key, -, rfl⟩) | map
  · split at id
    · rw [List.mem_singleton.mp id]
      exact guarded_of_oneLine (marks _ (by simp))
    · contradiction
  · split at unique
    · rw [List.mem_singleton.mp unique]
      exact guarded_of_oneLine (marks _ (by simp))
    · contradiction
  · apply guarded_of_oneLine
    intro c inPart
    simp only [String.toList_append, List.mem_append] at inPart
    rcases inPart with (opened | inText) | ended
    · exact marks _ (by simp) c opened
    · exact default text written c inText
    · exact marks _ (by simp) c ended
  · exact guarded_relationAttribute key
  · split at map
    · rw [List.mem_singleton.mp map]
      exact guarded_of_oneLine (mapAttribute_oneLine (marks _ (by simp)) lined.oneLine)
    · contradiction

theorem guarded_columnAttributes (key? : Option ForeignKey) :
    Guarded (joined " " (columnAttributes document.format column key?)).toList := by
  refine Guarded.joined (by decide) (by decide) fun text member => ?_
  obtain ⟨solid, -⟩ := solid_of_mem_columnAttributes member
  -- An attribute ends in something solid, which is no line boundary.
  refine (guarded_columnAttribute lined default member).append (guarded_of_oneLine (by decide))
    (.inl fun c last => isLineBoundary_of_notBlank (solid.last c ?_))
  rwa [List.head?_reverse]

/-- The line of a column declares this column and no other. -/
theorem exists_columnsIn_columnLine
    (enumNames : ∀ enumeration ∈ document.enums, '\n' ∉ enumeration.name.toList)
    (key? : Option ForeignKey) :
    ∃ attributes, columnsIn (columnLine document column key?).toList =
      [readColumn (identifier column.name).toList (typeName document column).toList
        (modifierOf column) attributes] := by
  have nameIsName := isName_identifier lined.name
  have typeIsName := isName_typeName enumNames lined.type
  have front := fieldFront_oneLine nameIsName typeIsName (modifierOf column)
  have line : (columnLine document column key?).toList =
      fieldChars (identifier column.name).toList (typeName document column).toList
        (modifierOf column) (columnAttributes document.format column key?) :=
    toList_columnLine document column key?
  have guarded : Guarded (fieldChars (identifier column.name).toList
      (typeName document column).toList (modifierOf column)
        (columnAttributes document.format column key?)) := by
    have attributes := guarded_columnAttributes lined default key?
    have spaced : Guarded
        (if (columnAttributes document.format column key?).isEmpty then []
        else [' '] ++ (joined " " (columnAttributes document.format column key?)).toList) := by
      split
      · exact List.isChain_nil
      · have blank : ∀ c ∈ [' '], isLineBoundary c = false := by decide
        exact (guarded_of_oneLine blank).append attributes (.inl (oneLine_getLast? blank))
    have whole := (guarded_of_oneLine front).append spaced (.inl (oneLine_getLast? front))
    simpa [fieldChars] using whole
  rw [line, columnsIn_fieldChars nameIsName typeIsName _
    fun text member => solid_of_mem_columnAttributes member, columnsBehind_of_guarded guarded]
  exact ⟨_, rfl⟩

end Column

end Crowsfoot.Dsl
