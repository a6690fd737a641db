import Crowsfoot.Proofs.Sql.Types

/-!
# Bodies and their definitions

The scan for the end of a body and the scan for its commas keep the same
account of quotes and parentheses.  A text *carries* both scans from one
account to another if neither ends or cuts inside it.  Names, lists and
literals carry them back to where they were, so a body is closed by the
parenthesis after it, and it is cut exactly between its definitions.
-/

namespace Crowsfoot.Sql

open Crowsfoot.Text

/-- Put a text before the first of some pieces. -/
def prependTo (text : List Char) : List (List Char) → List (List Char)
  | [] => [text]
  | piece :: later => (text ++ piece) :: later

theorem prependTo_append (front back : List Char) (pieces : List (List Char)) :
    prependTo (front ++ back) pieces = prependTo front (prependTo back pieces) := by
  cases pieces <;> simp [prependTo]

theorem topLevelPieces_ne_nil (nesting : Nesting) (text : List Char) :
    topLevelPieces nesting text ≠ [] := by
  cases text with
  | nil => simp [topLevelPieces]
  | cons c rest =>
      simp only [topLevelPieces]
      split
      · simp
      · split <;> simp

theorem prependTo_nil {pieces : List (List Char)} (nonempty : pieces ≠ []) :
    prependTo [] pieces = pieces := by
  cases pieces with
  | nil => contradiction
  | cons piece later => rfl

theorem topLevelPieces_cons (nesting : Nesting) (c : Char) (rest : List Char) :
    topLevelPieces nesting (c :: rest) =
      if nesting.separates c then [] :: topLevelPieces (nesting.next c) rest
      else prependTo [c] (topLevelPieces (nesting.next c) rest) := by
  rw [topLevelPieces]
  split
  · rename_i separates
    have same : nesting.next c = nesting := by
      simp only [Nesting.separates, Bool.and_eq_true, beq_iff_eq, Bool.not_eq_true'] at separates
      obtain ⟨⟨⟨rfl, outsideSingle⟩, outsideDouble⟩, -⟩ := separates
      simp [Nesting.next, outsideSingle, outsideDouble]
    rw [same]
  · cases topLevelPieces (nesting.next c) rest <;> rfl

/-- A text that means nothing where it stands lies in one piece. -/
theorem topLevelPieces_still {nesting : Nesting} {text : List Char}
    (still : ∀ c ∈ text, nesting.separates c = false ∧ nesting.next c = nesting)
    (rest : List Char) :
    topLevelPieces nesting (text ++ rest) = prependTo text (topLevelPieces nesting rest) := by
  induction text with
  | nil => exact (prependTo_nil (topLevelPieces_ne_nil _ _)).symm
  | cons c later ih =>
      rw [List.forall_mem_cons] at still
      obtain ⟨⟨whole, same⟩, laterStill⟩ := still
      rw [List.cons_append, topLevelPieces_cons, whole, same, ih laterStill]
      exact (prependTo_append [c] later _).symm

/-- The account of a scan outside double quotes. -/
def nestingAt (quoted : Bool) (depth : Nat) : Nesting :=
  ⟨quoted, false, depth⟩

/-- A text that both scans leave with a certain account, and neither ends nor
cuts. -/
structure Carries (quoted : Bool) (depth : Nat) (text : List Char) (quotedAfter : Bool)
    (depthAfter : Nat) : Prop where
  body : ∀ rest, splitBody quoted depth (text ++ rest) =
    (splitBody quotedAfter depthAfter rest).map fun (body, after) => (text ++ body, after)
  pieces : ∀ rest, topLevelPieces (nestingAt quoted depth) (text ++ rest) =
    prependTo text (topLevelPieces (nestingAt quotedAfter depthAfter) rest)

namespace Carries

variable {quoted middleQuoted quotedAfter : Bool} {depth middleDepth depthAfter : Nat}

theorem nil : Carries quoted depth [] quoted depth where
  body := by simp
  pieces rest := by
    cases found : topLevelPieces (nestingAt quoted depth) rest with
    | nil => exact absurd found (topLevelPieces_ne_nil _ _)
    | cons piece later => simp [prependTo, found]

theorem append {front back : List Char}
    (first : Carries quoted depth front middleQuoted middleDepth)
    (second : Carries middleQuoted middleDepth back quotedAfter depthAfter) :
    Carries quoted depth (front ++ back) quotedAfter depthAfter where
  body rest := by
    rw [List.append_assoc, first.body, second.body, Option.map_map]
    simp [Function.comp_def]
  pieces rest := by
    rw [List.append_assoc, first.pieces, second.pieces, prependTo_append]

/-- A character that neither closes the body nor separates definitions. -/
theorem char {c : Char}
    (continues : ∀ rest, splitBody quoted depth (c :: rest) =
      (splitBody quotedAfter depthAfter rest).map fun (body, after) => (c :: body, after))
    (whole : (nestingAt quoted depth).separates c = false)
    (next : (nestingAt quoted depth).next c = nestingAt quotedAfter depthAfter) :
    Carries quoted depth [c] quotedAfter depthAfter where
  body := continues
  pieces rest := by
    rw [List.singleton_append, topLevelPieces, whole, next]
    rfl

/-- Parts that all leave the account as it was do so together. -/
theorem flatMap {α : Type} {parts : List α} {chars : α → List Char}
    (each : ∀ part ∈ parts, Carries quoted depth (chars part) quoted depth) :
    Carries quoted depth (parts.flatMap chars) quoted depth :=
  flatMap_of_append (motive := fun text => Carries quoted depth text quoted depth) nil append each

theorem all {text : List Char} (each : ∀ c ∈ text, Carries quoted depth [c] quoted depth) :
    Carries quoted depth text quoted depth := by
  have split : text = text.flatMap fun c => [c] := by simp
  rw [split]
  exact flatMap each

end Carries

/-- A character that has no meaning to the scans outside quotes. -/
def isOrdinary (c : Char) : Bool :=
  c != '\x27' && c != '\x22' && c != '(' && c != ')' && c != ','

theorem isOrdinary_of_isWord {c : Char} (word : isWord c = true) : isOrdinary c = true := by
  simp only [isOrdinary, Bool.and_eq_true, bne_iff_ne, ne_eq]
  exact ⟨⟨⟨⟨ne_of_class word rfl, ne_of_class word rfl⟩, ne_of_class word rfl⟩,
    ne_of_class word rfl⟩, ne_of_class word rfl⟩

namespace Carries

variable {depth : Nat}

theorem ordinary {c : Char} (plain : isOrdinary c = true) :
    Carries false depth [c] false depth := by
  simp only [isOrdinary, Bool.and_eq_true, bne_iff_ne, ne_eq] at plain
  obtain ⟨⟨⟨⟨notSingle, notDouble⟩, notOpening⟩, notClosing⟩, notComma⟩ := plain
  apply char
  · simp [splitBody, notSingle, notOpening, notClosing]
  · simp [Nesting.separates, notComma]
  · simp [Nesting.next, nestingAt, notSingle, notDouble, notOpening, notClosing]

/-- A comma inside parentheses separates no definitions. -/
theorem innerComma : Carries false (depth + 1) [','] false (depth + 1) := by
  apply char
  · simp [splitBody]
  · simp [Nesting.separates, nestingAt]
    omega
  · simp [Nesting.next, nestingAt]

theorem opening : Carries false depth ['('] false (depth + 1) := by
  apply char <;> simp [splitBody, Nesting.separates, Nesting.next, nestingAt]

theorem closing : Carries false (depth + 1) [')'] false depth := by
  apply char <;> simp [splitBody, Nesting.separates, Nesting.next, nestingAt]

theorem openingQuote : Carries false depth ['\x27'] true depth := by
  apply char <;> simp [splitBody, Nesting.separates, Nesting.next, nestingAt]

theorem closingQuote : Carries true depth ['\x27'] false depth := by
  apply char <;> simp [splitBody, Nesting.separates, Nesting.next, nestingAt]

/-- Inside quotes nothing but the closing quote has a meaning. -/
theorem inQuotes {c : Char} (notQuote : c ≠ '\x27') : Carries true depth [c] true depth := by
  apply char <;> simp [splitBody, Nesting.separates, Nesting.next, nestingAt, notQuote]

end Carries

namespace Carries

variable {depth : Nat}

theorem plain {text : List Char} (ordinaryText : ∀ c ∈ text, isOrdinary c = true) :
    Carries false depth text false depth :=
  all fun c member => ordinary (ordinaryText c member)

theorem run {text : List Char} (isRun : IsRun text) : Carries false depth text false depth :=
  plain fun c member => isOrdinary_of_isWord (isRun.word c member)

/-- A list is carried over with its commas. -/
theorem listText {texts : List String} (runs : ∀ text ∈ texts, IsRun text.toList) :
    Carries false depth (listText texts).toList false depth := by
  have inside : Carries false (depth + 1) (joined ", " texts).toList false (depth + 1) := by
    apply all
    intro c member
    rcases mem_of_mem_joined member with inSeparator | ⟨text, textMember, inText⟩
    · rcases List.mem_cons.mp inSeparator with rfl | inBlank
      · exact innerComma
      · rw [List.mem_singleton.mp inBlank]
        exact ordinary rfl
    · exact ordinary (isOrdinary_of_isWord ((runs text textMember).word c inText))
  rw [toList_listText]
  exact opening.append (inside.append closing)

theorem optionalListText {texts : List String} (runs : ∀ text ∈ texts, IsRun text.toList) :
    Carries false depth (optionalListText texts).toList false depth := by
  rw [Sql.optionalListText]
  split
  · exact nil
  · exact listText runs

theorem defaultValue (value : DefaultValue) :
    Carries false depth value.text.toList false depth := by
  cases value with
  | integer number =>
      obtain ⟨n, unsigned | signed⟩ := toList_toString_int number
      · rw [DefaultValue.text, unsigned]
        exact run (run_toString n)
      · rw [DefaultValue.text, signed]
        exact (ordinary rfl).append (run (run_toString n))
  | literal content unquoted =>
      have inside : Carries true depth content.toList true depth :=
        all fun c member => inQuotes fun same => unquoted (same ▸ member)
      rw [DefaultValue.toList_literal]
      exact openingQuote.append (inside.append closingQuote)

theorem clause (clause : Clause) : Carries false depth clause.text.toList false depth := by
  cases clause with
  | notNull => exact plain (by decide)
  | primaryKey => exact plain (by decide)
  | unique => exact plain (by decide)
  | default value =>
      rw [Clause.toList_default]
      exact (plain (by decide)).append ((ordinary rfl).append (defaultValue value))
  | references table columns =>
      rw [Clause.toList_references]
      exact (plain (by decide)).append ((ordinary rfl).append
        ((run table.run).append (optionalListText (runs_names columns))))

theorem type (type : TypeName) : Carries false depth type.text.toList false depth := by
  rw [type.toList_text]
  exact (run type.run_word).append (optionalListText type.runs_parameters)

end Carries

theorem Carries.column (column : ColumnDefinition) :
    Carries false 0 column.text.toList false 0 := by
  have clauses : Carries false 0 (tailText column.clauses) false 0 :=
    flatMap fun clause _ => (ordinary rfl).append (Carries.clause clause)
  rw [column.toList_text]
  exact (run column.name.run).append ((ordinary rfl).append ((type column.type).append clauses))

theorem Carries.declaration (declaration : Declaration) :
    Carries false 0 declaration.text.toList false 0 := by
  cases declaration with
  | column definition => exact column definition
  | foreignKey name? columns table refColumns =>
      have named : Carries false 0 (Declaration.constraintText name?).toList false 0 := by
        cases name? with
        | none => exact nil
        | some name =>
            rw [Declaration.constraintText, String.toList_append, String.toList_append]
            exact ((plain (by decide)).append (run name.run)).append (plain (by decide))
      rw [Declaration.toList_foreignKey]
      exact named.append ((plain (by decide)).append
        ((listText (runs_names columns)).append ((ordinary rfl).append (clause _))))
  | primaryKey columns =>
      rw [Declaration.text, String.toList_append]
      exact (plain (by decide)).append (listText (runs_names columns))
  | unique columns =>
      rw [Declaration.text, String.toList_append]
      exact (plain (by decide)).append (listText (runs_names columns))

/-! ## Cutting and closing bodies -/

/-- A definition neither begins nor ends with a blank. -/
theorem Declaration.solid (declaration : Declaration) :
    Solid declaration.text.toList ∧ declaration.text.toList ≠ [] := by
  cases declaration with
  | column definition =>
      have parts : ∀ text ∈ definition.name.name :: definition.type.text ::
          definition.clauses.map Clause.text, Solid text.toList ∧ text.toList ≠ [] := by
        rw [List.forall_mem_cons, List.forall_mem_cons, List.forall_mem_map]
        refine ⟨⟨definition.name.run.solid, definition.name.run.nonempty⟩, ⟨?_, ?_⟩, ?_⟩
        · rw [definition.type.toList_text]
          exact solid_optionalListText definition.type.run_word.solid
            definition.type.run_word.nonempty _
        · simp [definition.type.toList_text, definition.type.run_word.nonempty]
        · exact fun clause _ => ⟨clause.solid, clause.nonempty⟩
      refine ⟨Solid.joined parts, ?_⟩
      change definition.text.toList ≠ []
      rw [definition.toList_text]
      simp
  | foreignKey name? columns table refColumns =>
      have reference := (Clause.references table refColumns).solid.last
      have front : Stops isBlank ((constraintText name?).toList ++ "FOREIGN KEY ".toList) := by
        cases name? with
        | none => exact stops_cons_iff.mpr rfl
        | some name =>
            rw [constraintText, String.toList_append, String.toList_append]
            exact stops_cons_iff.mpr rfl
      have split : (foreignKey name? columns table refColumns).text.toList =
          ((constraintText name?).toList ++ "FOREIGN KEY ".toList) ++
            (((listText (columns.map PlainName.name)).toList ++ [' ']) ++
              (Clause.references table refColumns).text.toList) := by
        simp [toList_foreignKey]
      have nonempty : (Clause.references table refColumns).text.toList ≠ [] := by
        simp [Clause.toList_references]
      rw [split]
      exact ⟨Solid.append front (stops_reverse_append reference nonempty _) (by simp)
        (by simp), by simp⟩
  | primaryKey columns =>
      obtain ⟨list, nonempty⟩ := solid_listText (columns.map PlainName.name)
      rw [text, String.toList_append]
      exact ⟨Solid.append (stops_cons_iff.mpr rfl) list.last (by simp) nonempty, by simp⟩
  | unique columns =>
      obtain ⟨list, nonempty⟩ := solid_listText (columns.map PlainName.name)
      rw [text, String.toList_append]
      exact ⟨Solid.append (stops_cons_iff.mpr rfl) list.last (by simp) nonempty, by simp⟩

/-- A text that the scan for the end of a body runs through. -/
def IsClosed (text : List Char) : Prop :=
  ∀ rest, splitBody false 0 (text ++ rest) =
    (splitBody false 0 rest).map fun (body, after) => (text ++ body, after)

/-- A text that the scan for commas leaves in one piece. -/
def IsWhole (text : List Char) : Prop :=
  ∀ rest, topLevelPieces .top (text ++ rest) = prependTo text (topLevelPieces .top rest)

theorem Carries.isClosed {text : List Char} (carries : Carries false 0 text false 0) :
    IsClosed text :=
  carries.body

theorem Carries.isWhole {text : List Char} (carries : Carries false 0 text false 0) :
    IsWhole text :=
  carries.pieces

/-- The scan runs through what is neither a quote nor a parenthesis. -/
theorem isClosed_of_plain {text : List Char}
    (plain : ∀ c ∈ text, c ≠ '\x27' ∧ c ≠ '(' ∧ c ≠ ')') : IsClosed text := by
  intro rest
  induction text with
  | nil => simp
  | cons c later ih =>
      rw [List.forall_mem_cons] at plain
      obtain ⟨⟨notQuote, notOpening, notClosing⟩, others⟩ := plain
      simp [splitBody, notQuote, notOpening, notClosing, ih others, Function.comp_def]

theorem IsWhole.append {front back : List Char} (first : IsWhole front) (second : IsWhole back) :
    IsWhole (front ++ back) := by
  intro rest
  rw [List.append_assoc, first, second, prependTo_append]

/-- Double quotes hide what stands between them. -/
theorem isWhole_quoted {name : List Char} (unquoted : '\x22' ∉ name) :
    IsWhole ('\x22' :: (name ++ ['\x22'])) := by
  intro rest
  let inside : Nesting := ⟨false, true, 0⟩
  have still : ∀ c ∈ name, inside.separates c = false ∧ inside.next c = inside := by
    intro c member
    have other : c ≠ '\x22' := fun same => unquoted (same ▸ member)
    simp [inside, Nesting.separates, Nesting.next, other]
  have opens (rest : List Char) : topLevelPieces .top ('\x22' :: rest) =
      prependTo ['\x22'] (topLevelPieces inside rest) :=
    topLevelPieces_cons _ _ _
  have closes : topLevelPieces inside ('\x22' :: rest) =
      prependTo ['\x22'] (topLevelPieces .top rest) :=
    topLevelPieces_cons _ _ _
  rw [List.cons_append, List.append_assoc, List.singleton_append, opens,
    topLevelPieces_still still, closes, ← prependTo_append, ← prependTo_append]
  rfl

/-- A comma ends a definition, which loses the blanks at its ends. -/
theorem definitions_comma {text : List Char} (whole : IsWhole text) (nonblank : strip text ≠ [])
    (rest : List Char) : definitions (text ++ ',' :: rest) = strip text :: definitions rest := by
  have cut : topLevelPieces .top (',' :: rest) = [] :: topLevelPieces .top rest :=
    topLevelPieces_cons _ _ _
  rw [definitions, whole, cut]
  simp [prependTo, definitions, nonblank]

theorem definitions_whole {text : List Char} (whole : IsWhole text) (nonblank : strip text ≠ []) :
    definitions text = [strip text] := by
  have pieces := whole []
  rw [List.append_nil] at pieces
  rw [definitions, pieces]
  simp [prependTo, topLevelPieces, nonblank]

/-- Blanks in front of a definition do not count. -/
theorem definitions_blanks {gap : List Char} (blank : ∀ c ∈ gap, isBlank c = true)
    (rest : List Char) : definitions (gap ++ rest) = definitions rest := by
  have still : ∀ c ∈ gap, Nesting.top.separates c = false ∧ Nesting.top.next c = .top := by
    intro c member
    have other : ∀ sign ∈ [',', '\x27', '\x22', '(', ')'], c ≠ sign := by
      intro sign isSign
      have solid : ∀ sign ∈ [',', '\x27', '\x22', '(', ')'], isBlank sign = false := by decide
      exact ne_of_class (blank c member) (solid sign isSign)
    simp only [List.forall_mem_cons] at other
    simp [Nesting.top, Nesting.separates, Nesting.next, other]
  obtain ⟨piece, later, pieces⟩ := List.exists_cons_of_ne_nil (topLevelPieces_ne_nil .top rest)
  rw [definitions, definitions, topLevelPieces_still still, pieces, prependTo, List.map_cons,
    List.map_cons, strip_append_of_blank blank]

/-- A body is cut exactly between its definitions. -/
theorem definitions_joined (gap : String) (blank : ∀ c ∈ gap.toList, isBlank c = true)
    {texts : List String} (each : ∀ text ∈ texts, IsWhole text.toList ∧ strip text.toList ≠ []) :
    definitions (joined ("," ++ gap) texts).toList = texts.map fun text => strip text.toList := by
  induction texts with
  | nil => rfl
  | cons first later ih =>
      rw [List.forall_mem_cons] at each
      obtain ⟨⟨whole, nonblank⟩, others⟩ := each
      cases later with
      | nil => exact definitions_whole whole nonblank
      | cons next more =>
          have spelled : (joined ("," ++ gap) (first :: next :: more)).toList = first.toList ++
              ',' :: (gap.toList ++ (joined ("," ++ gap) (next :: more)).toList) := by
            simp [joined]
          rw [spelled, definitions_comma whole nonblank, definitions_blanks blank, ih others]
          rfl

/-- A body of definitions without blanks at their ends is cut into just these. -/
theorem definitions_solid {α : Type} {text : α → String} (parts : List α)
    (whole : ∀ part, IsWhole (text part).toList)
    (solid : ∀ part, Solid (text part).toList ∧ (text part).toList ≠ []) :
    definitions (joined ", " (parts.map text)).toList =
      parts.map fun part => (text part).toList := by
  have stripped (part : α) : strip (text part).toList = (text part).toList :=
    strip_of_solid (solid part).1
  have each : ∀ piece ∈ parts.map text, IsWhole piece.toList ∧ strip piece.toList ≠ [] := by
    rw [List.forall_mem_map]
    intro part _
    rw [stripped]
    exact ⟨whole part, (solid part).2⟩
  have cut := definitions_joined " " (by decide) each
  rw [List.map_map] at cut
  exact cut.trans (List.map_congr_left fun part _ => stripped part)

/-- A body reaches up to the parenthesis behind its last definition. -/
theorem splitBody_joined {separator : String} (separates : IsClosed separator.toList)
    {texts : List String} (each : ∀ text ∈ texts, IsClosed text.toList) (after : List Char) :
    splitBody false 0 ((joined separator texts).toList ++ ')' :: after) =
      some ((joined separator texts).toList, after) := by
  induction texts with
  | nil => rfl
  | cons first later ih =>
      rw [List.forall_mem_cons] at each
      cases later with
      | nil => exact (each.1 (')' :: after)).trans (by simp [splitBody, joined])
      | cons next more =>
          have spelled : (joined separator (first :: next :: more)).toList =
              first.toList ++ (separator.toList ++ (joined separator (next :: more)).toList) := by
            simp [joined]
          rw [spelled, List.append_assoc, List.append_assoc, each.1, separates, ih each.2]
          rfl

end Crowsfoot.Sql
