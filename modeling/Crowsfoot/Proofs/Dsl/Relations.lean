import Crowsfoot.Proofs.Dsl.Attributes

/-!
# Reading written relations

The attribute of a foreign key names its columns and the columns that it
references in two lists.  Both are read back in order, each name as its
identifier.
-/

namespace Crowsfoot.Dsl

open Crowsfoot.Text

/-- The keys of the lists of a relation. -/
def relationKeys : List String :=
  ["fields", "references"]

/-- No list begins in a text in which a colon or a bracket is missing, up to a
sign behind it. -/
theorem bracketed?_append_sign {key : String} (isKey : key ∈ relationKeys) {sign : Char}
    (closes : sign ∈ ['(', ')', ']']) {text : List Char} (quiet : ':' ∉ text ∨ '[' ∉ text)
    (rest : List Char) : bracketed? key (text ++ sign :: rest) = none := by
  have apart : ∀ key ∈ relationKeys, ∀ sign ∈ ['(', ')', ']'],
      sign ∉ key.toList ∧ isBlank sign = false ∧ sign ≠ ':' ∧ sign ≠ '[' := by
    decide
  obtain ⟨notInKey, notBlank, notColon, notOpen⟩ := apart key isKey sign closes
  simp only [bracketed?, literal?_append_cons notInKey, Option.bind_eq_bind]
  cases read : literal? key.toList text with
  | none => rfl
  | some behind =>
      have whole := literal?_eq_some_iff.mp read
      simp only [Option.map_some, Option.bind_some]
      split
      · rename_i afterColon colonFound
        obtain ⟨later, rfl, fromColon⟩ :=
          suffix_of_skipBlanks notBlank colonFound notColon.symm
        split
        · rename_i names openFound
          obtain ⟨more, -, fromOpen⟩ := suffix_of_skipBlanks notBlank openFound notOpen.symm
          have colon : ':' ∈ text := by
            rw [whole]
            exact List.mem_append_right _ (fromColon.subset List.mem_cons_self)
          have opens : '[' ∈ text := by
            rw [whole]
            have inLater := fromOpen.subset List.mem_cons_self
            exact List.mem_append_right _ (fromColon.subset (List.mem_cons_of_mem _ inLater))
          exact quiet.elim (absurd colon) (absurd opens)
        · rfl
      · rfl

/-- The search for a list passes such a text with the sign. -/
theorem passes_bracketed {key : String} (isKey : key ∈ relationKeys) {sign : Char}
    (closes : sign ∈ ['(', ')', ']']) {text : List Char} (quiet : ':' ∉ text ∨ '[' ∉ text) :
    Passes (bracketed? key) (text ++ [sign]) := by
  induction text with
  | nil =>
      apply Passes.cons _ Passes.nil
      intro rest
      have noColon : ':' ∉ ([] : List Char) ∨ '[' ∉ ([] : List Char) := .inl (by simp)
      exact bracketed?_append_sign isKey closes noColon rest
  | cons c later ih =>
      have quietLater : ':' ∉ later ∨ '[' ∉ later :=
        quiet.imp (fun absent member => absent (List.mem_cons_of_mem _ member))
          (fun absent member => absent (List.mem_cons_of_mem _ member))
      apply Passes.cons _ (ih quietLater)
      intro rest
      have here := bracketed?_append_sign isKey closes quiet rest
      simpa using here

/-- A list is looked for behind text that the search passes. -/
theorem namesOf_append {key : String} {front : List Char} (passes : Passes (bracketed? key) front)
    (back : List Char) : namesOf key (front ++ back) = namesOf key back := by
  rw [namesOf, passes]
  rfl

/-! ## Lists of names -/

/-- A blank in front does not matter to the pieces of a text. -/
theorem strippedPieces_cons_of_blank {isSeparator : Char → Bool} {c : Char}
    (blank : isBlank c = true) (inside : isSeparator c = false) (text : List Char) :
    strippedPieces isSeparator (c :: text) = strippedPieces isSeparator text := by
  have stripped (piece : List Char) : strip (c :: piece) = strip piece :=
    strip_append_of_blank (by simpa using blank : ∀ d ∈ [c], isBlank d = true) piece
  rw [strippedPieces, strippedPieces, pieces, if_neg (by simp [inside])]
  cases parts : pieces isSeparator text with
  | nil => exact absurd parts (pieces_ne_nil _ _)
  | cons piece later => simp only [List.map_cons, stripped]

/-- A list of names is read back as their identifiers. -/
theorem strippedPieces_nameList {names : List String}
    (oneLine : ∀ name ∈ names, '\n' ∉ name.toList) :
    strippedPieces (· == ',') (nameList names).toList =
      names.map fun name => (identifier name).toList := by
  have alone (name : String) (nameOneLine : '\n' ∉ name.toList) :
      strippedPieces (· == ',') (identifier name).toList = [(identifier name).toList] := by
    have isName := isName_identifier nameOneLine
    have solid : Solid (identifier name).toList :=
      solid_of_notBlank fun c member => isBlank_of_isWord (isName.word c member)
    have noComma : ∀ c ∈ (identifier name).toList, (c == ',') = false := by
      intro c member
      rw [beq_eq_false_iff_ne]
      exact ne_of_class (isName.word c member) rfl
    have nonempty : strip (identifier name).toList ≠ [] := by
      rw [strip_of_solid solid]
      exact isName.nonempty
    rw [strippedPieces_of_none nonempty noComma, strip_of_solid solid]
  cases names with
  | nil => rfl
  | cons first later =>
      rw [nameList, List.map_cons, toList_joined_cons]
      induction later generalizing first with
      | nil =>
          rw [List.map_nil, List.flatMap_nil, List.append_nil]
          exact alone first (oneLine first List.mem_cons_self)
      | cons next more ih =>
          have laterPieces := ih next fun name member =>
            oneLine name (List.mem_cons_of_mem _ member)
          have shape : (List.map identifier (next :: more)).flatMap
              (fun text => ", ".toList ++ text.toList) =
              ',' :: ' ' :: ((identifier next).toList ++
                (more.map identifier).flatMap fun text => ", ".toList ++ text.toList) := by
            simp
          rw [shape, strippedPieces_append_cons rfl, alone first (oneLine first List.mem_cons_self),
            strippedPieces_cons_of_blank rfl rfl, laterPieces]
          rfl

/-- The names between the brackets behind a key are read. -/
theorem namesOf_list (key : String) {names : List String}
    (oneLine : ∀ name ∈ names, '\n' ∉ name.toList) (rest : List Char) :
    namesOf key (key.toList ++ ": [".toList ++ ((nameList names).toList ++ ']' :: rest)) =
      names.map identifier := by
  have inside : upTo? ']' ((nameList names).toList ++ ']' :: rest) =
      some ((nameList names).toList, rest) :=
    upTo?_append (notMem_nameList rfl (by decide) names) rest
  have read :
      bracketed? key (key.toList ++ ": [".toList ++ ((nameList names).toList ++ ']' :: rest)) =
        some (nameList names).toList := by
    have colon : skipBlanks (": [".toList ++ ((nameList names).toList ++ ']' :: rest)) =
        ':' :: ' ' :: '[' :: ((nameList names).toList ++ ']' :: rest) :=
      rfl
    have bracket : skipBlanks (' ' :: '[' :: ((nameList names).toList ++ ']' :: rest)) =
        '[' :: ((nameList names).toList ++ ']' :: rest) :=
      rfl
    rw [bracketed?, List.append_assoc, literal?_append, Option.bind_eq_bind, Option.bind_some]
    simp only [colon, bracket, inside, Option.bind_eq_bind, Option.bind_some, Option.pure_def]
  rw [namesOf, find?_of_some read]
  simp only [strippedPieces_nameList oneLine, List.map_map, Function.comp_def,
    String.ofList_toList]

/-- The columns and the references of a foreign key are read back. -/
theorem relationColumns_relationAttribute {key : ForeignKey}
    (columns : ∀ name ∈ key.columns, '\n' ∉ name.toList)
    (references : ∀ name ∈ key.refColumns, '\n' ∉ name.toList) :
    relationColumns (relationAttribute key) =
      (key.columns.map identifier, key.refColumns.map identifier) := by
  have spelled : (relationAttribute key).toList = ("@relation".toList ++ ['(']) ++
      ("fields".toList ++ ": [".toList ++ ((nameList key.columns).toList ++
        ']' :: (", ".toList ++ ("references".toList ++ ": [".toList ++
          ((nameList key.refColumns).toList ++ ']' :: [')']))))) := by
    unfold relationAttribute
    simp
  have relation : hasRelation (relationAttribute key) = true :=
    hasAttribute_relation (by decide) key
  have passesMark (key : String) (isKey : key ∈ relationKeys) :
      Passes (bracketed? key) ("@relation".toList ++ ['(']) :=
    passes_bracketed isKey (by decide) (.inl (by decide))
  have passesOther (text : List Char) (absent : 'r' ∉ text) :
      Passes (bracketed? "references") text := by
    apply Passes.of_notMem _ absent
    intro c rest other
    simp [bracketed?, literal?, other]
  have passesColumns : Passes (bracketed? "references") ("fields".toList ++ ": [".toList ++
      (((nameList key.columns).toList ++ [']']) ++ ", ".toList)) := by
    apply Passes.append (passesOther _ (by decide))
    apply Passes.append _ (passesOther _ (by decide))
    exact passes_bracketed (by decide) (by decide) (.inl (notMem_nameList rfl (by decide) _))
  have behind : (relationAttribute key).toList = ("@relation".toList ++ ['(']) ++
      (("fields".toList ++ ": [".toList ++ (((nameList key.columns).toList ++ [']']) ++
        ", ".toList)) ++ ("references".toList ++ ": [".toList ++
          ((nameList key.refColumns).toList ++ ']' :: [')']))) := by
    rw [spelled]
    simp only [List.append_assoc, List.cons_append, List.nil_append]
  have fieldNames :
      namesOf "fields" (relationAttribute key).toList = key.columns.map identifier := by
    rw [spelled, namesOf_append (passesMark _ (by decide)), namesOf_list _ columns]
  have referenceNames : namesOf "references" (relationAttribute key).toList =
      key.refColumns.map identifier := by
    rw [behind, namesOf_append (passesMark _ (by decide)), namesOf_append passesColumns,
      namesOf_list _ references]
  rw [relationColumns, relation, if_pos rfl, fieldNames, referenceNames]

end Crowsfoot.Dsl
