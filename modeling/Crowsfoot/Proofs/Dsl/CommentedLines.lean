import Crowsfoot.Proofs.Dsl.BlockGrammar
import Crowsfoot.Proofs.Dsl.Fields
import Crowsfoot.Proofs.Dsl.Remarks
import Crowsfoot.Proofs.Schema.FieldContext

/-!
# Lines with comments

The scan for the end of a body passes over a comment behind a line, up to the
next line feed.  The line itself keeps the comment: it is read with the
attributes of the field, and leaves the field alone exactly if it is inert.
-/

namespace Crowsfoot.Dsl

open Crowsfoot.Text

/-- The mode of the scan behind a text. -/
def Mode.behind (mode : Mode) (text : List Char) : Mode :=
  text.foldl Mode.next mode

/-- Whether a mode is one inside a string. -/
def Mode.inString : Mode → Bool
  | .string | .escape => true
  | _ => false

/-- A scan that goes on behind the beginning of a body goes on there whatever
follows. -/
theorem exists_splitBody_front {mode : Mode} {depth : Nat} {front back body after : List Char}
    (closed : splitBody mode depth (front ++ back) = some (front ++ body, after)) :
    ∃ inner, ∀ other, splitBody mode depth (front ++ other) =
      (splitBody (mode.behind front) inner other).map fun parts => (front ++ parts.1, parts.2) := by
  induction front generalizing mode depth with
  | nil => exact ⟨depth, fun other => by simp [Mode.behind]⟩
  | cons c later ih =>
      rcases splitBody_cons_cases mode depth c with ⟨-, -, ends⟩ | ⟨next, goesOn⟩
      · rw [List.cons_append, ends] at closed
        exact nomatch (Prod.mk.inj (Option.some.inj closed)).1
      · rw [List.cons_append, goesOn] at closed
        obtain ⟨⟨content, rest⟩, found, same⟩ := Option.map_eq_some_iff.mp closed
        obtain ⟨sameContent, rfl⟩ := Prod.mk.inj same
        rw [List.cons_append, List.cons_inj_right] at sameContent
        obtain ⟨inner, further⟩ := ih (sameContent ▸ found)
        refine ⟨inner, fun other => ?_⟩
        rw [List.cons_append, goesOn, further, Option.map_map]
        rfl

/-- A comment that begins outside of strings goes on to the end of its line. -/
theorem Moves.trailing {mode : Mode} (outside : mode.inString = false) {comment : List Char}
    (oneLine : '\n' ∉ comment) : Moves mode (' ' :: '/' :: '/' :: ' ' :: comment) .comment := by
  have opened : Moves mode [' ', '/', '/', ' '] .comment := by
    have blank : Moves mode [' '] (mode.next ' ') := Moves.char (.inr (by decide))
    have slash : Moves (mode.next ' ') ['/'] ((mode.next ' ').next '/') :=
      Moves.char (.inr (by decide))
    have second : Moves ((mode.next ' ').next '/') ['/'] .comment := by
      have step : ((mode.next ' ').next '/').next '/' = .comment := by
        cases mode <;> first | rfl | contradiction
      rw [← step]
      exact Moves.char (.inr (by decide))
    have inside : Moves .comment [' '] .comment := Moves.comment (by decide)
    exact ((blank.append slash).append second).append inside
  exact opened.append (Moves.comment oneLine)

/-- Behind a line feed nothing is left of a comment. -/
theorem splitBody_lineFeed {mode : Mode} (outside : mode.inString = false) (depth : Nat)
    (rest : List Char) :
    splitBody mode depth ('\n' :: rest) = splitBody .comment depth ('\n' :: rest) := by
  cases mode <;> first | rfl | contradiction

/-- The text of a comment behind a line. -/
def trailing (comment : List Char) : List Char :=
  ' ' :: '/' :: '/' :: ' ' :: comment

/-- Without the blanks at its ends, a line with a comment is the line, a gap and
the comment. -/
theorem exists_strip_trailing {line : List Char} (nonempty : strip line ≠ [])
    (comment : List Char) :
    ∃ gap, gap ≠ [] ∧ (∀ c ∈ gap, isBlank c = true) ∧
      strip (line ++ trailing comment) = strip line ++ remark gap comment := by
  obtain ⟨front, back, cut, frontBlank, backBlank⟩ := exists_strip_append line
  refine ⟨back ++ [' '], by simp, ?_, ?_⟩
  · intro c member
    rcases List.mem_append.mp member with inBack | space
    · exact backBlank c inBack
    · rw [List.mem_singleton.mp space]
      rfl
  · have solid : Stops isBlank (strip line) := (solid_strip line).first
    have kept : trimEnd isBlank ('/' :: '/' :: ' ' :: comment) =
        '/' :: '/' :: trimEnd isBlank (' ' :: comment) := by
      rw [trimEnd_cons rfl, trimEnd_cons rfl]
    have whole : line ++ trailing comment =
        front ++ (strip line ++ (back ++ [' ']) ++ '/' :: '/' :: ' ' :: comment) := by
      have parts := congrArg (· ++ trailing comment) cut
      simpa [trailing] using parts
    rw [whole, strip_append_of_blank frontBlank, strip, trim,
      dropWhile_of_stops ((solid.append nonempty _).append (by simp [nonempty]) _),
      trimEnd_append (by simp [kept]), kept, remark, List.append_assoc]

theorem blanks?_append {text rest : List Char} (read : blanks? text = some rest)
    (tail : List Char) : blanks? (text ++ tail) =
      some (if rest = [] then skipBlanks tail else rest ++ tail) := by
  cases text with
  | nil => contradiction
  | cons c later =>
      rw [blanks?] at read
      rw [List.cons_append, blanks?]
      split at read
      · rename_i blank
        obtain rfl := Option.some.inj read
        rw [if_pos blank, skipBlanks, List.dropWhile_append]
        simp only [List.isEmpty_iff]
        rfl
      · contradiction

theorem blanks?_remark {gap : List Char} (nonempty : gap ≠ [])
    (blank : ∀ c ∈ gap, isBlank c = true) (comment : List Char) :
    blanks? (remark gap comment) = some (remark [] comment) := by
  obtain ⟨c, later, rfl⟩ := List.exists_cons_of_ne_nil nonempty
  rw [List.forall_mem_cons] at blank
  have behind : Stops isBlank (remark [] comment) := stops_cons_iff.mpr rfl
  rw [remark, List.cons_append, blanks?, if_pos blank.1]
  exact congrArg some (dropWhile_append_of_stops blank.2 behind)

theorem name?_append {text name rest tail : List Char} (read : name? text = some (name, rest))
    (stops : Stops isWord tail) : name? (text ++ tail) = some (name, rest ++ tail) := by
  rw [name?, run?_append_of_stops stops, ← name?, read]
  rfl

theorem modifier_of_other {text : List Char} (notList : ∀ rest, text ≠ '[' :: ']' :: rest)
    (notOptional : ∀ rest, text ≠ '?' :: rest) : modifier text = (.none, text) := by
  rw [modifier]
  · exact notList
  · exact notOptional

/-- A modifier is not read across a gap. -/
theorem modifier_append_of_blank (text : List Char) {tail : List Char}
    (stops : Stops (!isBlank ·) tail) :
    modifier (text ++ tail) = ((modifier text).1, (modifier text).2 ++ tail) := by
  have noSign {sign : Char} (solid : isBlank sign = false) (rest : List Char) :
      tail ≠ sign :: rest := by
    rintro rfl
    rw [stops_cons_iff, solid] at stops
    contradiction
  fun_cases modifier text with
  | case1 rest => rfl
  | case2 rest => rfl
  | case3 _ notList notOptional =>
      refine modifier_of_other (fun rest whole => ?_) fun rest whole => ?_
      · rcases List.append_eq_cons_iff.mp whole with ⟨-, alone⟩ | ⟨later, rfl, behind⟩
        · exact noSign rfl _ alone
        rcases List.append_eq_cons_iff.mp behind.symm with ⟨-, alone⟩ | ⟨more, rfl, -⟩
        · exact noSign rfl _ alone
        · exact notList _ rfl
      · rcases List.append_eq_cons_iff.mp whole with ⟨-, alone⟩ | ⟨later, rfl, -⟩
        · exact noSign rfl _ alone
        · exact notOptional _ rfl

/-- The parts of a field once its names are read. -/
theorem fieldLine?_of_names {line name afterName beforeType type afterType : List Char}
    (nameRead : name? line = some (name, afterName))
    (gapRead : blanks? afterName = some beforeType)
    (typeRead : name? beforeType = some (type, afterType)) :
    fieldLine? line =
      if (modifier afterType).2 = [] then some (name, type, (modifier afterType).1, [])
      else (blanks? (modifier afterType).2).map fun attributes =>
        (name, type, (modifier afterType).1, attributes) := by
  simp only [fieldLine?, nameRead, gapRead, typeRead, Option.bind_eq_bind, Option.bind_some]
  obtain ⟨modified, behind⟩ := modifier afterType
  cases behind with
  | nil => rfl
  | cons c later =>
      rw [if_neg (List.cons_ne_nil c later), Option.map_eq_bind]
      rfl

/-- A gap and a comment behind a field are read with its attributes. -/
theorem fieldLine?_remark {line name type attributes : List Char} {modified : Modifier}
    (parts : fieldLine? line = some (name, type, modified, attributes)) {gap : List Char}
    (nonempty : gap ≠ []) (blank : ∀ c ∈ gap, isBlank c = true) (comment : List Char) :
    fieldLine? (line ++ remark gap comment) =
      some (name, type, modified,
        attributes ++ remark (if attributes = [] then [] else gap) comment) := by
  obtain ⟨⟨name, afterName⟩, nameRead, unnamed⟩ := Option.bind_eq_some_iff.mp parts
  obtain ⟨beforeType, gapRead, untyped⟩ := Option.bind_eq_some_iff.mp unnamed
  obtain ⟨⟨type, afterType⟩, typeRead, -⟩ := Option.bind_eq_some_iff.mp untyped
  have begins : ∀ c ∈ (remark gap comment).head?, isBlank c = true := by
    obtain ⟨c, later, rfl⟩ := List.exists_cons_of_ne_nil nonempty
    rintro d ⟨⟩
    exact blank c List.mem_cons_self
  have stopsWord : Stops isWord (remark gap comment) :=
    fun c first => isWord_of_isBlank (begins c first)
  have stopsSolid : Stops (!isBlank ·) (remark gap comment) :=
    fun c first => by simp [begins c first]
  have skipped : skipBlanks (remark gap comment) = remark [] comment :=
    dropWhile_append_of_stops blank (stops_cons_iff.mpr rfl)
  have hasType : beforeType ≠ [] := by
    rintro rfl
    contradiction
  have gapReadStill : blanks? (afterName ++ remark gap comment) =
      some (beforeType ++ remark gap comment) := by
    rw [blanks?_append gapRead, if_neg hasType]
  rw [fieldLine?_of_names nameRead gapRead typeRead] at parts
  rw [fieldLine?_of_names (name?_append nameRead stopsWord) gapReadStill
    (name?_append typeRead stopsWord), modifier_append_of_blank _ stopsSolid]
  dsimp only
  rw [if_neg (by simp [remark])]
  by_cases bare : (modifier afterType).2 = []
  · rw [if_pos bare] at parts
    obtain ⟨rfl, rfl, rfl, rfl⟩ : _ ∧ _ ∧ _ ∧ _ := by simpa using parts
    rw [bare, List.nil_append, blanks?_remark nonempty blank]
    rfl
  · rw [if_neg bare] at parts
    obtain ⟨found, attributesRead, same⟩ := Option.map_eq_some_iff.mp parts
    obtain ⟨rfl, rfl, rfl, rfl⟩ : _ ∧ _ ∧ _ ∧ _ := by simpa using same
    rw [blanks?_append attributesRead, Option.map_some]
    split
    · rename_i empty
      rw [empty, List.nil_append, skipped]
    · rfl

/-! ## Inert comments -/

/-- A comment that says nothing of a column that its attributes do not say, and
closes nothing that they leave open. -/
structure InertComment (column : Column) (comment : List Char) : Prop where
  primaryKey : hasAttribute "@id" comment = true → isKeyColumn column = true
  unique : hasAttribute "@unique" comment = true → column.unique = true
  relation : hasAttribute "@relation" comment = true → hasRelation column.constraints = true
  default : KeepsDefault column.constraints.toList comment
  lists : hasRelation column.constraints = true →
    ∀ key ∈ relationKeys, KeepsList key column.constraints.toList comment

/-- A comment without at signs and closing brackets is inert where the default
is closed. -/
theorem inertComment_of_plain {column : Column} {comment : List Char} (noMark : '@' ∉ comment)
    (noBracket : ']' ∉ comment)
    (closed : ∀ argument ∈ find? (openingOf? "@default") column.constraints.toList,
      argumentText '(' false 0 argument ≠ argument) : InertComment column comment := by
  have absent {name : String} (mark : name ∈ markNames) : hasAttribute name comment = false := by
    obtain ⟨letters, spelled⟩ := spelled_of_mark mark
    exact hasAttribute_of_notMem spelled noMark
  constructor
  case default =>
    refine ⟨closed, fun _ => ?_⟩
    have begins : ∀ c rest, c ≠ '@' → openingOf? "@default" (c :: rest) = none := by
      intro c rest other
      simp [openingOf?, literal?, other]
    have passed := find?_append_of_notMem begins noMark []
    rwa [List.append_nil] at passed
  case lists =>
    intro _ key _
    refine ⟨fun _ _ => .inr noBracket, fun _ => ?_⟩
    rw [namesOf, find?_bracketed_of_notMem key noBracket]
  all_goals
    intro present
    rw [absent (by decide)] at present
    contradiction

section Column

variable {gap : List Char} (blank : ∀ c ∈ gap, isBlank c = true) (comment : List Char)
include blank

theorem relationColumns_remark_iff (attributes : List Char)
    (same : hasRelation (String.ofList (attributes ++ remark gap comment)) =
      hasRelation (String.ofList attributes)) :
    relationColumns (String.ofList (attributes ++ remark gap comment)) =
        relationColumns (String.ofList attributes) ↔
      (hasRelation (String.ofList attributes) = true →
        ∀ key ∈ relationKeys, KeepsList key attributes comment) := by
  rw [relationColumns, relationColumns, same]
  cases hasRelation (String.ofList attributes) with
  | false => simp
  | true =>
      simp only [if_true, String.toList_ofList, Prod.mk.injEq, relationKeys, List.forall_mem_cons,
        namesOf_remark_iff blank comment (List.mem_cons_self : "fields" ∈ relationKeys),
        namesOf_remark_iff blank comment
          (List.mem_cons_of_mem _ List.mem_cons_self : "references" ∈ relationKeys)]
      simp

theorem unique_remark (name type : List Char) (modified : Modifier) (attributes : List Char) :
    (readColumn name type modified (attributes ++ remark gap comment)).unique =
      ((readColumn name type modified attributes).unique || hasAttribute "@unique" comment) := by
  simp only [readColumn, isUnique, String.toList_ofList,
    hasAttribute_remark blank comment (by decide : "@unique" ∈ markNames)]

theorem isKeyColumn_remark (name type : List Char) (modified : Modifier)
    (attributes : List Char)
    (same : (readColumn name type modified (attributes ++ remark gap comment)).unique =
      (readColumn name type modified attributes).unique) :
    isKeyColumn (readColumn name type modified (attributes ++ remark gap comment)) =
      (isKeyColumn (readColumn name type modified attributes) || hasAttribute "@id" comment) := by
  rw [isKeyColumn, same, isKeyColumn]
  simp only [readColumn, isPrimaryKey, String.toList_ofList,
    hasAttribute_remark blank comment (by decide : "@id" ∈ markNames)]
  ac_rfl

theorem hasRelation_remark (attributes : List Char) :
    hasRelation (String.ofList (attributes ++ remark gap comment)) =
      (hasRelation (String.ofList attributes) || hasAttribute "@relation" comment) := by
  simp only [hasRelation, String.toList_ofList,
    hasAttribute_remark blank comment (by decide : "@relation" ∈ markNames)]

/-- A comment behind attributes leaves the field alone exactly if it is
inert. -/
theorem alone_remark_iff (name type : List Char) (modified : Modifier)
    (attributes : List Char) :
    Field.alone (readColumn name type modified (attributes ++ remark gap comment)) =
        Field.alone (readColumn name type modified attributes) ↔
      InertComment (readColumn name type modified attributes) comment := by
  have orSame (own other : Bool) : (own || other) = own ↔ (other = true → own = true) := by
    cases own <;> cases other <;> simp
  have key := isKeyColumn_remark blank comment name type modified attributes
  have unique := unique_remark blank comment name type modified attributes
  have relation := hasRelation_remark blank comment attributes
  have lists := relationColumns_remark_iff blank comment attributes
  have default := classifyDefault_remark_iff blank comment attributes
  have constraints :
      (readColumn name type modified attributes).constraints.toList = attributes := by
    rw [readColumn_constraints, String.toList_ofList]
  have sameField :
      Field.alone (readColumn name type modified (attributes ++ remark gap comment)) =
        Field.alone (readColumn name type modified attributes) ↔ _ :=
    Field.alone_eq_iff rfl rfl rfl rfl
  rw [sameField]
  constructor
  · rintro ⟨sameKey, sameUnique, sameDefault, sameRelation, sameColumns⟩
    constructor
    case primaryKey => exact (orSame _ _).mp ((key sameUnique).symm.trans sameKey)
    case unique => exact (orSame _ _).mp (unique.symm.trans sameUnique)
    case relation => exact (orSame _ _).mp (relation.symm.trans sameRelation)
    case default =>
      rw [constraints]
      exact default.mp sameDefault
    case lists =>
      rw [constraints]
      exact (lists sameRelation).mp sameColumns
  · intro inert
    have sameUnique := unique.trans ((orSame _ _).mpr inert.unique)
    have sameRelation := relation.trans ((orSame _ _).mpr inert.relation)
    have keepsDefault := inert.default
    have keepsLists := inert.lists
    rw [constraints] at keepsDefault keepsLists
    exact ⟨(key sameUnique).trans ((orSame _ _).mpr inert.primaryKey), sameUnique,
      default.mpr keepsDefault, sameRelation, (lists sameRelation).mpr keepsLists⟩

end Column

/-- A field that is read has parts. -/
theorem exists_readColumn {line : List Char} {column : Column}
    (declares : column? line = some column) :
    ∃ name type modified attributes, fieldLine? line = some (name, type, modified, attributes) ∧
      column = readColumn name type modified attributes := by
  obtain ⟨⟨name, type, modified, attributes⟩, parts, same⟩ := Option.bind_eq_some_iff.mp declares
  exact ⟨name, type, modified, attributes, parts, (Option.some.inj same).symm⟩

/-- A line with a comment declares a column, which gives the same field exactly
if the comment is inert. -/
theorem exists_columnsIn_trailing {line comment : List Char}
    (oneLine : ∀ c ∈ line, isLineBoundary c = false)
    (commentOneLine : ∀ c ∈ comment, isLineBoundary c = false) {column : Column}
    (declares : column? (strip line) = some column) :
    ∃ commented, columnsIn (line ++ trailing comment) = [commented] ∧
      (Field.alone commented = Field.alone column ↔ InertComment column comment) := by
  obtain ⟨name, type, modified, attributes, parts, rfl⟩ := exists_readColumn declares
  have nonempty : strip line ≠ [] := by
    intro empty
    rw [empty] at parts
    contradiction
  obtain ⟨gap, gapNonempty, blank, stripped⟩ := exists_strip_trailing nonempty comment
  have read := column?_of_fieldLine? (fieldLine?_remark parts gapNonempty blank comment)
  have wholeOneLine : ∀ c ∈ line ++ trailing comment, isLineBoundary c = false := by
    intro c member
    simp only [trailing, List.mem_append, List.mem_cons] at member
    rcases member with inLine | rfl | rfl | rfl | rfl | inComment
    · exact oneLine c inLine
    all_goals first | rfl | exact commentOneLine c inComment
  have remarkBlank : ∀ c ∈ if attributes = [] then [] else gap, isBlank c = true := by
    split
    · exact nofun
    · exact blank
  refine ⟨_, ?_, alone_remark_iff remarkBlank comment name type modified attributes⟩
  rw [columnsIn_of_oneLine wholeOneLine, stripped, read]
  rfl

/-- A text declares what its beginning and its end declare if a line ends
between them. -/
theorem columnsIn_append {front back : List Char}
    (cut : (∀ c ∈ front.getLast?, isLineBoundary c = true) ∨
      ∀ c ∈ back.head?, isLineBoundary c = true) :
    columnsIn (front ++ back) = columnsIn front ++ columnsIn back := by
  have nothing : columnsIn [] = [] := rfl
  rcases cut with ends | begins
  · rcases List.eq_nil_or_concat front with rfl | ⟨lines, last, rfl⟩
    · rfl
    · rw [List.concat_eq_append] at ends ⊢
      have boundary := ends last (by simp)
      rw [List.append_assoc, List.singleton_append, columnsIn_append_cons boundary,
        columnsIn_append_cons boundary, nothing, List.append_nil]
  · cases back with
    | nil => rw [List.append_nil, nothing, List.append_nil]
    | cons first lines =>
        have boundary := begins first rfl
        have behind := columnsIn_append_cons boundary [] lines
        rw [columnsIn_append_cons boundary]
        rw [List.nil_append, nothing, List.nil_append] at behind
        rw [behind]

end Crowsfoot.Dsl
