import Crowsfoot.Dsl.Attribute
import Crowsfoot.Proofs.Dsl.DefaultForms
import Crowsfoot.Proofs.Dsl.Names
import Crowsfoot.Proofs.Json.QuotedText
import Crowsfoot.Proofs.Text.Lines

/-!
# Reading written attributes

The attributes of a column are written one after another with blanks between
them.  An attribute is present in the whole exactly if it is present in one of
the parts, and the argument of the `@default` attribute is read back as it was
written.  Nothing but an at sign begins an attribute.
-/

namespace Crowsfoot.Dsl

open Crowsfoot.Text

/-- A name and a character that cannot stand in it or go on with it. -/
structure Separates (name : String) (separator : Char) : Prop where
  absent : separator ∉ name.toList
  notWord : isWord separator = false

theorem attribute?_append_cons {name : String} {separator : Char}
    (separates : Separates name separator) (front back : List Char) :
    attribute? name (front ++ separator :: back) =
      (attribute? name front).map (· ++ separator :: back) := by
  simp only [attribute?, literal?_append_cons separates.absent, Option.bind_eq_bind]
  cases literal? name.toList front with
  | none => rfl
  | some rest =>
      have follows : wordFollows (rest ++ separator :: back) = wordFollows rest := by
        cases rest with
        | nil => exact separates.notWord
        | cons c later => rfl
      simp only [Option.map_some, Option.bind_some, follows]
      split <;> rfl

theorem hasAttribute_nil {name : String} (nonempty : name.toList ≠ []) :
    hasAttribute name [] = false := by
  obtain ⟨c, rest, spelled⟩ := List.exists_cons_of_ne_nil nonempty
  simp [hasAttribute, occurs, find?, attribute?, spelled, literal?]

/-- Around a separator, an attribute is present on one of the sides. -/
theorem hasAttribute_append_cons {name : String} {separator : Char} (nonempty : name.toList ≠ [])
    (separates : Separates name separator) (front back : List Char) :
    hasAttribute name (front ++ separator :: back) =
      (hasAttribute name front || hasAttribute name back) := by
  induction front with
  | nil =>
      have none_here : attribute? name (separator :: back) = none := by
        obtain ⟨c, rest, spelled⟩ := List.exists_cons_of_ne_nil nonempty
        have whole := attribute?_append_cons separates [] back
        simpa [attribute?, spelled, literal?] using whole
      rw [hasAttribute_nil nonempty]
      simp [hasAttribute, occurs_cons, none_here]
  | cons c rest ih =>
      have here := attribute?_append_cons separates (c :: rest) back
      rw [List.cons_append] at here
      simp only [hasAttribute] at ih
      simp only [hasAttribute, List.cons_append, occurs_cons, here, Option.isSome_map, ih,
        Bool.or_assoc]

/-- Among texts with blanks between them, an attribute is present in one. -/
theorem hasAttribute_joined {name : String} (nonempty : name.toList ≠ [])
    (separates : Separates name ' ') (texts : List String) :
    hasAttribute name (joined " " texts).toList =
      texts.any fun text => hasAttribute name text.toList := by
  fun_induction joined " " texts with
  | case1 => exact hasAttribute_nil nonempty
  | case2 text => simp
  | case3 text next later ih =>
      rw [String.toList_append, String.toList_append, List.append_assoc]
      change hasAttribute name (text.toList ++ ' ' :: (joined " " (next :: later)).toList) = _
      rw [hasAttribute_append_cons nonempty separates, ih]
      rfl

/-- The search for an attribute skips text without an at sign. -/
theorem hasAttribute_append_of_notMem {name : String} {letters : List Char}
    (spelled : name.toList = '@' :: letters) {front : List Char} (absent : '@' ∉ front)
    (back : List Char) : hasAttribute name (front ++ back) = hasAttribute name back := by
  have begins : ∀ c rest, c ≠ '@' → attribute? name (c :: rest) = none := by
    intro c rest other
    simp [attribute?, spelled, literal?_cons_of_ne other]
  rw [hasAttribute, occurs, find?_append_of_notMem begins absent]
  rfl

/-- Where no at sign stands, no attribute is present. -/
theorem hasAttribute_of_notMem {name : String} {letters : List Char}
    (spelled : name.toList = '@' :: letters) {text : List Char} (absent : '@' ∉ text) :
    hasAttribute name text = false := by
  have skipped := hasAttribute_append_of_notMem spelled absent []
  rw [List.append_nil] at skipped
  rw [skipped, hasAttribute_nil (by simp [spelled])]

/-- The attributes that are looked for by their names alone. -/
def markNames : List String :=
  ["@id", "@unique", "@relation"]

section Marks

variable {name : String} (mark : name ∈ markNames)
include mark

theorem nonempty_of_mark : name.toList ≠ [] := by
  revert name
  decide

theorem separates_of_mark : Separates name ' ' ∧ Separates name '(' ∧ Separates name ')' := by
  have apart : ∀ name ∈ markNames, ∀ separator ∈ [' ', '(', ')'],
      separator ∉ name.toList ∧ isWord separator = false := by
    decide
  exact ⟨⟨(apart name mark ' ' (by decide)).1, rfl⟩,
    ⟨(apart name mark '(' (by decide)).1, rfl⟩, ⟨(apart name mark ')' (by decide)).1, rfl⟩⟩

theorem separates_of_blank {separator : Char} (blank : isBlank separator = true) :
    Separates name separator := by
  have solid : ∀ name ∈ markNames, ∀ c ∈ name.toList, isBlank c = false := by decide
  constructor
  · intro member
    rw [solid name mark separator member] at blank
    contradiction
  · exact isWord_of_isBlank blank

theorem spelled_of_mark : ∃ letters, name.toList = '@' :: letters := by
  have at_sign : ∀ name ∈ markNames, name.toList.head? = some '@' := by decide
  exact List.head?_eq_some_iff.mp (at_sign name mark)

/-- Blanks at the end do not matter to attributes. -/
theorem hasAttribute_trimEnd (text : List Char) :
    hasAttribute name (trimEnd isBlank text) = hasAttribute name text := by
  obtain ⟨letters, spelled⟩ := spelled_of_mark mark
  obtain ⟨gap, whole, blank⟩ := exists_trimEnd_append isBlank text
  have found := congrArg (hasAttribute name) whole
  cases gap with
  | nil =>
      rw [List.append_nil] at found
      exact found.symm
  | cons c later =>
      have noSign : '@' ∉ later := by
        intro member
        have signBlank := blank '@' (List.mem_cons_of_mem _ member)
        contradiction
      rw [hasAttribute_append_cons (nonempty_of_mark mark)
        (separates_of_blank mark (blank c List.mem_cons_self)),
        hasAttribute_of_notMem spelled noSign, Bool.or_false] at found
      exact found.symm

/-- A default has the attributes that stand in its own text. -/
theorem hasAttribute_default (text : String) :
    hasAttribute name ("@default(" ++ text ++ ")").toList = hasAttribute name text.toList := by
  obtain ⟨-, opens, closes⟩ := separates_of_mark mark
  have spelled : ("@default(" ++ text ++ ")").toList =
      "@default".toList ++ '(' :: (text.toList ++ ')' :: []) := by
    simp
  have other : ∀ name ∈ markNames, hasAttribute name "@default".toList = false := by decide
  rw [spelled, hasAttribute_append_cons (nonempty_of_mark mark) opens,
    hasAttribute_append_cons (nonempty_of_mark mark) closes, other name mark,
    hasAttribute_nil (nonempty_of_mark mark), Bool.false_or, Bool.or_false]

end Marks

/-! ## Attributes of a column -/

theorem notMem_nameList {sign : Char} (notWord : isWord sign = false)
    (other : sign ∉ ['\n', ',', ' ']) (names : List String) :
    sign ∉ (nameList names).toList := by
  simp only [List.mem_cons, List.not_mem_nil, or_false, not_or] at other
  intro member
  rcases mem_of_mem_joined member with separator | ⟨text, textMember, inText⟩
  · rcases (by simpa using separator : sign = ',' ∨ sign = ' ') with comma | blank
    · exact other.2.1 comma
    · exact other.2.2 blank
  · obtain ⟨name, -, rfl⟩ := List.mem_map.mp textMember
    exact notMem_identifier notWord other.1 name inText

/-- The attribute of a foreign key has one at sign, at its beginning. -/
theorem relationAttribute_cons (key : ForeignKey) :
    ∃ rest, (relationAttribute key).toList = "@relation".toList ++ '(' :: rest ∧ '@' ∉ rest := by
  refine ⟨"fields: [".toList ++ (nameList key.columns).toList ++ "], references: [".toList ++
    (nameList key.refColumns).toList ++ "])".toList, ?_, ?_⟩
  · unfold relationAttribute
    simp
  · have columns : '@' ∉ (nameList key.columns).toList := notMem_nameList rfl (by decide) _
    have references : '@' ∉ (nameList key.refColumns).toList := notMem_nameList rfl (by decide) _
    simp [columns, references]

/-- The attribute of a source name has one at sign, at its beginning. -/
theorem mapAttribute_cons {name : String} (plain : '@' ∉ name.toList) :
    ∃ rest, (mapAttribute "@" name).toList = "@map".toList ++ '(' :: rest ∧ '@' ∉ rest := by
  refine ⟨Json.quoteChars name.toList ++ [')'], by simp [mapAttribute], ?_⟩
  have absent : '@' ∉ Json.quoteChars name.toList := fun member =>
    plain (Json.mem_of_mem_quoteChars (by decide) (by decide) rfl member).1
  simp [absent]

theorem hasAttribute_relation {name : String} (mark : name ∈ markNames) (key : ForeignKey) :
    hasAttribute name (relationAttribute key).toList = (name == "@relation") := by
  obtain ⟨rest, spelled, absent⟩ := relationAttribute_cons key
  obtain ⟨letters, begins⟩ := spelled_of_mark mark
  have alone : ∀ name ∈ markNames,
      hasAttribute name "@relation".toList = (name == "@relation") := by
    decide
  obtain ⟨-, opens, -⟩ := separates_of_mark mark
  rw [spelled, hasAttribute_append_cons (nonempty_of_mark mark) opens, alone name mark,
    hasAttribute_of_notMem begins absent, Bool.or_false]

theorem hasAttribute_map {name : String} (mark : name ∈ markNames) {source : String}
    (plain : '@' ∉ source.toList) :
    hasAttribute name (mapAttribute "@" source).toList = false := by
  obtain ⟨rest, spelled, absent⟩ := mapAttribute_cons plain
  obtain ⟨letters, begins⟩ := spelled_of_mark mark
  have alone : ∀ name ∈ markNames, hasAttribute name "@map".toList = false := by decide
  obtain ⟨-, opens, -⟩ := separates_of_mark mark
  rw [spelled, hasAttribute_append_cons (nonempty_of_mark mark) opens, alone name mark,
    hasAttribute_of_notMem begins absent, Bool.or_false]

/-- What is found among the attributes of a column: its own marks, and those
that stand in the text of its default. -/
theorem hasAttribute_columnAttributes {name : String} (mark : name ∈ markNames)
    {format : String} {column : Column} (plain : '@' ∉ column.name.toList)
    (key? : Option ForeignKey) :
    hasAttribute name (joined " " (columnAttributes format column key?)).toList =
      ((name == "@id" && column.primaryKey) ||
        (name == "@unique" && (column.unique && !column.primaryKey)) ||
        (columnDefault? format column).any (fun text => hasAttribute name text.toList) ||
        (name == "@relation" && key?.isSome)) := by
  have idAlone : ∀ name ∈ markNames, hasAttribute name "@id".toList = (name == "@id") := by
    decide
  have uniqueAlone : ∀ name ∈ markNames,
      hasAttribute name "@unique".toList = (name == "@unique") := by
    decide
  have idPart : (if column.primaryKey then ["@id"] else []).any
      (fun text => hasAttribute name text.toList) = (name == "@id" && column.primaryKey) := by
    cases column.primaryKey with
    | false => simp
    | true => simpa using idAlone name mark
  have uniquePart : (if column.unique && !column.primaryKey then ["@unique"] else []).any
      (fun text => hasAttribute name text.toList) =
        (name == "@unique" && (column.unique && !column.primaryKey)) := by
    cases column.unique && !column.primaryKey with
    | false => simp
    | true => simpa using uniqueAlone name mark
  have defaultPart : ((columnDefault? format column).toList.map
      fun text => "@default(" ++ text ++ ")").any (fun text => hasAttribute name text.toList) =
        (columnDefault? format column).any (fun text => hasAttribute name text.toList) := by
    cases columnDefault? format column with
    | none => rfl
    | some text =>
        rw [Option.toList_some, List.map_singleton, List.any_cons, List.any_nil, Bool.or_false,
          hasAttribute_default mark]
        rfl
  have relationPart : (key?.toList.map relationAttribute).any
      (fun text => hasAttribute name text.toList) = (name == "@relation" && key?.isSome) := by
    cases key? <;> simp [hasAttribute_relation mark]
  have mapPart : (if identifier column.name != column.name then [mapAttribute "@" column.name]
      else []).any (fun text => hasAttribute name text.toList) = false := by
    cases identifier column.name != column.name <;> simp [hasAttribute_map mark plain]
  obtain ⟨blank, -, -⟩ := separates_of_mark mark
  rw [hasAttribute_joined (nonempty_of_mark mark) blank, columnAttributes, List.any_append,
    List.any_append, List.any_append, List.any_append, idPart, uniquePart, defaultPart,
    relationPart, mapPart, Bool.or_false]

end Crowsfoot.Dsl
