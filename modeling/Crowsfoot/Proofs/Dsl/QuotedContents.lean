import Crowsfoot.Proofs.Dsl.Relations
import Crowsfoot.Proofs.Dsl.WrittenColumns
import Crowsfoot.Proofs.Schema.FieldContext

/-!
# Contents of quoted defaults

The content of a quoted default stands as a literal among the attributes of
its column, and the searches for attributes look into literals.  A content in
which they find nothing, and at which no line is cut, leaves every property of
the field as it is but the default value.
-/

namespace Crowsfoot.Dsl

open Crowsfoot.Text

/-- Letters that stand for themselves in a literal are found in it where they
are found in its text. -/
theorem literal?_escaped {letters : List Char}
    (verbatim : ∀ c ∈ letters, c ≠ '\\' ∧ Json.escape c = [c]) (text rest : List Char) :
    literal? letters (text.flatMap Json.escape ++ '\x22' :: rest) =
      (literal? letters text).map (·.flatMap Json.escape ++ '\x22' :: rest) := by
  induction letters generalizing text with
  | nil => rfl
  | cons letter more ih =>
      obtain ⟨notBackslash, alone⟩ := verbatim letter List.mem_cons_self
      have notQuote : '\x22' ≠ letter := by
        rintro rfl
        contradiction
      cases text with
      | nil => simp [literal?, notQuote]
      | cons c later =>
          by_cases same : c = letter
          · subst c
            have further := ih (fun d member => verbatim d (List.mem_cons_of_mem _ member)) later
            simpa [literal?, alone] using further
          · have begun : ∃ first others, Json.escape c = first :: others ∧ first ≠ letter := by
              rcases Json.escapeForm c with ⟨-, -, -, form⟩ | ⟨-, form⟩ | ⟨-, form⟩ |
                  ⟨-, first, others, -, form⟩
              · exact ⟨c, [], form, same⟩
              · exact ⟨_, _, form, notBackslash.symm⟩
              · exact ⟨_, _, form, notBackslash.symm⟩
              · exact ⟨_, _, form, notBackslash.symm⟩
            obtain ⟨first, others, form, other⟩ := begun
            simp [literal?, form, other, same]

/-- A word goes on in a literal where it goes on in its text. -/
theorem wordFollows_escaped (text rest : List Char) :
    wordFollows (text.flatMap Json.escape ++ '\x22' :: rest) = wordFollows text := by
  cases text with
  | nil => rfl
  | cons c later =>
      rcases Json.escapeForm c with ⟨-, -, -, form⟩ | ⟨rfl, -⟩ | ⟨rfl, -⟩ | ⟨hidden, _, _, -, form⟩
      · simp [form, wordFollows]
      · rfl
      · rfl
      · have notWord : ∀ code < 0x20, isWord (Char.ofNat code) = false := by decide
        have here := notWord c.toNat hidden
        rw [Char.ofNat_toNat] at here
        simp only [List.flatMap_cons, form, List.cons_append, wordFollows, here]
        rfl

theorem atSign_notMem_escape {c : Char} (sign : c ≠ '@') : '@' ∉ Json.escape c := by
  intro member
  rcases Json.eq_or_of_mem_escape member with ⟨same, -⟩ | backslash | quote | alphanumeric
  · exact sign same.symm
  · exact absurd backslash (by decide)
  · exact absurd quote (by decide)
  · exact absurd alphanumeric (by decide)

section Mark

variable {name : String} (mark : name ∈ markNames)
include mark

/-- An attribute begins an escaped text exactly if it begins the text. -/
theorem attribute?_escaped (text : List Char) :
    (attribute? name (text.flatMap Json.escape ++ ['\x22'])).isSome =
      (attribute? name text).isSome := by
  have verbatim : ∀ c ∈ name.toList, c ≠ '\\' ∧ Json.escape c = [c] := by
    have signs : ∀ name ∈ markNames, ∀ c ∈ name.toList, c ≠ '\\' ∧ Json.escape c = [c] := by
      decide
    exact signs name mark
  simp only [attribute?, literal?_escaped verbatim, Option.bind_eq_bind]
  cases literal? name.toList text with
  | none => rfl
  | some rest =>
      simp only [Option.map_some, Option.bind_some, wordFollows_escaped]
      split <;> rfl

/-- An attribute is found in an escaped text exactly if it is found in the
text. -/
theorem hasAttribute_escaped (text : List Char) :
    hasAttribute name (text.flatMap Json.escape ++ ['\x22']) = hasAttribute name text := by
  obtain ⟨letters, spelled⟩ := spelled_of_mark mark
  induction text with
  | nil =>
      rw [hasAttribute_nil (nonempty_of_mark mark)]
      exact hasAttribute_of_notMem spelled (by decide)
  | cons c later ih =>
      by_cases sign : c = '@'
      · subst c
        have first := attribute?_escaped mark ('@' :: later)
        have alone : Json.escape '@' = ['@'] := rfl
        simp only [List.flatMap_cons, alone, List.cons_append, List.nil_append] at first ⊢
        simp only [hasAttribute] at ih
        simp only [hasAttribute, occurs_cons, first, ih]
      · have skipped := hasAttribute_append_of_notMem spelled
          (by simpa using Ne.symm sign : '@' ∉ [c]) later
        rw [List.flatMap_cons, List.append_assoc,
          hasAttribute_append_of_notMem spelled (atSign_notMem_escape sign), ih, ← skipped]
        rfl

/-- An attribute is found in a literal exactly if it is found in its text. -/
theorem hasAttribute_quoteChars (text : List Char) :
    hasAttribute name (Json.quoteChars text) = hasAttribute name text := by
  obtain ⟨letters, spelled⟩ := spelled_of_mark mark
  rw [Json.quoteChars, ← hasAttribute_escaped mark text]
  exact hasAttribute_append_of_notMem spelled (by decide : '@' ∉ ['\x22']) _

end Mark

/-- A content in which no line is cut and no attribute is found; where the
column is on a relation, nothing is found that could be a list either. -/
structure OpaqueContent (related : Bool) (content : String) : Prop where
  boundaries : ∀ c ∈ content.toList, c ∉ visibleBoundaries
  marks : ∀ name ∈ markNames, hasAttribute name content.toList = false
  brackets : related = true → '[' ∉ content.toList

instance (related : Bool) (content : String) : Decidable (OpaqueContent related content) :=
  decidable_of_iff
    ((∀ c ∈ content.toList, c ∉ visibleBoundaries) ∧
      (∀ name ∈ markNames, hasAttribute name content.toList = false) ∧
      (related = true → '[' ∉ content.toList))
    ⟨fun ⟨boundaries, marks, brackets⟩ => ⟨boundaries, marks, brackets⟩,
      fun isOpaque => ⟨isOpaque.boundaries, isOpaque.marks, isOpaque.brackets⟩⟩

/-- The attributes of a column with a quoted default, as they stand on its
line. -/
def quotedAttributes (column : Column) (content : String) (tail : List Char) : List Char :=
  leadingChars column ++
    ("@default".toList ++ '(' :: (Json.quoteChars content.toList ++ ')' :: tail))

/-- Attributes are found before, in, and behind the default. -/
theorem hasAttribute_quotedAttributes {name : String} (mark : name ∈ markNames) (column : Column)
    (content : String) (tail : List Char) :
    hasAttribute name (quotedAttributes column content tail) =
      (hasAttribute name (leadingChars column) ||
        (hasAttribute name content.toList || hasAttribute name tail)) := by
  obtain ⟨-, opens, closes⟩ := separates_of_mark mark
  have leading : ∀ leading ∈ [[], "@id ".toList, "@unique ".toList], ∀ name ∈ markNames,
      hasAttribute name (leading ++ "@default".toList) = hasAttribute name leading := by
    decide
  rw [quotedAttributes, ← List.append_assoc,
    hasAttribute_append_cons (nonempty_of_mark mark) opens,
    hasAttribute_append_cons (nonempty_of_mark mark) closes, hasAttribute_quoteChars mark,
    leading _ (leadingChars_mem column) name mark]

/-- Lists are found behind the default only. -/
theorem namesOf_quotedAttributes {key : String} (isKey : key ∈ relationKeys) (column : Column)
    {content : String} (noBracket : '[' ∉ content.toList) (tail : List Char) :
    namesOf key (quotedAttributes column content tail) = namesOf key tail := by
  have leading : ∀ leading ∈ [[], "@id ".toList, "@unique ".toList],
      ':' ∉ leading ++ "@default".toList := by
    decide
  have inLiteral : '[' ∉ Json.quoteChars content.toList := fun member =>
    noBracket (Json.mem_of_mem_quoteChars (by decide) (by decide) rfl member).1
  have spelled : quotedAttributes column content tail =
      ((leadingChars column ++ "@default".toList) ++ ['(']) ++
        ((Json.quoteChars content.toList ++ [')']) ++ tail) := by
    simp [quotedAttributes]
  rw [spelled,
    namesOf_append
      (passes_bracketed isKey (by decide) (.inl (leading _ (leadingChars_mem column)))),
    namesOf_append (passes_bracketed isKey (by decide) (.inr inLiteral))]

/-- A default that begins with a quote is a literal. -/
theorem classifyDefault_quotedAttributes (column : Column) (content : String)
    (tail : List Char) :
    (classifyDefault
      (argument? (String.ofList (quotedAttributes column content tail)) "@default")).1 =
        .literal := by
  have argument : argumentText '(' false 0 (Json.quoteChars content.toList ++ ')' :: tail) =
      '\x22' :: argumentText '\x22' true 0
        (content.toList.flatMap Json.escape ++ '\x22' :: ')' :: tail) := by
    simp [Json.quoteChars, argumentText]
  have read : argument? (String.ofList (quotedAttributes column content tail)) "@default" =
      some (String.ofList ('\x22' :: trimEnd isBlank (argumentText '\x22' true 0
        (content.toList.flatMap Json.escape ++ '\x22' :: ')' :: tail)))) := by
    rw [argument?, argumentChars?, String.toList_ofList, quotedAttributes, find?_default,
      Option.map_some, argument, strip, trim, dropWhile_of_stops (stops_cons_iff.mpr rfl),
      trimEnd_cons rfl]
    rfl
  have noFunction (rest : List Char) : defaultFunction? ('\x22' :: rest) = none := by
    have kept : Text.removeBlanks ('\x22' :: rest) = '\x22' :: Text.removeBlanks rest := rfl
    have begins : ∀ word ∈ ["now()", "autoincrement()", "uuid()"],
        word.toList.head? ≠ some '\x22' := by
      decide
    have other : ∀ word ∈ ["now()", "autoincrement()", "uuid()"],
        (String.ofList ('\x22' :: Text.removeBlanks rest) == word) = false := by
      intro word member
      rw [beq_eq_false_iff_ne]
      intro same
      exact begins word member (by rw [← same, String.toList_ofList]; rfl)
    rw [defaultFunction?, kept]
    simp only [List.lookup_cons, List.lookup_nil, other "now()" (by simp),
      other "autoincrement()" (by simp), other "uuid()" (by simp)]
  rw [read]
  simp only [classifyDefault, String.toList_ofList, noFunction]

/-! ## Fields -/

section Field

variable {related : Bool} {first second : String} (firstOpaque : OpaqueContent related first)
  (secondOpaque : OpaqueContent related second)
include firstOpaque secondOpaque

theorem hasAttribute_alike {name : String} (mark : name ∈ markNames) (column : Column)
    (tail : List Char) :
    hasAttribute name (quotedAttributes column first tail) =
      hasAttribute name (quotedAttributes column second tail) := by
  rw [hasAttribute_quotedAttributes mark, hasAttribute_quotedAttributes mark,
    firstOpaque.marks name mark, secondOpaque.marks name mark]

theorem relationColumns_alike {tail : List Char}
    (relates : hasAttribute "@relation" tail = true → related = true) (column : Column) :
    relationColumns (String.ofList (quotedAttributes column first tail)) =
      relationColumns (String.ofList (quotedAttributes column second tail)) := by
  have noLeading : ∀ leading ∈ [[], "@id ".toList, "@unique ".toList],
      hasAttribute "@relation" leading = false := by
    decide
  have found (content : String) (isOpaque : OpaqueContent related content) :
      hasRelation (String.ofList (quotedAttributes column content tail)) =
        hasAttribute "@relation" tail := by
    rw [hasRelation, String.toList_ofList, hasAttribute_quotedAttributes (by decide),
      noLeading _ (leadingChars_mem column), isOpaque.marks _ (by decide), Bool.false_or,
      Bool.false_or]
  simp only [relationColumns, found first firstOpaque, found second secondOpaque,
    String.toList_ofList]
  split
  · rename_i relation
    have firstBrackets := firstOpaque.brackets (relates relation)
    have secondBrackets := secondOpaque.brackets (relates relation)
    rw [namesOf_quotedAttributes (by decide) column firstBrackets,
      namesOf_quotedAttributes (by decide) column firstBrackets,
      namesOf_quotedAttributes (by decide) column secondBrackets,
      namesOf_quotedAttributes (by decide) column secondBrackets]
  · rfl

/-- Opaque contents give the same field, but for the default value. -/
theorem alike_readColumn {tail : List Char}
    (relates : hasAttribute "@relation" tail = true → related = true) (column : Column)
    (name type : List Char) (modified : Modifier) :
    AlikeColumns [readColumn name type modified (quotedAttributes column first tail)]
      [readColumn name type modified (quotedAttributes column second tail)] := by
  have id : isPrimaryKey (String.ofList (quotedAttributes column first tail)) =
      isPrimaryKey (String.ofList (quotedAttributes column second tail)) := by
    rw [isPrimaryKey, isPrimaryKey, String.toList_ofList, String.toList_ofList]
    exact hasAttribute_alike firstOpaque secondOpaque (by decide) column tail
  have unique : isUnique (String.ofList (quotedAttributes column first tail)) =
      isUnique (String.ofList (quotedAttributes column second tail)) := by
    rw [isUnique, isUnique, String.toList_ofList, String.toList_ofList]
    exact hasAttribute_alike firstOpaque secondOpaque (by decide) column tail
  have relation : hasRelation (String.ofList (quotedAttributes column first tail)) =
      hasRelation (String.ofList (quotedAttributes column second tail)) := by
    rw [hasRelation, hasRelation, String.toList_ofList, String.toList_ofList]
    exact hasAttribute_alike firstOpaque secondOpaque (by decide) column tail
  have same :
      (Field.alone
        (readColumn name type modified (quotedAttributes column first tail))).withoutDefault =
      (Field.alone
        (readColumn name type modified (quotedAttributes column second tail))).withoutDefault := by
    apply Field.withoutDefault_alone_congr
    · rfl
    · rfl
    · rfl
    · rfl
    · simpa only [readColumn] using id
    · simpa only [readColumn] using unique
    · simp only [readColumn, classifyDefault_quotedAttributes]
    · exact relation
    · exact relationColumns_alike firstOpaque secondOpaque relates column
  simp only [AlikeColumns, List.map_cons, List.map_nil, List.modify_zero_cons, same]

end Field

theorem column?_of_fieldLine?_none {line : List Char} (none : fieldLine? line = none) :
    column? line = .none := by
  simp [column?, none]

/-- A line that begins with a sign declares no column. -/
theorem columnsIn_of_sign (gap : List Char) {rest : List Char} {sign : Char}
    (blank : ∀ c ∈ gap, isBlank c = true) (notBlank : isBlank sign = false)
    (notWord : isWord sign = false)
    (oneLine : ∀ c ∈ gap ++ sign :: rest, isLineBoundary c = false) :
    columnsIn (gap ++ sign :: rest) = [] := by
  have stripped : strip (gap ++ sign :: rest) = sign :: trimEnd isBlank rest := by
    rw [strip_append_of_blank blank, strip, trim, dropWhile_of_stops (stops_cons_iff.mpr notBlank),
      trimEnd_cons notBlank]
  have noName : name? (sign :: trimEnd isBlank rest) = none := by
    rw [name?, run?, takeWhile_of_stops (stops_cons_iff.mpr notWord)]
  have noField : fieldLine? (sign :: trimEnd isBlank rest) = none := by
    simp [fieldLine?, noName]
  rw [columnsIn_of_oneLine oneLine, stripped, column?_of_fieldLine?_none noField]
  rfl

/-- A single name before the attributes declares no column. -/
theorem fieldLine?_of_oneName {name : List Char} (isName : IsName name) (modified : Modifier)
    (attributes : List Char) :
    fieldLine? (name ++ (modifierChars modified ++ ' ' :: '@' :: attributes)) = none := by
  have stops : Stops isWord (modifierChars modified ++ ' ' :: '@' :: attributes) :=
    stops_modifier modified (stops_cons_iff.mpr rfl)
  have nameRead : name? (name ++ (modifierChars modified ++ ' ' :: '@' :: attributes)) =
      some (name, modifierChars modified ++ ' ' :: '@' :: attributes) :=
    run?_append isName.nonempty isName.word stops
  have noName : name? ('@' :: attributes) = none := rfl
  have afterBlank : blanks? (' ' :: '@' :: attributes) = some ('@' :: attributes) :=
    blanks?_cons rfl (stops_cons_iff.mpr rfl)
  simp only [fieldLine?, nameRead, Option.bind_eq_bind, Option.bind_some]
  cases modified with
  | none =>
      simp only [modifierChars, List.nil_append, afterBlank, Option.bind_some, noName,
        Option.bind_none]
  | list => rfl
  | optional => rfl

/-! ## Lines with a quoted default -/

theorem trimEnd_quotedAttributes (column : Column) (content : String) (tail : List Char) :
    trimEnd isBlank (quotedAttributes column content tail) =
      quotedAttributes column content (trimEnd isBlank tail) := by
  have kept : trimEnd isBlank (')' :: tail) = ')' :: trimEnd isBlank tail := trimEnd_cons rfl tail
  have spelled (tail : List Char) : quotedAttributes column content tail =
      (leadingChars column ++ "@default".toList ++ '(' :: Json.quoteChars content.toList) ++
        ')' :: tail := by
    simp [quotedAttributes]
  rw [spelled, spelled, trimEnd_append (by simp [kept]), kept]

theorem quotedAttributes_begins (column : Column) (content : String) (tail : List Char) :
    ∃ rest, quotedAttributes column content tail = '@' :: rest :=
  leadingChars_append_default column _

theorem OpaqueContent.oneLine {related : Bool} {content : String}
    (isOpaque : OpaqueContent related content) (column : Column) {tail : List Char}
    (tailOneLine : ∀ c ∈ tail, isLineBoundary c = false) :
    ∀ c ∈ quotedAttributes column content tail, isLineBoundary c = false := by
  apply leading_oneLine
  intro c member
  rcases List.mem_append.mp member with inLiteral | behind
  · exact quoteChars_oneLine isOpaque.boundaries c inLiteral
  rcases List.mem_cons.mp behind with rfl | inTail
  · rfl
  · exact tailOneLine c inTail

/-- The line of a column with a quoted default, from its parts. -/
def quotedLine (name type : List Char) (modified : Modifier) (column : Column) (content : String)
    (tail : List Char) : List Char :=
  ' ' :: ' ' :: (name ++ ' ' :: (type ++ (modifierChars modified ++
    ' ' :: quotedAttributes column content tail)))

section Line

variable {name type : List Char} {related : Bool} {content : String}
  (isOpaque : OpaqueContent related content) (modified : Modifier) (column : Column)
  {tail : List Char} (tailOneLine : ∀ c ∈ tail, isLineBoundary c = false)
include isOpaque tailOneLine

/-- A line of two names declares one column. -/
theorem columnsIn_quotedLine (nameIsName : IsName name) (typeIsName : IsName type) :
    columnsIn (quotedLine name type modified column content tail) =
      [readColumn name type modified
        (quotedAttributes column content (trimEnd isBlank tail))] := by
  obtain ⟨rest, begun⟩ := quotedAttributes_begins column content tail
  have starts : Stops isBlank (quotedAttributes column content tail) := by
    rw [begun]
    exact stops_cons_iff.mpr rfl
  rw [quotedLine, columnsIn_attributes nameIsName typeIsName modified starts (by simp [begun])
    (isOpaque.oneLine column tailOneLine), trimEnd_quotedAttributes]

/-- Where the type ends in a line feed, the attributes stand on a line of their
own. -/
theorem columnsIn_quotedLine_of_brokenType :
    columnsIn (quotedLine name (type ++ ['\n']) modified column content tail) =
      columnsIn (' ' :: ' ' :: (name ++ ' ' :: type)) := by
  have cut : quotedLine name (type ++ ['\n']) modified column content tail =
      (' ' :: ' ' :: (name ++ ' ' :: type)) ++
        '\n' :: (modifierChars modified ++ ' ' :: quotedAttributes column content tail) := by
    simp [quotedLine]
  obtain ⟨rest, begun⟩ := quotedAttributes_begins column content tail
  have attributesOneLine := isOpaque.oneLine column tailOneLine
  have oneLine : ∀ c ∈ modifierChars modified ++ ' ' :: quotedAttributes column content tail,
      isLineBoundary c = false := by
    intro c member
    rcases List.mem_append.mp member with inModifier | behind
    · exact (modifierChars_solid modified c inModifier).2
    rcases List.mem_cons.mp behind with rfl | inAttributes
    · rfl
    · exact attributesOneLine c inAttributes
  have nothing :
      columnsIn (modifierChars modified ++ ' ' :: quotedAttributes column content tail) = [] := by
    rw [begun] at oneLine ⊢
    cases modified with
    | none => exact columnsIn_of_sign [' '] (by decide) rfl rfl oneLine
    | list => exact columnsIn_of_sign [] (by decide) rfl rfl oneLine
    | optional => exact columnsIn_of_sign [] (by decide) rfl rfl oneLine
  rw [cut, columnsIn_append_cons rfl, nothing, List.append_nil]

/-- Where the name ends in a line feed, the type stands alone before the
attributes. -/
theorem columnsIn_quotedLine_of_brokenName (typeIsName : IsName type) :
    columnsIn (quotedLine (name ++ ['\n']) type modified column content tail) =
      columnsIn (' ' :: ' ' :: name) := by
  have cut : quotedLine (name ++ ['\n']) type modified column content tail =
      (' ' :: ' ' :: name) ++ '\n' ::
        (' ' :: (type ++ (modifierChars modified ++
          ' ' :: quotedAttributes column content tail))) := by
    simp [quotedLine]
  obtain ⟨rest, begun⟩ := quotedAttributes_begins column content tail
  have attributesOneLine := isOpaque.oneLine column tailOneLine
  have oneLine : ∀ c ∈ ' ' :: (type ++ (modifierChars modified ++
      ' ' :: quotedAttributes column content tail)), isLineBoundary c = false := by
    intro c member
    rcases List.mem_cons.mp member with rfl | behind
    · rfl
    rcases List.mem_append.mp behind with inType | behind
    · exact isLineBoundary_of_isWord (typeIsName.word c inType)
    rcases List.mem_append.mp behind with inModifier | behind
    · exact (modifierChars_solid modified c inModifier).2
    rcases List.mem_cons.mp behind with rfl | inAttributes
    · rfl
    · exact attributesOneLine c inAttributes
  have kept : trimEnd isBlank ('@' :: rest) = '@' :: trimEnd isBlank rest := trimEnd_cons rfl rest
  have starts : Stops isBlank
      (type ++ (modifierChars modified ++ [' ']) ++ '@' :: rest) := by
    rw [List.append_assoc]
    exact typeIsName.stops _
  have stripped : strip (' ' :: (type ++ (modifierChars modified ++ ' ' :: '@' :: rest))) =
      type ++ (modifierChars modified ++ ' ' :: '@' :: trimEnd isBlank rest) := by
    have gap : ' ' :: (type ++ (modifierChars modified ++ ' ' :: '@' :: rest)) =
        [' '] ++ (type ++ (modifierChars modified ++ [' ']) ++ '@' :: rest) := by
      simp
    rw [gap, strip_append_of_blank (by decide), strip, trim, dropWhile_of_stops starts,
      trimEnd_append (by simp [kept]), kept]
    simp
  have nothing : columnsIn (' ' :: (type ++ (modifierChars modified ++
      ' ' :: quotedAttributes column content tail))) = [] := by
    rw [columnsIn_of_oneLine oneLine, begun, stripped,
      column?_of_fieldLine?_none (fieldLine?_of_oneName typeIsName modified _)]
    rfl
  rw [cut, columnsIn_append_cons rfl, nothing, List.append_nil]

end Line

section Alike

variable {name type : List Char} (nameIsName : IsName (withoutFinalLineFeed name))
  (typeIsName : IsName (withoutFinalLineFeed type)) {related : Bool} {first second : String}
  (firstOpaque : OpaqueContent related first) (secondOpaque : OpaqueContent related second)
  (modified : Modifier) (column : Column)
include nameIsName typeIsName firstOpaque secondOpaque

/-- On a line that is not cut behind the default, opaque contents are read
alike. -/
theorem alike_quotedLine_of_oneLine {tail : List Char}
    (tailOneLine : ∀ c ∈ tail, isLineBoundary c = false)
    (relates : hasAttribute "@relation" tail = true → related = true) :
    AlikeColumns (columnsIn (quotedLine name type modified column first tail))
      (columnsIn (quotedLine name type modified column second tail)) := by
  rcases withoutFinalLineFeed_cases type with typeWhole | typeBroken
  · rw [← typeWhole] at typeIsName
    rcases withoutFinalLineFeed_cases name with nameWhole | nameBroken
    · rw [← nameWhole] at nameIsName
      rw [columnsIn_quotedLine firstOpaque modified column tailOneLine nameIsName typeIsName,
        columnsIn_quotedLine secondOpaque modified column tailOneLine nameIsName typeIsName]
      apply alike_readColumn firstOpaque secondOpaque
      rwa [hasAttribute_trimEnd (by decide)]
    · rw [nameBroken,
        columnsIn_quotedLine_of_brokenName firstOpaque modified column tailOneLine typeIsName,
        columnsIn_quotedLine_of_brokenName secondOpaque modified column tailOneLine typeIsName]
      exact AlikeColumns.refl _
  · rw [typeBroken, columnsIn_quotedLine_of_brokenType firstOpaque modified column tailOneLine,
      columnsIn_quotedLine_of_brokenType secondOpaque modified column tailOneLine]
    exact AlikeColumns.refl _

/-- Opaque contents are read alike, wherever their line is cut behind them. -/
theorem alike_quotedLine {tail : List Char}
    (relates : hasAttribute "@relation" tail = true → related = true) :
    AlikeColumns (columnsIn (quotedLine name type modified column first tail))
      (columnsIn (quotedLine name type modified column second tail)) := by
  by_cases oneLine : ∀ c ∈ tail, isLineBoundary c = false
  · exact alike_quotedLine_of_oneLine nameIsName typeIsName firstOpaque secondOpaque modified
      column oneLine relates
  · obtain ⟨c, member, cuts⟩ : ∃ c ∈ tail, isLineBoundary c = true := by
      simpa using oneLine
    obtain ⟨front, boundary, back, rfl, boundaryCuts, frontOneLine⟩ := exists_first member cuts
    have line (content : String) :
        quotedLine name type modified column content (front ++ boundary :: back) =
          quotedLine name type modified column content front ++ boundary :: back := by
      simp [quotedLine, quotedAttributes]
    have frontRelates (found : hasAttribute "@relation" front = true) : related = true := by
      apply relates
      rw [hasAttribute_append_cons (nonempty_of_mark (by decide))
        (separates_of_blank (by decide) (isBlank_of_isLineBoundary boundaryCuts)), found,
        Bool.true_or]
    rw [line, line, columnsIn_append_cons boundaryCuts, columnsIn_append_cons boundaryCuts,
      alikeColumns_append_iff]
    exact alike_quotedLine_of_oneLine nameIsName typeIsName firstOpaque secondOpaque modified
      column frontOneLine frontRelates

end Alike

end Crowsfoot.Dsl
