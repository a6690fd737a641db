import Mathlib.Data.List.Basic
import Crowsfoot.Proofs.Assoc
import Crowsfoot.Proofs.Sql.Operands

/-!
# Types of columns

A word of the table of types is found in the table in any case.  It is read
with its parameters as one token without blanks, and it is never mistaken for
the words of a key or an index.
-/

namespace Crowsfoot.Sql

open Crowsfoot.Text

/-- A character in small letters is of the class of a letter or digit only if
the character is. -/
theorem of_toLower {c : Char} : (c.toLower.isAlpha = true → c.isAlpha = true) ∧
    (c.toLower.isAlphanum = true → c.isAlphanum = true) := by
  unfold Char.toLower
  split
  · rename_i capital
    have letter : c.isAlpha = true := isAlpha_of_isUpper (decide_eq_true capital)
    exact ⟨fun _ => letter, fun _ => isAlphanum_of_isAlpha letter⟩
  · exact ⟨id, id⟩

theorem typeWords_shape : ∀ word ∈ SourceFormat.sql.typeWords.map Prod.fst,
    word.toList ≠ [] ∧ word.toList.head?.all Char.isAlpha = true ∧
      ∀ c ∈ word.toList, c.isAlphanum = true := by
  decide +kernel

namespace TypeName

variable (type : TypeName)

/-- The word of a type in small letters. -/
def lowered : List Char :=
  type.word.toList.map Char.toLower

theorem lowered_shape : type.lowered ≠ [] ∧ type.lowered.head?.all Char.isAlpha = true ∧
    ∀ c ∈ type.lowered, c.isAlphanum = true := by
  have shape := typeWords_shape _ type.known
  rwa [String.toList_ofList] at shape

theorem isAlphanum_word : ∀ c ∈ type.word.toList, c.isAlphanum = true := by
  intro c member
  exact of_toLower.2 (type.lowered_shape.2.2 _ (List.mem_map_of_mem member))

theorem run_word : IsRun type.word.toList where
  nonempty empty := type.lowered_shape.1 (by rw [lowered, empty]; rfl)
  word c member := isWord_of_isAlphanum (type.isAlphanum_word c member)

/-- A type word begins with a letter. -/
theorem exists_cons : ∃ c rest, type.word.toList = c :: rest ∧ c.isAlpha = true := by
  obtain ⟨c, rest, spelled⟩ := List.exists_cons_of_ne_nil type.run_word.nonempty
  have first : c.toLower.isAlpha = true := by
    simpa [lowered, spelled] using type.lowered_shape.2.1
  exact ⟨c, rest, spelled, of_toLower.1 first⟩

/-- The parameters of a type as texts. -/
def parameterTexts : List String :=
  type.parameters.map toString

theorem runs_parameters : ∀ text ∈ type.parameterTexts, IsRun text.toList := by
  intro text member
  obtain ⟨n, -, rfl⟩ := List.mem_map.mp member
  exact run_toString n

theorem toList_text :
    type.text.toList = type.word.toList ++ (optionalListText type.parameterTexts).toList :=
  String.toList_append ..

end TypeName

theorem removeBlanks_of_notBlank {text : List Char} (solid : ∀ c ∈ text, isBlank c = false) :
    removeBlanks text = text := by
  rw [removeBlanks, List.filter_eq_self]
  intro c member
  simp [solid c member]

/-- Without blanks, the members of a list follow the commas. -/
theorem removeBlanks_joined {texts : List String} (runs : ∀ text ∈ texts, IsRun text.toList) :
    removeBlanks (joined ", " texts).toList = (joined "," texts).toList := by
  have part : ∀ text : String, IsRun text.toList → removeBlanks text.toList = text.toList :=
    fun text run => removeBlanks_of_notBlank run.notBlank
  cases texts with
  | nil => rfl
  | cons first later =>
      rw [List.forall_mem_cons] at runs
      rw [toList_joined_cons, toList_joined_cons, removeBlanks, List.filter_append,
        List.filter_flatMap]
      congr 1
      · exact part first runs.1
      · apply List.flatMap_congr
        intro text member
        rw [List.filter_append]
        exact congrArg ([','] ++ ·) (part text (runs.2 text member))

/-- A word is read as a type. -/
theorem typeToken?_word {c : Char} {later rest : List Char} (alpha : c.isAlpha = true)
    (all : ∀ d ∈ later, isTypeChar d = true) (stops : Stops isTypeChar rest)
    (unlisted : parenthesizedList? rest = none) (noBracket : Stops (· == '[') rest) :
    typeToken? (c :: (later ++ rest)) = some (removeBlanks (c :: later), rest) := by
  rw [typeToken?, takeWhile_append_of_stops all stops, dropWhile_append_of_stops all stops]
  simp only [alpha, Bool.not_true, Bool.false_eq_true, if_false, unlisted, List.append_nil]
  split
  · simp at noBracket
  · rfl

/-- A word with a list behind it is read as a type with parameters. -/
theorem typeToken?_listed {c : Char} {later behind inside rest : List Char}
    (alpha : c.isAlpha = true) (all : ∀ d ∈ later, isTypeChar d = true)
    (stops : Stops isTypeChar behind) (listed : parenthesizedList? behind = some (inside, rest))
    (noBracket : Stops (· == '[') rest) :
    typeToken? (c :: (later ++ behind)) =
      some (removeBlanks (c :: later ++ '(' :: (inside ++ [')'])), rest) := by
  rw [typeToken?, takeWhile_append_of_stops all stops, dropWhile_append_of_stops all stops]
  simp only [alpha, Bool.not_true, Bool.false_eq_true, if_false, listed]
  split
  · simp at noBracket
  · rfl

namespace TypeName

variable (type : TypeName)

/-- A type is read as its token. -/
theorem typeToken?_text {rest : List Char} (spaced : IsSpaced rest) :
    typeToken? (type.text.toList ++ rest) = some (type.token.toList, rest) := by
  obtain ⟨c, later, spelled, alpha⟩ := type.exists_cons
  have typeChars : ∀ d ∈ later, isTypeChar d = true := by
    intro d member
    have alphanumeric := type.isAlphanum_word d (spelled ▸ List.mem_cons_of_mem c member)
    simp [isTypeChar, alphanumeric]
  have word := removeBlanks_of_notBlank type.run_word.notBlank
  rw [spelled] at word
  rw [type.toList_text, List.append_assoc, spelled, List.cons_append]
  cases parameters : type.parameters with
  | nil =>
      have bare : (optionalListText type.parameterTexts).toList ++ rest = rest := by
        simp [parameterTexts, parameters, optionalListText]
      have token : type.token.toList = c :: later := by
        simp [TypeName.token, parameters, spelled]
      rw [bare, typeToken?_word alpha typeChars (spaced.stops rfl)
        spaced.parenthesizedList?_eq_none (spaced.stops rfl), word, token]
  | cons first more =>
      have runs := type.runs_parameters
      have list : optionalListText type.parameterTexts = listText type.parameterTexts := by
        simp [parameterTexts, parameters, optionalListText]
      have token : type.token.toList =
          c :: later ++ '(' :: ((joined "," type.parameterTexts).toList ++ [')']) := by
        simp [TypeName.token, parameters, parameterTexts, spelled]
      have stops : Stops isTypeChar ((listText type.parameterTexts).toList ++ rest) := by
        rw [toList_listText]
        exact stops_cons_iff.mpr rfl
      have blankless : removeBlanks (c :: later ++
          '(' :: ((joined ", " type.parameterTexts).toList ++ [')'])) =
            c :: later ++ '(' :: ((joined "," type.parameterTexts).toList ++ [')']) := by
        rw [← removeBlanks_joined runs]
        simp only [removeBlanks, List.filter_append, List.filter_cons] at word ⊢
        rw [word]
        rfl
      rw [list, typeToken?_listed alpha typeChars stops (parenthesizedList?_listText runs rest)
        (spaced.stops rfl), blankless, token]

end TypeName

/-! ## Words that are no types -/

theorem toLower_letter_ascii : ∀ code < 128, (Char.ofNat code).isLower = true →
    (Char.ofNat code).toLower = Char.ofNat code ∧
      (Char.ofNat code).toUpper.toLower = Char.ofNat code := by
  decide +kernel

/-- An ASCII letter is a small letter in either case exactly if it is so in
small letters. -/
theorem toLower_of_isLetter {letter c : Char} (small : letter.isLower = true)
    (ascii : c.isAlphanum = true) (same : isLetter letter c = true) : c.toLower = letter := by
  have alphanumeric := isAlphanum_of_isAlpha (isAlpha_of_isLower small)
  have table := toLower_letter_ascii letter.toNat (toNat_lt_of_isAlphanum alphanumeric)
  rw [Char.ofNat_toNat] at table
  simp only [isLetter, Bool.or_eq_true, Bool.and_eq_true, beq_iff_eq] at same
  rcases same with (((rfl | rfl) | ⟨-, rfl | rfl⟩) | ⟨-, rfl⟩) | ⟨-, rfl⟩
  · exact (table small).1
  · exact (table small).2
  all_goals exact absurd ascii (by decide)

theorem isPrefix_of_letters? {letters text rest : List Char}
    (small : ∀ letter ∈ letters, letter.isLower = true)
    (ascii : ∀ c ∈ text, c.isAlphanum = true) (matched : letters? letters text = some rest) :
    letters <+: text.map Char.toLower := by
  induction letters generalizing text with
  | nil => exact List.nil_prefix
  | cons letter more ih =>
      cases text with
      | nil => simp [letters?] at matched
      | cons c later =>
          rw [List.forall_mem_cons] at small ascii
          simp only [letters?] at matched
          split at matched
          · rename_i same
            rw [List.map_cons, List.cons_prefix_cons]
            exact ⟨(toLower_of_isLetter small.1 ascii.1 same).symm, ih small.2 ascii.2 matched⟩
          · simp at matched

theorem typeWords_other : ∀ word ∈ SourceFormat.sql.typeWords.map Prod.fst,
    ∀ other ∈ ["key", "index"], ¬ other.toList <+: word.toList := by
  decide +kernel

theorem isKeyword_indexWord : ∀ word ∈ ["key", "index"], IsKeyword word := by
  decide

/-- No type begins with the words of a key or an index. -/
theorem TypeName.keyword?_eq_none (type : TypeName) {word : String}
    (other : word ∈ ["key", "index"]) {rest : List Char} (spaced : IsSpaced rest) :
    keyword? word (type.text.toList ++ rest) = none := by
  have keyword := isKeyword_indexWord word other
  have stops := stops_optionalListText rfl spaced.stops_isWord type.parameterTexts
  rw [type.toList_text, List.append_assoc, keyword?_append keyword stops, Option.map_eq_none_iff]
  cases read : keyword? word type.word.toList with
  | none => rfl
  | some after =>
      have begins := isPrefix_of_letters? keyword.2 type.isAlphanum_word read
      have apart := typeWords_other _ type.known word other
      rw [String.toList_ofList] at apart
      exact absurd begins apart

/-- ASCII letters are lowered one by one. -/
theorem lowerFrom_append {word : List Char} (ascii : ∀ c ∈ word, c.isAlphanum = true)
    (casedBefore : Bool) (rest : List Char) :
    ∃ casedAfter, lowerFrom casedBefore (word ++ rest) =
      word.map Char.toLower ++ lowerFrom casedAfter rest := by
  induction word generalizing casedBefore with
  | nil => exact ⟨casedBefore, rfl⟩
  | cons c later ih =>
      rw [List.forall_mem_cons] at ascii
      have small := toNat_lt_of_isAlphanum ascii.1
      have other : (c == 'Σ') = false := by
        rw [beq_eq_false_iff_ne]
        rintro rfl
        exact absurd small (by decide)
      obtain ⟨casedAfter, lowered⟩ :=
        ih ascii.2 (if isCaseIgnorable c then casedBefore else isCased c)
      refine ⟨casedAfter, ?_⟩
      rw [List.cons_append, lowerFrom]
      simp only [other, Bool.false_eq_true, if_false, lowered]
      simp [lowerChar, small]

/-- A type is looked up by its word in small letters, whatever parameters
follow it. -/
theorem TypeName.typeWord_eq (type : TypeName) {rest : List Char}
    (solid : ∀ c ∈ rest, isBlank c = false) (opens : Stops (· != '(') rest) :
    typeWord (String.ofList (type.word.toList ++ rest)) = String.ofList type.lowered := by
  have wholeSolid : ∀ c ∈ type.word.toList ++ rest, isBlank c = false := by
    rw [List.forall_mem_append]
    exact ⟨type.run_word.notBlank, solid⟩
  obtain ⟨casedAfter, lowered⟩ := lowerFrom_append type.isAlphanum_word false rest
  have stops : Stops (· != '(') (lowerFrom casedAfter rest) := by
    cases rest with
    | nil => exact stops_nil _
    | cons c later =>
        have paren : c = '(' := by simpa using stops_cons_iff.mp opens
        subst paren
        exact stops_cons_iff.mpr rfl
  have noParen : ∀ c ∈ type.lowered, (c != '(') = true := by
    intro c member
    simpa using ne_of_class (type.lowered_shape.2.2 c member) rfl
  have lowerSolid : ∀ c ∈ type.lowered, (!isBlank c) = true := by
    intro c member
    simp [isBlank_of_isWord (isWord_of_isAlphanum (type.lowered_shape.2.2 c member))]
  have start : Stops isBlank type.lowered := by
    intro c member
    simpa using lowerSolid c (List.mem_of_mem_head? member)
  have whole := takeWhile_append_of_stops lowerSolid (stops_nil _)
  rw [List.append_nil] at whole
  rw [typeWord, String.toList_ofList, strip_of_solid (solid_of_notBlank wholeSolid), lowerChars,
    lowered]
  change String.ofList (firstWord ((type.lowered ++ lowerFrom casedAfter rest).takeWhile _)) = _
  rw [takeWhile_append_of_stops noParen stops, firstWord, splitWord, dropWhile_of_stops start]
  exact congrArg String.ofList whole

theorem isKnownType_iff (token : String) :
    isKnownType SourceFormat.sql.name token = true ↔
      typeWord token ∈ SourceFormat.sql.typeWords.map Prod.fst := by
  have words : typeWordsOf SourceFormat.sql.name = SourceFormat.sql.typeWords := by
    decide +kernel
  rw [isKnownType, words, ← Assoc.hasKey_eq_isSome_lookup, Assoc.hasKey, List.any_eq_true]
  simp only [beq_iff_eq, List.mem_map]

theorem TypeName.isKnownType_text (type : TypeName) {rest : List Char}
    (solid : ∀ c ∈ rest, isBlank c = false) (opens : Stops (· != '(') rest) :
    isKnownType SourceFormat.sql.name (String.ofList (type.word.toList ++ rest)) = true := by
  rw [isKnownType_iff, type.typeWord_eq solid opens]
  exact type.known

end Crowsfoot.Sql
