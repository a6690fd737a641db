import Crowsfoot.Proofs.Sql.BeforeQuotes

/-!
# Words that make a constraint

A definition is a table constraint or an index by its first words.  They stand
in front of the literals of a column, and what stands behind the quote of a
literal does not change them.
-/

namespace Crowsfoot.Sql

open Crowsfoot.Text

theorem wordFollows_before (front behind : List Char) :
    wordFollows (front ++ '\x27' :: behind) = wordFollows front := by
  cases front with
  | nil => rfl
  | cons c later => rfl

theorem parenFollows_before (front behind : List Char) :
    parenFollows (front ++ '\x27' :: behind) = parenFollows front := by
  rw [parenFollows, parenFollows, skipBlanks_append_cons rfl]
  cases skipBlanks front <;> rfl

theorem isSome_wholeKeyword?_before {word : String} (keyword : IsKeyword word)
    (front behind : List Char) :
    (wholeKeyword? word (front ++ '\x27' :: behind)).isSome =
      (wholeKeyword? word front).isSome := by
  rw [wholeKeyword?_append_cons keyword rfl, Option.isSome_map]

/-- The words of a table constraint stand before the quote. -/
theorem beginsConstraint_before (front behind : List Char) :
    beginsConstraint (front ++ '\x27' :: behind) = beginsConstraint front := by
  have stops : Stops isWord ('\x27' :: behind) := stops_cons_iff.mpr rfl
  rw [beginsConstraint_eq, beginsConstraint_eq, isSome_wholeKeyword?_before (by decide),
    keywords?_append_cons (by decide) (by decide) rfl rfl, keyword?_append (by decide) stops,
    keyword?_append (by decide) stops]
  simp only [Option.any_map, wordFollows_before, parenFollows_before,
    skipBlanks_append_cons (show isBlank '\x27' = false from rfl),
    isSome_wholeKeyword?_before (show IsKeyword "key" by decide),
    isSome_wholeKeyword?_before (show IsKeyword "index" by decide)]

theorem firstWord_cons_of_blank {c : Char} (blank : isBlank c = true) (rest : List Char) :
    firstWord (c :: rest) = firstWord rest := by
  rw [firstWord, firstWord, splitWord, splitWord, List.dropWhile_cons_of_pos blank]

theorem firstWord_cons {c : Char} (solid : isBlank c = false) (rest : List Char) :
    firstWord (c :: rest) = c :: rest.takeWhile (!isBlank ·) := by
  rw [firstWord, splitWord, dropWhile_of_stops (stops_cons_iff.mpr solid),
    List.takeWhile_cons_of_pos (by simpa using solid)]

/-- The part of a text that a type is looked up by. -/
def beforeParen (text : List Char) : List Char :=
  text.takeWhile (· != '(')

theorem beforeParen_cons {c : Char} (other : c ≠ '(') (rest : List Char) :
    beforeParen (c :: rest) = c :: beforeParen rest :=
  List.takeWhile_cons_of_pos (bne_iff_ne.mpr other)

/-- Two texts that are looked up as the same words of letters and digits, also
if they go on with a word. -/
def SameWords (first second : List Char) : Prop :=
  ∀ word : List Char, (∀ c ∈ word, c.isAlphanum = true) →
    (firstWord (beforeParen first) = word ↔ firstWord (beforeParen second) = word) ∧
    ((beforeParen first).takeWhile (!isBlank ·) = word ↔
      (beforeParen second).takeWhile (!isBlank ·) = word)

theorem SameWords.cons {first second : List Char} (same : SameWords first second) (c : Char) :
    SameWords (c :: first) (c :: second) := by
  intro word alphanumeric
  by_cases opening : c = '('
  · subst opening
    exact ⟨Iff.rfl, Iff.rfl⟩
  · rw [beforeParen_cons opening, beforeParen_cons opening]
    cases blank : isBlank c with
    | true =>
        have ends (rest : List Char) : (c :: rest).takeWhile (!isBlank ·) = [] :=
          List.takeWhile_cons_of_neg (by simp [blank])
        rw [firstWord_cons_of_blank blank, firstWord_cons_of_blank blank, ends, ends]
        exact ⟨(same word alphanumeric).1, Iff.rfl⟩
    | false =>
        have goesOn (rest : List Char) : (c :: rest).takeWhile (!isBlank ·) =
            c :: rest.takeWhile (!isBlank ·) :=
          List.takeWhile_cons_of_pos (by simp [blank])
        have later : c :: (beforeParen first).takeWhile (!isBlank ·) = word ↔
            c :: (beforeParen second).takeWhile (!isBlank ·) = word := by
          cases word with
          | nil => simp
          | cons d later =>
              rw [List.forall_mem_cons] at alphanumeric
              rw [List.cons.injEq, List.cons.injEq]
              exact and_congr_right fun _ => (same later alphanumeric.2).2
        rw [firstWord_cons blank, firstWord_cons blank, goesOn, goesOn]
        exact ⟨later, later⟩

theorem SameWords.append {first second : List Char} (same : SameWords first second)
    (front : List Char) : SameWords (front ++ first) (front ++ second) := by
  induction front with
  | nil => exact same
  | cons c later ih => exact ih.cons c

/-- A character that stands in no word of letters and digits, and ends none. -/
def standsOut (c : Char) : Bool :=
  !c.isAlphanum && !isBlank c && c != '('

theorem word_ne_of_standsOut {c : Char} (out : standsOut c = true) (rest : List Char)
    {word : List Char} (alphanumeric : ∀ c ∈ word, c.isAlphanum = true) :
    firstWord (beforeParen (c :: rest)) ≠ word ∧
      (beforeParen (c :: rest)).takeWhile (!isBlank ·) ≠ word := by
  simp only [standsOut, Bool.and_eq_true, Bool.not_eq_true', bne_iff_ne] at out
  obtain ⟨⟨sign, solid⟩, other⟩ := out
  have never : c :: (beforeParen rest).takeWhile (!isBlank ·) ≠ word := by
    rintro rfl
    rw [alphanumeric c List.mem_cons_self] at sign
    contradiction
  rw [beforeParen_cons other, firstWord_cons solid,
    List.takeWhile_cons_of_pos (by simp [solid])]
  exact ⟨never, never⟩

theorem sameWords_of_standsOut {c d : Char} (first : standsOut c = true)
    (second : standsOut d = true) (rest other : List Char) :
    SameWords (c :: rest) (d :: other) := by
  intro word alphanumeric
  have never := word_ne_of_standsOut first rest alphanumeric
  have neither := word_ne_of_standsOut second other alphanumeric
  exact ⟨iff_of_false never.1 neither.1, iff_of_false never.2 neither.2⟩

/-- In small letters, what stands behind a quote changes at most a sigma in front
of it. -/
theorem sameWords_lowerFrom (front behind other : List Char) (casedBefore : Bool) :
    SameWords (lowerFrom casedBefore (front ++ '\x27' :: behind))
      (lowerFrom casedBefore (front ++ '\x27' :: other)) := by
  induction front generalizing casedBefore with
  | nil =>
      have quote (rest : List Char) : ∃ later, lowerFrom casedBefore ('\x27' :: rest) =
          '\x27' :: later := ⟨_, rfl⟩
      obtain ⟨_, first⟩ := quote behind
      obtain ⟨_, second⟩ := quote other
      rw [List.nil_append, List.nil_append, first, second]
      exact sameWords_of_standsOut (by decide) (by decide) _ _
  | cons c later ih =>
      rw [List.cons_append, List.cons_append, lowerFrom, lowerFrom]
      by_cases sigma : (c == 'Σ') = true
      · rw [if_pos sigma, if_pos sigma]
        apply sameWords_of_standsOut
        · split <;> decide
        · split <;> decide
      · rw [if_neg sigma, if_neg sigma]
        exact (ih _).append (lowerChar c)

/-! ## Indexes -/

theorem typeWord_of_notBlank {token : List Char} (solid : ∀ c ∈ token, isBlank c = false) :
    typeWord (String.ofList token) =
      String.ofList (firstWord (beforeParen (lowerChars token))) := by
  rw [typeWord, String.toList_ofList, strip_of_solid (solid_of_notBlank solid)]
  rfl

/-- No quote is part of a known type, so that what stands behind it does not
matter. -/
theorem isKnownType_before {front behind other : List Char}
    (solid : ∀ c ∈ front ++ '\x27' :: behind, isBlank c = false)
    (otherSolid : ∀ c ∈ front ++ '\x27' :: other, isBlank c = false) :
    isKnownType SourceFormat.sql.name (String.ofList (front ++ '\x27' :: behind)) =
      isKnownType SourceFormat.sql.name (String.ofList (front ++ '\x27' :: other)) := by
  have same : ∀ word ∈ SourceFormat.sql.typeWords.map Prod.fst,
      typeWord (String.ofList (front ++ '\x27' :: behind)) = word ↔
        typeWord (String.ofList (front ++ '\x27' :: other)) = word := by
    intro word member
    rw [typeWord_of_notBlank solid, typeWord_of_notBlank otherSolid, ← String.toList_inj,
      ← String.toList_inj, String.toList_ofList, String.toList_ofList]
    exact (sameWords_lowerFrom front behind other false word.toList
      (typeWords_shape word member).2.2).1
  rw [Bool.eq_iff_iff, isKnownType_iff, isKnownType_iff]
  constructor
  · intro known
    rwa [(same _ known).mp rfl]
  · intro known
    rwa [(same _ known).mpr rfl]

/-- The first word of a text with a quote ends before the quote, or it goes on
with the quote. -/
theorem takeWhile_word_cases (front : List Char) :
    (∀ behind, (front ++ '\x27' :: behind).takeWhile (!isBlank ·) =
      front.takeWhile (!isBlank ·)) ∨
    (∀ behind, (front ++ '\x27' :: behind).takeWhile (!isBlank ·) =
      front ++ '\x27' :: behind.takeWhile (!isBlank ·)) := by
  by_cases solid : ∀ c ∈ front, (!isBlank c) = true
  · right
    intro behind
    rw [List.takeWhile_append_of_pos solid]
    rfl
  · left
    simp only [not_forall] at solid
    obtain ⟨c, member, notSolid⟩ := solid
    have blank : isBlank c = true := by simpa using notSolid
    obtain ⟨word, first, later, rfl, isFirst, before⟩ := exists_first member blank
    have words : ∀ c ∈ word, (!isBlank c) = true := fun c member => by simp [before c member]
    intro behind
    rw [List.append_assoc, List.cons_append,
      takeWhile_append_of_stops words (stops_cons_iff.mpr (by simp [isFirst])),
      takeWhile_append_of_stops words (stops_cons_iff.mpr (by simp [isFirst]))]

/-- The words of an index stand before the quote. -/
theorem beginsIndex_before {front : List Char} (start : Stops isBlank front)
    (blank : ∃ c ∈ front, isBlank c = true) (behind other : List Char) :
    beginsIndex (front ++ '\x27' :: behind) = beginsIndex (front ++ '\x27' :: other) := by
  obtain ⟨c, member, isBlankC⟩ := blank
  obtain ⟨word, gap, later, rfl, isGap, solid⟩ := exists_first member isBlankC
  have nonempty : word ≠ [] := by
    rintro rfl
    rw [stops_cons_iff.mp start] at isGap
    contradiction
  have split (behind : List Char) : splitWord (word ++ gap :: later ++ '\x27' :: behind) =
      (word, gap :: (later ++ '\x27' :: behind)) := by
    rw [List.append_assoc, List.cons_append, splitWord_append_cons nonempty solid isGap]
  have second (behind : List Char) : firstWord (gap :: (later ++ '\x27' :: behind)) =
      (skipBlanks later ++ '\x27' :: behind).takeWhile (!isBlank ·) := by
    rw [firstWord_cons_of_blank isGap, ← skipBlanks_append_cons rfl]
    rfl
  have solidWord (text : List Char) : ∀ c ∈ text.takeWhile (!isBlank ·), isBlank c = false :=
    fun c member => by simpa using (List.all_eq_true.mp List.all_takeWhile) c member
  simp only [beginsIndex, split, second]
  rcases takeWhile_word_cases (skipBlanks later) with ends | goesOn
  · rw [ends, ends]
  · have known : isKnownType SourceFormat.sql.name
        (String.ofList ((skipBlanks later ++ '\x27' :: behind).takeWhile (!isBlank ·))) =
        isKnownType SourceFormat.sql.name
          (String.ofList ((skipBlanks later ++ '\x27' :: other).takeWhile (!isBlank ·))) := by
      have first := solidWord (skipBlanks later ++ '\x27' :: behind)
      have second := solidWord (skipBlanks later ++ '\x27' :: other)
      rw [goesOn] at first second ⊢
      rw [goesOn]
      exact isKnownType_before first second
    have someWord (behind : List Char) :
        ((skipBlanks later ++ '\x27' :: behind).takeWhile (!isBlank ·)).isEmpty = false := by
      rw [goesOn]
      cases skipBlanks later <;> rfl
    rw [known, someWord, someWord]

end Crowsfoot.Sql
