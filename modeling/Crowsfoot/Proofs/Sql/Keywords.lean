import Crowsfoot.Proofs.Text.Lines
import Crowsfoot.Sql.Reader

/-!
# Searching for keywords

The clauses of SQL are found by searching for a keyword anywhere in a text.  A
keyword lies inside one run of word characters, and what follows it lies behind
blanks, so such a search can be followed token by token: signs are passed over,
and a run of word characters counts only if it ends in the keyword.
-/

namespace Crowsfoot.Sql

open Crowsfoot.Text

/-- A nonempty word of small ASCII letters. -/
def IsKeyword (word : String) : Prop :=
  word.toList ≠ [] ∧ ∀ letter ∈ word.toList, letter.isLower = true

instance (word : String) : Decidable (IsKeyword word) :=
  inferInstanceAs (Decidable (_ ∧ _))

theorem toUpper_letter_ascii : ∀ code < 128, (Char.ofNat code).isLower = true →
    isWord (Char.ofNat code).toUpper = true ∧ (Char.ofNat code).toUpper.isDigit = false := by
  decide +kernel

theorem isDigit_letter_ascii : ∀ code < 128, (Char.ofNat code).isLower = true →
    (Char.ofNat code).isDigit = false := by
  decide +kernel

/-- A small ASCII letter is a word character in either case, and no digit. -/
theorem word_of_isLetter {letter c : Char} (small : letter.isLower = true)
    (same : isLetter letter c = true) : isWord c = true ∧ c.isDigit = false := by
  have alphanumeric := isAlphanum_of_isAlpha (isAlpha_of_isLower small)
  have ascii := toNat_lt_of_isAlphanum alphanumeric
  simp only [isLetter, Bool.or_eq_true, Bool.and_eq_true, beq_iff_eq] at same
  rcases same with (((rfl | rfl) | ⟨-, rfl | rfl⟩) | ⟨-, rfl⟩) | ⟨-, rfl⟩
  · have noDigit := isDigit_letter_ascii c.toNat ascii
    rw [Char.ofNat_toNat] at noDigit
    exact ⟨isWord_of_isAlphanum alphanumeric, noDigit small⟩
  · have capital := toUpper_letter_ascii letter.toNat ascii
    rw [Char.ofNat_toNat] at capital
    exact capital small
  all_goals decide +kernel

/-- What follows a keyword is the end of the text that it begins. -/
theorem suffix_of_letters? {letters text rest : List Char}
    (matched : letters? letters text = some rest) : rest <:+ text := by
  induction letters generalizing text with
  | nil =>
      simp only [letters?, Option.some.injEq] at matched
      exact matched ▸ List.suffix_rfl
  | cons letter more ih =>
      cases text with
      | nil => simp [letters?] at matched
      | cons c later =>
          simp only [letters?] at matched
          split at matched
          · exact (ih matched).trans (List.suffix_cons c later)
          · simp at matched

/-- A keyword is never read beyond the word characters it begins with. -/
theorem letters?_append {letters : List Char} (small : ∀ letter ∈ letters, letter.isLower = true)
    {back : List Char} (stops : Stops isWord back) (front : List Char) :
    letters? letters (front ++ back) = (letters? letters front).map (· ++ back) := by
  induction letters generalizing front with
  | nil => simp [letters?]
  | cons letter more ih =>
      have letterSmall := small letter List.mem_cons_self
      cases front with
      | nil =>
          cases back with
          | nil => rfl
          | cons c rest =>
              have other : isLetter letter c = false := by
                cases same : isLetter letter c with
                | false => rfl
                | true =>
                    have word := (word_of_isLetter letterSmall same).1
                    rw [stops_cons_iff.mp stops] at word
                    contradiction
              simp [letters?, other]
      | cons c rest =>
          simp only [List.cons_append, letters?]
          split
          · exact ih (fun other member => small other (List.mem_cons_of_mem _ member)) rest
          · rfl

section Keyword

variable {word : String} (keyword : IsKeyword word)

include keyword

theorem keyword?_append {back : List Char} (stops : Stops isWord back) (front : List Char) :
    keyword? word (front ++ back) = (keyword? word front).map (· ++ back) :=
  letters?_append keyword.2 stops front

theorem keyword?_nil : keyword? word [] = none := by
  obtain ⟨letter, more, spelled⟩ := List.exists_cons_of_ne_nil keyword.1
  rw [keyword?, spelled, letters?]

/-- No keyword begins where no word character stands. -/
theorem keyword?_of_stops {text : List Char} (stops : Stops isWord text) :
    keyword? word text = none := by
  have read := keyword?_append keyword stops []
  rwa [List.nil_append, keyword?_nil keyword, Option.map_none] at read

end Keyword

/-- Whether a text is a keyword in either case. -/
def spells (word : String) (text : List Char) : Bool :=
  keyword? word text == some []

/-- Whether the end of a text is a keyword in either case. -/
def endsIn (word : String) : List Char → Bool
  | [] => false
  | c :: rest => spells word (c :: rest) || endsIn word rest

/-- No keyword ends in a digit. -/
theorem endsIn_of_isDigit {word : String} (keyword : IsKeyword word) {text : List Char}
    (digits : ∀ c ∈ text, c.isDigit = true) : endsIn word text = false := by
  induction text with
  | nil => rfl
  | cons c rest ih =>
      rw [List.forall_mem_cons] at digits
      obtain ⟨letter, more, spelled⟩ := List.exists_cons_of_ne_nil keyword.1
      have small : letter.isLower = true :=
        keyword.2 letter (spelled ▸ List.mem_cons_self)
      have other : isLetter letter c = false := by
        cases same : isLetter letter c with
        | false => rfl
        | true =>
            have noDigit := (word_of_isLetter small same).2
            rw [digits.1] at noDigit
            contradiction
      rw [endsIn, ih digits.2, spells, keyword?, spelled, letters?, other]
      rfl

theorem spells_of_endsIn {word : String} (keyword : IsKeyword word) {text : List Char}
    (other : endsIn word text = false) : spells word text = false := by
  cases text with
  | nil => rw [spells, keyword?_nil keyword]; rfl
  | cons c rest => exact (Bool.or_eq_false_iff.mp other).1

theorem blanks?_of_stops {text : List Char} (stops : Stops isBlank text) :
    blanks? text = none := by
  cases text with
  | nil => rfl
  | cons c rest => simp [blanks?, stops_cons_iff.mp stops]

theorem blanks?_append_cons {sign : Char} (notBlank : isBlank sign = false)
    (front back : List Char) :
    blanks? (front ++ sign :: back) = (blanks? front).map (· ++ sign :: back) := by
  cases front with
  | nil => exact blanks?_of_stops (stops_cons_iff.mpr notBlank)
  | cons c rest =>
      simp only [List.cons_append, blanks?]
      split
      · rw [skipBlanks_append_cons notBlank, Option.map_some]
      · rfl

/-- A recogniser that reads a keyword, blanks, and then something. -/
def ReadsAfter {α : Type} (word : String) (next : List Char → Option α)
    (recognise : List Char → Option α) : Prop :=
  ∀ text, recognise text = (spacedKeywords? [word] text).bind next

theorem spacedKeywords?_singleton (word : String) (text : List Char) :
    spacedKeywords? [word] text = (keyword? word text).bind blanks? :=
  rfl

/-- A keyword and blanks are read from a run of word characters exactly if the
run is the keyword and blanks follow. -/
theorem spacedKeywords?_run {word : String} (keyword : IsKeyword word) {run rest : List Char}
    (words : ∀ c ∈ run, isWord c = true) (stops : Stops isWord rest) :
    spacedKeywords? [word] (run ++ rest) = if spells word run then blanks? rest else none := by
  rw [spacedKeywords?_singleton, keyword?_append keyword stops, spells]
  cases read : keyword? word run with
  | none => rfl
  | some after =>
      cases after with
      | nil => simp
      | cons c later =>
          have inRun : c ∈ run := (suffix_of_letters? read).mem List.mem_cons_self
          have solid : Stops isBlank (c :: (later ++ rest)) :=
            stops_cons_iff.mpr (isBlank_of_isWord (words c inRun))
          simp [blanks?_of_stops solid]

/-- A keyword and blanks are not read across a sign. -/
theorem spacedKeywords?_append_cons {word : String} (keyword : IsKeyword word) {sign : Char}
    (notWord : isWord sign = false) (notBlank : isBlank sign = false) (front back : List Char) :
    spacedKeywords? [word] (front ++ sign :: back) =
      (spacedKeywords? [word] front).map (· ++ sign :: back) := by
  rw [spacedKeywords?_singleton, spacedKeywords?_singleton,
    keyword?_append keyword (stops_cons_iff.mpr notWord)]
  cases keyword? word front with
  | none => rfl
  | some rest => exact blanks?_append_cons notBlank rest back

/-! ## Searches -/

section Search

variable {α : Type} {word : String} {next recognise : List Char → Option α}
  (keyword : IsKeyword word) (reads : ReadsAfter word next recognise)

include keyword reads

/-- Nothing is found where no word character stands. -/
theorem ReadsAfter.eq_none_of_stops {text : List Char} (stops : Stops isWord text) :
    recognise text = none := by
  rw [reads, spacedKeywords?_singleton, keyword?_of_stops keyword stops]
  rfl

theorem ReadsAfter.find?_nil : find? recognise [] = none :=
  reads.eq_none_of_stops keyword (stops_nil _)

/-- Signs and blanks are passed over. -/
theorem ReadsAfter.find?_cons {sign : Char} (notWord : isWord sign = false)
    (rest : List Char) : find? recognise (sign :: rest) = find? recognise rest :=
  find?_cons_of_none (reads.eq_none_of_stops keyword (stops_cons_iff.mpr notWord))

/-- A run of word characters counts only if it ends in the keyword; then what
follows is read behind the next blanks. -/
theorem ReadsAfter.find?_run {run rest : List Char} (words : ∀ c ∈ run, isWord c = true)
    (stops : Stops isWord rest) :
    find? recognise (run ++ rest) =
      (if endsIn word run then (blanks? rest).bind next else none).or
        (find? recognise rest) := by
  induction run with
  | nil => simp [endsIn]
  | cons c later ih =>
      have laterWords : ∀ d ∈ later, isWord d = true :=
        fun d member => words d (List.mem_cons_of_mem _ member)
      have here := reads (c :: later ++ rest)
      rw [spacedKeywords?_run keyword words stops] at here
      rw [List.cons_append] at here ⊢
      rw [find?, here, ih laterWords, endsIn]
      cases spells word (c :: later) with
      | false => rfl
      | true =>
          simp only [Bool.true_or, if_true]
          cases (blanks? rest).bind next with
          | none => simp
          | some answer => rfl

/-- A run that does not end in the keyword is passed over. -/
theorem ReadsAfter.find?_other {run rest : List Char} (words : ∀ c ∈ run, isWord c = true)
    (stops : Stops isWord rest) (other : endsIn word run = false) :
    find? recognise (run ++ rest) = find? recognise rest := by
  rw [reads.find?_run keyword words stops, other]
  rfl

/-- A run is passed over if what is looked for does not stand behind it. -/
theorem ReadsAfter.find?_unless {run rest : List Char} (words : ∀ c ∈ run, isWord c = true)
    (stops : Stops isWord rest) (unread : (blanks? rest).bind next = none) :
    find? recognise (run ++ rest) = find? recognise rest := by
  rw [reads.find?_run keyword words stops, unread, ite_self]
  rfl

/-- A run with a sign after it is passed over. -/
theorem ReadsAfter.passes_run {run : List Char} (words : ∀ c ∈ run, isWord c = true)
    {sign : Char} (notWord : isWord sign = false) (notBlank : isBlank sign = false) :
    Passes recognise (run ++ [sign]) := by
  intro rest
  have unread : (blanks? (sign :: rest)).bind next = none := by
    rw [blanks?_of_stops (stops_cons_iff.mpr notBlank)]
    rfl
  rw [List.append_assoc, List.singleton_append,
    reads.find?_unless keyword words (stops_cons_iff.mpr notWord) unread,
    reads.find?_cons keyword notWord]

theorem ReadsAfter.passes_sign {sign : Char} (notWord : isWord sign = false) :
    Passes recognise [sign] :=
  fun rest => reads.find?_cons keyword notWord rest

/-- A text before a sign is passed over if it does not hold the keyword before
blanks. -/
theorem ReadsAfter.passes_of_absent {text : List Char}
    (absent : occurs (spacedKeywords? [word]) text = false) {sign : Char}
    (notWord : isWord sign = false) (notBlank : isBlank sign = false) :
    Passes recognise (text ++ [sign]) := by
  induction text with
  | nil => exact reads.passes_sign keyword notWord
  | cons c later ih =>
      rw [occurs_cons, Bool.or_eq_false_iff, Option.isSome_eq_false_iff,
        Option.isNone_iff_eq_none] at absent
      refine Passes.cons (fun rest => ?_) (ih absent.2)
      have here := spacedKeywords?_append_cons keyword notWord notBlank (c :: later) rest
      rw [absent.1] at here
      have whole : c :: (later ++ [sign] ++ rest) = c :: later ++ sign :: rest := by simp
      change recognise (c :: (later ++ [sign] ++ rest)) = none
      rw [whole, reads, here]
      rfl

end Search

theorem readsAfter_keywords? (first second : String) :
    ReadsAfter first (keyword? second) (keywords? [first, second]) := by
  intro text
  rw [spacedKeywords?_singleton, Option.bind_assoc]
  rfl

theorem keywords?_append_cons {first second : String} (firstKeyword : IsKeyword first)
    (secondKeyword : IsKeyword second) {sign : Char} (notWord : isWord sign = false)
    (notBlank : isBlank sign = false) (front back : List Char) :
    keywords? [first, second] (front ++ sign :: back) =
      (keywords? [first, second] front).map (· ++ sign :: back) := by
  rw [readsAfter_keywords?, readsAfter_keywords?,
    spacedKeywords?_append_cons firstKeyword notWord notBlank]
  cases spacedKeywords? [first] front with
  | none => rfl
  | some rest => exact keyword?_append secondKeyword (stops_cons_iff.mpr notWord) rest

/-- A phrase stands in a text with a sign exactly if it stands before the sign
or behind it. -/
theorem occurs_keywords?_append_cons {first second : String} (firstKeyword : IsKeyword first)
    (secondKeyword : IsKeyword second) {sign : Char} (notWord : isWord sign = false)
    (notBlank : isBlank sign = false) (front back : List Char) :
    occurs (keywords? [first, second]) (front ++ sign :: back) =
      (occurs (keywords? [first, second]) front || occurs (keywords? [first, second]) back) := by
  have reads := readsAfter_keywords? first second
  induction front with
  | nil => simp [occurs, reads.find?_cons firstKeyword notWord, reads.find?_nil firstKeyword]
  | cons c rest ih =>
      rw [List.cons_append, occurs_cons, ih, occurs_cons, ← List.cons_append,
        keywords?_append_cons firstKeyword secondKeyword notWord notBlank, Option.isSome_map,
        Bool.or_assoc]

section Seam

variable {first second : String} (firstKeyword : IsKeyword first)
  (secondKeyword : IsKeyword second) {back : List Char} (stops : Stops isWord back)
  (unread : (blanks? back).bind (keyword? second) = none)

include firstKeyword secondKeyword stops unread

/-- A phrase is not read across a place that no blank stands before and that
neither goes on with a word character nor with its second word. -/
theorem keywords?_append {front : List Char} (solid : Stops isBlank front.reverse) :
    keywords? [first, second] (front ++ back) =
      (keywords? [first, second] front).map (· ++ back) := by
  rw [readsAfter_keywords?, readsAfter_keywords?, spacedKeywords?_singleton,
    spacedKeywords?_singleton, keyword?_append firstKeyword stops]
  cases read : keyword? first front with
  | none => rfl
  | some rest =>
      rw [Option.map_some, Option.bind_some, Option.bind_some]
      have restSolid := stops_reverse_of_suffix solid (suffix_of_letters? read)
      rcases List.eq_nil_or_concat rest with rfl | ⟨before, last, rfl⟩
      · exact unread
      · rw [List.concat_eq_append, List.reverse_append] at restSolid
        have notBlank : isBlank last = false := stops_cons_iff.mp restSolid
        rw [List.concat_eq_append, List.append_assoc, List.singleton_append,
          blanks?_append_cons notBlank, blanks?_append_cons notBlank]
        cases blanks? before with
        | none => rfl
        | some between =>
            have split : between ++ last :: back = (between ++ [last]) ++ back := by simp
            simp only [Option.map_some, Option.bind_some]
            rw [split]
            exact keyword?_append secondKeyword stops _

/-- A phrase stands in a text exactly if it stands in one of two parts that it
is not read across. -/
theorem occurs_keywords?_append {front : List Char} (solid : Stops isBlank front.reverse) :
    occurs (keywords? [first, second]) (front ++ back) =
      (occurs (keywords? [first, second]) front || occurs (keywords? [first, second]) back) := by
  induction front with
  | nil => simp [occurs, (readsAfter_keywords? first second).find?_nil firstKeyword]
  | cons c rest ih =>
      have restSolid := stops_reverse_of_suffix solid (List.suffix_cons c rest)
      rw [List.cons_append, occurs_cons, ih restSolid, occurs_cons, ← List.cons_append,
        keywords?_append firstKeyword secondKeyword stops unread solid, Option.isSome_map,
        Bool.or_assoc]

end Seam

section WholeWord

variable {word : String} (keyword : IsKeyword word)

include keyword

theorem wholeKeyword?_append_cons {sign : Char} (notWord : isWord sign = false)
    (front back : List Char) :
    wholeKeyword? word (front ++ sign :: back) =
      (wholeKeyword? word front).map (· ++ sign :: back) := by
  have follows : ∀ rest, wordFollows (rest ++ sign :: back) = wordFollows rest := by
    intro rest
    cases rest with
    | nil => exact notWord
    | cons c later => rfl
  simp only [wholeKeyword?, keyword?_append keyword (stops_cons_iff.mpr notWord),
    Option.bind_eq_bind]
  cases keyword? word front with
  | none => rfl
  | some rest =>
      simp only [Option.map_some, Option.bind_some, follows]
      split <;> rfl

/-- A whole word stands in a text with a sign exactly if it stands before the
sign or behind it. -/
theorem hasWholeKeyword_append_cons {sign : Char} (notWord : isWord sign = false)
    (inWord : Bool) (front back : List Char) :
    hasWholeKeyword word inWord (front ++ sign :: back) =
      (hasWholeKeyword word inWord front || hasWholeKeyword word false back) := by
  induction front generalizing inWord with
  | nil =>
      have unread : wholeKeyword? word (sign :: back) = none := by
        rw [wholeKeyword?, keyword?_of_stops keyword (stops_cons_iff.mpr notWord)]
        rfl
      simp [hasWholeKeyword, unread, notWord]
  | cons c rest ih =>
      rw [List.cons_append, hasWholeKeyword, ih, hasWholeKeyword, ← List.cons_append,
        wholeKeyword?_append_cons keyword notWord, Option.isSome_map, Bool.or_assoc]

/-- A sign is no part of a whole word. -/
theorem hasWholeKeyword_cons {sign : Char} (notWord : isWord sign = false) (inWord : Bool)
    (rest : List Char) :
    hasWholeKeyword word inWord (sign :: rest) = hasWholeKeyword word false rest := by
  have split := hasWholeKeyword_append_cons keyword notWord inWord [] rest
  rwa [List.nil_append, hasWholeKeyword, Bool.false_or] at split

omit keyword in
/-- A keyword is a whole word of a run of word characters exactly if it is the
run. -/
theorem isSome_wholeKeyword?_run {run : List Char} (words : ∀ c ∈ run, isWord c = true) :
    (wholeKeyword? word run).isSome = spells word run := by
  rw [wholeKeyword?, spells]
  cases read : keyword? word run with
  | none => rfl
  | some after =>
      cases after with
      | nil => rfl
      | cons c later =>
          have inRun : c ∈ run := (suffix_of_letters? read).mem List.mem_cons_self
          simp [wordFollows, words c inRun]

theorem hasWholeKeyword_run {run : List Char} (words : ∀ c ∈ run, isWord c = true) :
    hasWholeKeyword word false run = spells word run := by
  have inside : ∀ rest : List Char, (∀ c ∈ rest, isWord c = true) →
      hasWholeKeyword word true rest = false := by
    intro rest
    induction rest with
    | nil => simp [hasWholeKeyword]
    | cons c later ih =>
        intro restWords
        rw [List.forall_mem_cons] at restWords
        simp [hasWholeKeyword, restWords.1, ih restWords.2]
  cases run with
  | nil => simp [hasWholeKeyword, spells, keyword?_nil keyword]
  | cons c rest =>
      rw [hasWholeKeyword, isSome_wholeKeyword?_run words, words c List.mem_cons_self,
        inside rest fun d member => words d (List.mem_cons_of_mem _ member)]
      simp

end WholeWord

end Crowsfoot.Sql
