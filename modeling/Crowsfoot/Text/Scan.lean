import Crowsfoot.Text.Alphanumeric
import Crowsfoot.Text.Blank
import Crowsfoot.Text.Case

/-!
# Recognisers

A recogniser looks at the beginning of a text.  It fails with `none`, or
answers what it has read together with the text that follows.  The notations
of this library are regular enough to be read from left to right without
returning: each recogniser takes the longest run it can.
-/

namespace Crowsfoot.Text

/-- Exactly the characters of `expected`. -/
def literal? : List Char → List Char → Option (List Char)
  | [], text => some text
  | _ :: _, [] => none
  | expected :: more, c :: rest =>
      if c == expected then literal? more rest else none

/-- The ASCII word `letters`, given in small letters, in either case. -/
def letters? : List Char → List Char → Option (List Char)
  | [], text => some text
  | _ :: _, [] => none
  | letter :: more, c :: rest =>
      if isLetter letter c then letters? more rest else none

/-- A keyword in either case. -/
def keyword? (word : String) (text : List Char) : Option (List Char) :=
  letters? word.toList text

/-- Remove leading blanks. -/
def skipBlanks (text : List Char) : List Char :=
  text.dropWhile isBlank

/-- One or more blanks. -/
def blanks? : List Char → Option (List Char)
  | [] => none
  | c :: rest => if isBlank c then some (skipBlanks rest) else none

/-- Several keywords with blanks between neighbours. -/
def keywords? : List String → List Char → Option (List Char)
  | [], text => some text
  | [word], text => keyword? word text
  | word :: next :: later, text => do
      let text ← keyword? word text
      let text ← blanks? text
      keywords? (next :: later) text

/-- One or more characters that satisfy `takes`. -/
def run? (takes : Char → Bool) (text : List Char) : Option (List Char × List Char) :=
  match text.takeWhile takes with
  | [] => none
  | taken => some (taken, text.dropWhile takes)

/-- A bare name: one or more word characters. -/
def name? (text : List Char) : Option (List Char × List Char) :=
  run? isWord text

/-- Characters other than `closing` up to the first `closing`, which is
consumed. -/
def upTo? (closing : Char) (text : List Char) : Option (List Char × List Char) :=
  match text.dropWhile (· != closing) with
  | [] => none
  | _ :: rest => some (text.takeWhile (· != closing), rest)

/-- Whether a text goes on with a word character. -/
def wordFollows : List Char → Bool
  | [] => false
  | c :: _ => isWord c

/-- The answer of a recogniser at the leftmost place where it succeeds. -/
def find? {α : Type} (recognise : List Char → Option α) : List Char → Option α
  | [] => recognise []
  | c :: rest =>
      match recognise (c :: rest) with
      | some answer => some answer
      | none => find? recognise rest

/-- Whether a recogniser succeeds somewhere. -/
def occurs {α : Type} (recognise : List Char → Option α) (text : List Char) : Bool :=
  (find? recognise text).isSome

/-- Whether `part` stands somewhere in a text. -/
def contains (part text : List Char) : Bool :=
  occurs (literal? part) text

/-! ## Progress -/

theorem length_dropWhile_le (drops : Char → Bool) (text : List Char) :
    (text.dropWhile drops).length ≤ text.length := by
  induction text with
  | nil => simp
  | cons c rest ih =>
      simp only [List.dropWhile_cons]
      split
      · exact Nat.le_succ_of_le ih
      · exact Nat.le_refl _

/-- A reader that compares a text with a word, character by character, leaves no
more than the text. -/
theorem length_of_compared {read? : List Char → List Char → Option (List Char)}
    {same : Char → Char → Bool} (ended : ∀ text, read? [] text = some text)
    (short : ∀ first more, read? (first :: more) [] = none)
    (step : ∀ first more c later, read? (first :: more) (c :: later) =
      if same first c then read? more later else none)
    {word text rest : List Char} (matched : read? word text = some rest) :
    rest.length ≤ text.length := by
  induction word generalizing text with
  | nil =>
      rw [ended, Option.some.injEq] at matched
      exact Nat.le_of_eq (congrArg List.length matched.symm)
  | cons first more ih =>
      cases text with
      | nil => simp [short] at matched
      | cons c later =>
          rw [step] at matched
          split at matched
          · exact Nat.le_succ_of_le (ih matched)
          · simp at matched

theorem length_of_literal? {expected text rest : List Char}
    (matched : literal? expected text = some rest) :
    rest.length ≤ text.length :=
  length_of_compared (fun _ => rfl) (fun _ _ => rfl) (fun _ _ _ _ => rfl) matched

theorem length_of_blanks? {text rest : List Char} (matched : blanks? text = some rest) :
    rest.length ≤ text.length := by
  cases text with
  | nil => simp [blanks?] at matched
  | cons c later =>
      simp only [blanks?] at matched
      split at matched
      · simp only [Option.some.injEq] at matched
        exact matched ▸ Nat.le_succ_of_le (length_dropWhile_le _ _)
      · simp at matched

theorem length_of_run? {takes : Char → Bool} {text taken rest : List Char}
    (matched : run? takes text = some (taken, rest)) :
    rest.length ≤ text.length := by
  simp only [run?] at matched
  split at matched
  · simp at matched
  · simp only [Option.some.injEq, Prod.mk.injEq] at matched
    exact matched.2 ▸ length_dropWhile_le _ _

theorem length_of_upTo? {closing : Char} {text inside after : List Char}
    (found : upTo? closing text = some (inside, after)) :
    after.length < text.length := by
  have shorter := length_dropWhile_le (· != closing) text
  simp only [upTo?] at found
  split at found
  · simp at found
  · rename_i c rest dropped
    simp only [Option.some.injEq, Prod.mk.injEq] at found
    obtain ⟨-, rfl⟩ := found
    rw [dropped, List.length_cons] at shorter
    exact shorter

theorem length_of_letters? {letters text rest : List Char}
    (matched : letters? letters text = some rest) :
    rest.length ≤ text.length :=
  length_of_compared (fun _ => rfl) (fun _ _ => rfl) (fun _ _ _ _ => rfl) matched

theorem length_of_keywords? {words : List String} {text rest : List Char}
    (matched : keywords? words text = some rest) :
    rest.length ≤ text.length := by
  fun_induction keywords? words text with
  | case1 => exact Nat.le_of_eq (congrArg List.length (Option.some.inj matched).symm)
  | case2 => exact length_of_letters? matched
  | case3 text word next later ih =>
      simp only [Option.bind_eq_bind, Option.bind_eq_some_iff] at matched
      obtain ⟨afterWord, wordMatched, afterBlanks, blanksMatched, laterMatched⟩ := matched
      exact Nat.le_trans (ih _ laterMatched)
        (Nat.le_trans (length_of_blanks? blanksMatched) (length_of_letters? wordMatched))

/-- A recogniser that reads something leaves less text wherever it
succeeds. -/
theorem length_of_find? {α : Type} {recognise : List Char → Option (α × List Char)}
    (reads : ∀ {text rest : List Char} {answer : α},
      recognise text = some (answer, rest) → rest.length < text.length)
    {text rest : List Char} {answer : α}
    (found : find? recognise text = some (answer, rest)) :
    rest.length < text.length := by
  induction text with
  | nil => exact reads found
  | cons c later ih =>
      simp only [find?] at found
      split at found
      · rename_i matched
        exact reads (matched.trans found)
      · exact Nat.lt_succ_of_lt (ih found)

end Crowsfoot.Text
