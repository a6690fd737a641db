import Mathlib.Data.List.Infix
import Crowsfoot.Proofs.Sql.Remainders

/-!
# What is read before a quote

The name and the type of a column, and the words that make a definition a
constraint or an index, stand in front of its literals.  What is read there does
not depend on what stands behind the quote of a literal.
-/

namespace Crowsfoot.Sql

open Crowsfoot.Text

theorem stops_append_cons {takes : Char → Bool} {rest : List Char} {sign : Char}
    {behind : List Char} (stops : Stops takes (rest ++ sign :: behind)) (other : List Char) :
    Stops takes (rest ++ sign :: other) := by
  cases rest with
  | nil => exact stops
  | cons c later => exact stops

/-- A run that ends before a sign does so whatever follows the sign. -/
theorem run?_before {takes : Char → Bool} {front rest taken : List Char} {sign : Char}
    {behind : List Char}
    (found : run? takes (front ++ sign :: behind) = some (taken, rest ++ sign :: behind))
    (other : List Char) :
    run? takes (front ++ sign :: other) = some (taken, rest ++ sign :: other) := by
  obtain ⟨nonempty, spelled, all, stops⟩ := run?_eq_some_iff.mp found
  rw [← List.append_assoc] at spelled
  obtain rfl := List.append_cancel_right spelled
  rw [List.append_assoc]
  exact run?_append nonempty all (stops_append_cons stops other)

theorem upTo?_before {closing : Char} {front inside rest : List Char} {sign : Char}
    {behind : List Char}
    (found : upTo? closing (front ++ sign :: behind) = some (inside, rest ++ sign :: behind))
    (other : List Char) :
    upTo? closing (front ++ sign :: other) = some (inside, rest ++ sign :: other) := by
  obtain ⟨spelled, absent⟩ := upTo?_eq_some_iff.mp found
  rw [← List.cons_append, ← List.append_assoc] at spelled
  obtain rfl := List.append_cancel_right spelled
  rw [List.append_assoc, List.cons_append]
  exact upTo?_append absent _

theorem columnName?_before {front name rest behind : List Char}
    (found : columnName? (front ++ '\x27' :: behind) = some (name, rest ++ '\x27' :: behind))
    (other : List Char) :
    columnName? (front ++ '\x27' :: other) = some (name, rest ++ '\x27' :: other) := by
  cases front with
  | nil => contradiction
  | cons c later =>
      rw [List.cons_append, columnName?] at found ⊢
      by_cases mark : isNameMark c = true
      · rw [if_pos mark] at found ⊢
        split at found
        · rename_i closing after quoted
          obtain ⟨rfl, rfl⟩ := Prod.mk.inj (Option.some.inj found)
          rw [← List.cons_append] at quoted
          rw [run?_before quoted other]
          rfl
        · contradiction
      · rw [if_neg mark] at found ⊢
        rw [← List.cons_append] at found ⊢
        exact run?_before found other

/-- A list that is closed before the quote is read whatever follows the quote. -/
theorem parenthesizedList?_before {front inside rest behind : List Char}
    (found : parenthesizedList? (front ++ '\x27' :: behind) =
      some (inside, rest ++ '\x27' :: behind)) (other : List Char) :
    parenthesizedList? (front ++ '\x27' :: other) = some (inside, rest ++ '\x27' :: other) := by
  rw [parenthesizedList?, skipBlanks_append_cons rfl] at found ⊢
  generalize skipBlanks front = begun at found ⊢
  cases begun with
  | nil => simp at found
  | cons c later =>
      by_cases opening : c = '('
      · subst opening
        exact upTo?_before found other
      · simp [opening] at found

/-- No list is read whatever follows the quote, if what is opened before the quote
is closed. -/
theorem parenthesizedList?_none_before {front behind : List Char}
    (failed : parenthesizedList? (front ++ '\x27' :: behind) = none)
    (closes : (skipBlanks front).head? = some '(' → ')' ∈ skipBlanks front ++ '\x27' :: behind)
    (other : List Char) : parenthesizedList? (front ++ '\x27' :: other) = none := by
  rw [parenthesizedList?, skipBlanks_append_cons rfl] at failed ⊢
  generalize skipBlanks front = begun at failed closes ⊢
  cases begun with
  | nil => simp
  | cons c later =>
      by_cases opening : c = '('
      · subst opening
        have unclosed : ')' ∉ later ++ '\x27' :: behind := upTo?_eq_none_iff.mp failed
        exact absurd (by simpa using closes rfl) unclosed
      · simp [opening]

/-- A type with the brackets of a list behind it, and what stands behind them. -/
def withBrackets (token : List Char) : List Char → List Char × List Char
  | '[' :: ']' :: after => (token ++ ['[', ']'], after)
  | after => (token, after)

theorem withBrackets_suffix (token after : List Char) : (withBrackets token after).2 <:+ after := by
  rw [withBrackets.eq_def]
  split
  · exact List.suffix_append ['[', ']'] _
  · exact List.suffix_rfl

theorem withBrackets_before {token front type rest behind : List Char}
    (found : withBrackets token (front ++ '\x27' :: behind) = (type, rest ++ '\x27' :: behind))
    (other : List Char) :
    withBrackets token (front ++ '\x27' :: other) = (type, rest ++ '\x27' :: other) ∧
      (front = rest ∨ front = '[' :: ']' :: rest) := by
  by_cases brackets : ∃ later, front = '[' :: ']' :: later
  · obtain ⟨later, rfl⟩ := brackets
    obtain ⟨rfl, same⟩ := Prod.mk.inj found
    obtain rfl := List.append_cancel_right same
    exact ⟨rfl, .inr rfl⟩
  · have plain (behind : List Char) : withBrackets token (front ++ '\x27' :: behind) =
        (token, front ++ '\x27' :: behind) := by
      rw [withBrackets]
      intro after spelled
      cases front with
      | nil => exact absurd (List.cons.inj spelled).1 (by decide)
      | cons c later =>
          cases later with
          | nil =>
              exact absurd (List.cons.inj (List.cons.inj spelled).2).1 (by decide)
          | cons d further =>
              obtain ⟨rfl, spelledLater⟩ := List.cons.inj spelled
              obtain ⟨rfl, -⟩ := List.cons.inj spelledLater
              exact brackets ⟨further, rfl⟩
    rw [plain] at found ⊢
    obtain ⟨rfl, same⟩ := Prod.mk.inj found
    obtain rfl := List.append_cancel_right same
    exact ⟨rfl, .inl rfl⟩

/-- What is read behind the word of a type: parameters, if a list follows. -/
def parameters? (text : List Char) : List Char × List Char :=
  match parenthesizedList? text with
  | some (inside, after) => ('(' :: (inside ++ [')']), after)
  | none => ([], text)

theorem typeToken?_cons {c : Char} (letter : c.isAlpha = true) (rest : List Char) :
    typeToken? (c :: rest) =
      some (withBrackets
        (removeBlanks
          (c :: rest.takeWhile isTypeChar ++ (parameters? (rest.dropWhile isTypeChar)).1))
        (parameters? (rest.dropWhile isTypeChar)).2) := by
  have brackets (token after : List Char) :
      (match after with
        | '[' :: ']' :: later => some (token ++ ['[', ']'], later)
        | later => some (token, later)) = some (withBrackets token after) := by
    rw [withBrackets.eq_def]
    split <;> rfl
  rw [typeToken?, letter]
  exact brackets _ _

/-- Parameters are read whatever follows the quote, if what is opened before the
quote is closed. -/
theorem parameters?_before {front rest behind : List Char}
    (found : (parameters? (front ++ '\x27' :: behind)).2 = rest ++ '\x27' :: behind)
    (closes : (skipBlanks rest).head? = some '(' → ')' ∈ skipBlanks rest ++ '\x27' :: behind)
    (other : List Char) :
    parameters? (front ++ '\x27' :: other) =
      ((parameters? (front ++ '\x27' :: behind)).1, rest ++ '\x27' :: other) := by
  rw [parameters?] at found
  rw [parameters?, parameters?]
  cases listed : parenthesizedList? (front ++ '\x27' :: behind) with
  | none =>
      rw [listed] at found
      obtain rfl := List.append_cancel_right found
      rw [parenthesizedList?_none_before listed closes other]
  | some parts =>
      obtain ⟨inside, after⟩ := parts
      rw [listed] at found
      obtain rfl : after = rest ++ '\x27' :: behind := found
      rw [parenthesizedList?_before listed other]

theorem typeToken?_before {front type rest behind : List Char}
    (found : typeToken? (front ++ '\x27' :: behind) = some (type, rest ++ '\x27' :: behind))
    (closes : (skipBlanks rest).head? = some '(' → ')' ∈ skipBlanks rest ++ '\x27' :: behind)
    (other : List Char) :
    typeToken? (front ++ '\x27' :: other) = some (type, rest ++ '\x27' :: other) := by
  cases front with
  | nil => contradiction
  | cons c later =>
      have letter : c.isAlpha = true := by
        by_contra noLetter
        simp [typeToken?, noLetter] at found
      have read (behind : List Char) := typeToken?_cons letter (later ++ '\x27' :: behind)
      have noType (behind : List Char) : Stops isTypeChar ('\x27' :: behind) :=
        stops_cons_iff.mpr rfl
      simp only [takeWhile_before (noType _), dropWhile_before (noType _)] at read
      rw [List.cons_append, read] at found ⊢
      have found := Option.some.inj found
      have reaches := withBrackets_suffix
        (removeBlanks (c :: later.takeWhile isTypeChar ++
          (parameters? (later.dropWhile isTypeChar ++ '\x27' :: behind)).1))
        (parameters? (later.dropWhile isTypeChar ++ '\x27' :: behind)).2
      rw [found] at reaches
      obtain ⟨between, spelled⟩ := (List.suffix_append rest ('\x27' :: behind)).trans reaches
      rw [← spelled] at found
      obtain ⟨bracketed, sameOrBrackets⟩ := withBrackets_before found other
      have closesBetween : (skipBlanks between).head? = some '(' →
          ')' ∈ skipBlanks between ++ '\x27' :: behind := by
        rcases sameOrBrackets with rfl | rfl
        · exact closes
        · exact fun opening => absurd (Option.some.inj opening) (by decide)
      rw [parameters?_before spelled.symm closesBetween other, bracketed]

/-! ## Columns -/

/-- Every step of reading a column whose clauses reach over a quote leaves a text
that does. -/
theorem exists_steps_of_columnParts? {front name type clauses behind : List Char}
    (found : columnParts? (front ++ '\x27' :: behind) =
      some (name, type, clauses ++ '\x27' :: behind)) :
    ∃ afterName beforeType afterType, afterName <:+ front ∧
      columnName? (front ++ '\x27' :: behind) = some (name, afterName ++ '\x27' :: behind) ∧
      blanks? afterName = some beforeType ∧
      typeToken? (beforeType ++ '\x27' :: behind) = some (type, afterType ++ '\x27' :: behind) ∧
      skipBlanks afterType = clauses := by
  simp only [columnParts?, Option.bind_eq_bind, Option.bind_eq_some_iff, Option.pure_def,
    Option.some.injEq, Prod.mk.injEq] at found
  obtain ⟨⟨name, restName⟩, named, restBlanks, blanks, ⟨type, restType⟩, typed, rfl, rfl, same⟩ :=
    found
  have quoted : '\x27' :: behind <:+ restType :=
    (List.suffix_append clauses _).trans (same ▸ List.dropWhile_suffix _)
  obtain ⟨afterType, rfl⟩ := quoted
  obtain ⟨beforeType, rfl⟩ := (List.suffix_append afterType _).trans (suffix_of_typeToken? typed)
  obtain ⟨afterName, rfl⟩ := (List.suffix_append beforeType _).trans (suffix_of_blanks? blanks)
  obtain ⟨spelled, splits⟩ := suffix_of_columnName? named
  rw [← List.append_assoc] at splits
  rw [blanks?_append_cons rfl] at blanks
  obtain ⟨rest, blanksRead, sameRest⟩ := Option.map_eq_some_iff.mp blanks
  obtain rfl := List.append_cancel_right sameRest
  rw [skipBlanks_append_cons rfl] at same
  exact ⟨afterName, rest, afterType, ⟨spelled, List.append_cancel_right splits⟩, named, blanksRead,
    typed, List.append_cancel_right same⟩

/-- The parts of such a column are the same whatever follows the quote, but for
the end of the clauses. -/
theorem columnParts?_before {front name type clauses behind : List Char}
    (found : columnParts? (front ++ '\x27' :: behind) =
      some (name, type, clauses ++ '\x27' :: behind))
    (closes : clauses.head? = some '(' → ')' ∈ clauses ++ '\x27' :: behind)
    (other : List Char) :
    columnParts? (front ++ '\x27' :: other) = some (name, type, clauses ++ '\x27' :: other) := by
  obtain ⟨afterName, beforeType, afterType, -, named, blanks, typed, rfl⟩ :=
    exists_steps_of_columnParts? found
  have notBlank : isBlank '\x27' = false := rfl
  simp only [columnParts?, columnName?_before named other, Option.bind_eq_bind, Option.bind_some,
    blanks?_append_cons notBlank, blanks, Option.map_some, typeToken?_before typed closes other,
    Option.pure_def, skipBlanks_append_cons notBlank]

/-- A blank stands behind the name of a column. -/
theorem exists_blank_of_columnParts? {front name type clauses behind : List Char}
    (found : columnParts? (front ++ '\x27' :: behind) =
      some (name, type, clauses ++ '\x27' :: behind)) : ∃ c ∈ front, isBlank c = true := by
  obtain ⟨afterName, beforeType, afterType, suffix, -, blanks, -, -⟩ :=
    exists_steps_of_columnParts? found
  cases afterName with
  | nil => contradiction
  | cons c later =>
      refine ⟨c, suffix.mem List.mem_cons_self, ?_⟩
      by_contra solid
      rw [blanks?, if_neg solid] at blanks
      contradiction

theorem quotedPart?_of_ne {mark c : Char} (other : c ≠ mark) (rest : List Char) :
    quotedPart? mark (c :: rest) = none := by
  rw [quotedPart?, if_pos (bne_iff_ne.mpr other)]

theorem quotedPart?_append {mark : Char} {text part after : List Char}
    (found : quotedPart? mark text = some (part, after)) (behind : List Char) :
    quotedPart? mark (text ++ behind) = some (part, after ++ behind) := by
  cases text with
  | nil => contradiction
  | cons c rest =>
      rw [List.cons_append, quotedPart?] at *
      split at found
      · contradiction
      · rename_i same
        simp only [Option.bind_eq_bind, Option.bind_eq_some_iff] at found
        obtain ⟨⟨inside, later⟩, closed, kept⟩ := found
        obtain ⟨rfl, absent⟩ := upTo?_eq_some_iff.mp closed
        rw [if_neg same, List.append_assoc, List.cons_append, upTo?_append absent]
        dsimp only [Option.bind_eq_bind, Option.bind_some] at kept ⊢
        split at kept
        · contradiction
        · rename_i nonempty
          obtain ⟨rfl, rfl⟩ := Prod.mk.inj (Option.some.inj kept)
          rw [if_neg nonempty]
          rfl

theorem namePart?_of_noMark {c : Char} (noMark : isNameMark c = false) (rest : List Char) :
    namePart? (c :: rest) = if isWord c || c == '.' then some ([c], rest) else none := by
  simp only [isNameMark, Bool.or_eq_false_iff, beq_eq_false_iff_ne] at noMark
  rw [namePart?, quotedPart?_of_ne noMark.1, quotedPart?_of_ne noMark.2]

theorem namePart?_of_mark {c : Char} (mark : isNameMark c = true) (rest : List Char) :
    namePart? (c :: rest) = quotedPart? c (c :: rest) := by
  simp only [isNameMark, Bool.or_eq_true, beq_iff_eq] at mark
  rcases mark with rfl | rfl
  · rw [namePart?, quotedPart?_of_ne (show '\x22' ≠ '\x60' by decide)]
    cases quotedPart? '\x22' ('\x22' :: rest) <;> rfl
  · rw [namePart?, quotedPart?_of_ne (show '\x60' ≠ '\x22' by decide)]
    cases quotedPart? '\x60' ('\x60' :: rest) <;> rfl

theorem namePart?_append {text part after : List Char} (found : namePart? text = some (part, after))
    (behind : List Char) : namePart? (text ++ behind) = some (part, after ++ behind) := by
  cases text with
  | nil => contradiction
  | cons c rest =>
      cases mark : isNameMark c with
      | true =>
          rw [namePart?_of_mark mark] at found
          rw [List.cons_append, namePart?_of_mark mark]
          exact quotedPart?_append found behind
      | false =>
          rw [namePart?_of_noMark mark] at found
          rw [List.cons_append, namePart?_of_noMark mark]
          split at found
          · rename_i part
            obtain ⟨rfl, rfl⟩ := Prod.mk.inj (Option.some.inj found)
            rw [if_pos part]
          · contradiction

/-- A name that leaves no quoted part open is read whatever follows the quote. -/
theorem nameParts_before {front : List Char}
    (noMark : ∀ c ∈ (nameParts front).2.head?, isNameMark c = false) (behind : List Char) :
    nameParts (front ++ '\x27' :: behind) =
      ((nameParts front).1, (nameParts front).2 ++ '\x27' :: behind) := by
  fun_induction nameParts front with
  | case1 text ends =>
      have failed : namePart? (text ++ '\x27' :: behind) = none := by
        cases text with
        | nil => exact namePart?_of_noMark rfl behind
        | cons c rest =>
            have plain := noMark c rfl
            rw [namePart?_of_noMark plain] at ends
            rw [List.cons_append, namePart?_of_noMark plain]
            split at ends
            · contradiction
            · rename_i sign
              rw [if_neg sign]
      rw [nameParts]
      split
      · rfl
      · rename_i found
        rw [failed] at found
        contradiction
  | case2 text part after found parts rest read ih =>
      rw [read] at ih
      have same := namePart?_append found ('\x27' :: behind)
      rw [nameParts]
      split
      · rename_i failed
        rw [same] at failed
        contradiction
      · rename_i other otherAfter otherFound
        obtain ⟨rfl, rfl⟩ := Prod.mk.inj (Option.some.inj (same.symm.trans otherFound))
        rw [ih noMark]

/-- Whether the text behind the word `references` leaves no quoted part of a name
and no list open. -/
def ClosesReference (text : List Char) : Prop :=
  (∀ c ∈ (nameParts text).2.head?, isNameMark c = false) ∧
    ((skipBlanks (nameParts text).2).head? = some '(' → ')' ∈ skipBlanks (nameParts text).2)

instance (text : List Char) : Decidable (ClosesReference text) :=
  inferInstanceAs (Decidable (_ ∧ _))

theorem parenthesizedList?_closed {front : List Char}
    (closes : (skipBlanks front).head? = some '(' → ')' ∈ skipBlanks front) (behind : List Char) :
    parenthesizedList? (front ++ '\x27' :: behind) =
      (parenthesizedList? front).map fun (inside, after) =>
        (inside, after ++ '\x27' :: behind) := by
  rw [parenthesizedList?, parenthesizedList?, skipBlanks_append_cons rfl]
  generalize skipBlanks front = begun at closes ⊢
  cases begun with
  | nil => simp
  | cons c later =>
      by_cases opening : c = '('
      · subst opening
        have closing : ')' ∈ later := by simpa using closes rfl
        obtain ⟨inside, after, rfl, absent⟩ := List.eq_append_cons_of_mem closing
        simp [upTo?_append absent]
      · simp [opening]

/-- A closed reference is read whatever follows the quote. -/
theorem target?_before {front : List Char} (closes : ClosesReference front) (behind : List Char) :
    target? (front ++ '\x27' :: behind) = target? front := by
  have parts := nameParts_before closes.1 behind
  have listed := parenthesizedList?_closed closes.2 behind
  rw [target?, target?, qualifiedName?, qualifiedName?, parts]
  generalize nameParts front = read at listed ⊢
  obtain ⟨name, rest⟩ := read
  cases name with
  | nil => rfl
  | cons c later =>
      simp only [Option.map_some, listed]
      cases parenthesizedList? rest <;> rfl

/-- Whether every references clause in a text is closed. -/
def ClosesReferences (text : List Char) : Prop :=
  ∀ suffix ∈ text.tails, ∀ behind ∈ spacedKeywords? ["references"] suffix, ClosesReference behind

instance (text : List Char) : Decidable (ClosesReferences text) :=
  inferInstanceAs (Decidable (∀ suffix ∈ text.tails, _))

theorem ClosesReferences.tail {c : Char} {rest : List Char}
    (closes : ClosesReferences (c :: rest)) : ClosesReferences rest := by
  intro suffix member
  rw [List.mem_tails] at member
  exact closes suffix ((List.mem_tails _ _).mpr (member.trans (List.suffix_cons c rest)))

theorem reference?_before {front : List Char} (closes : ClosesReferences front)
    (behind : List Char) : reference? (front ++ '\x27' :: behind) = reference? front := by
  rw [readsAfter_reference?, readsAfter_reference?,
    spacedKeywords?_append_cons isKeyword_references rfl rfl]
  cases read : spacedKeywords? ["references"] front with
  | none => rfl
  | some rest =>
      have whole : front ∈ front.tails := (List.mem_tails _ _).mpr List.suffix_rfl
      exact target?_before (closes front whole rest read) behind

/-- Where every references clause in front of a quote is closed, the first one that
is found stands in front of the quote or behind it. -/
theorem find?_reference?_before {front : List Char} (closes : ClosesReferences front)
    (behind : List Char) :
    find? reference? (front ++ '\x27' :: behind) =
      (find? reference? front).or (find? reference? behind) := by
  induction front with
  | nil =>
      rw [readsAfter_reference?.find?_nil isKeyword_references]
      exact readsAfter_reference?.find?_cons isKeyword_references rfl behind
  | cons c later ih =>
      have here := reference?_before closes behind
      rw [List.cons_append] at here ⊢
      rw [find?, here, find?, ih closes.tail]
      cases reference? (c :: later) <;> rfl

end Crowsfoot.Sql
