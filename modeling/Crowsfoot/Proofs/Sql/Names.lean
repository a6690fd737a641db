import Crowsfoot.Proofs.Sql.Script
import Crowsfoot.Proofs.Text.Lines

/-!
# Plain names

A name of word characters is read whole where no part of a name follows it, and
a list of such names is cut into its names again.  Numbers are runs of word
characters too.
-/

namespace Crowsfoot.Sql

open Crowsfoot.Text

theorem isWord_of_isTypeChar {c : Char} (typeChar : isTypeChar c = true) : isWord c = true := by
  simp only [isTypeChar, Bool.or_eq_true, beq_iff_eq] at typeChar
  rcases typeChar with alphanumeric | rfl
  · exact isWord_of_isAlphanum alphanumeric
  · rfl

theorem isTypeChar_of_isPlainName {text : List Char} (plain : isPlainName text = true) :
    ∀ c ∈ text, isTypeChar c = true := by
  cases text with
  | nil => simp
  | cons c rest =>
      simp only [isPlainName, Bool.and_eq_true, Bool.or_eq_true, beq_iff_eq,
        List.all_eq_true] at plain
      rw [List.forall_mem_cons]
      refine ⟨?_, plain.2⟩
      rcases plain.1 with alpha | rfl
      · simp [isTypeChar, isAlphanum_of_isAlpha alpha]
      · rfl

/-- A nonempty text of word characters. -/
structure IsRun (text : List Char) : Prop where
  nonempty : text ≠ []
  word : ∀ c ∈ text, isWord c = true

instance (text : List Char) : Decidable (IsRun text) :=
  decidable_of_iff (text ≠ [] ∧ ∀ c ∈ text, isWord c = true)
    ⟨fun ⟨nonempty, word⟩ => ⟨nonempty, word⟩, fun run => ⟨run.nonempty, run.word⟩⟩

namespace IsRun

variable {text : List Char} (run : IsRun text)

include run

theorem notBlank : ∀ c ∈ text, isBlank c = false :=
  fun c member => isBlank_of_isWord (run.word c member)

theorem solid : Solid text :=
  solid_of_notBlank run.notBlank

/-- A run has none of the signs. -/
theorem notMem {sign : Char} (notWord : isWord sign = false) : sign ∉ text :=
  fun member => ne_of_class (run.word sign member) notWord rfl

theorem exists_cons : ∃ c rest, text = c :: rest ∧ isWord c = true := by
  obtain ⟨c, rest, rfl⟩ := List.exists_cons_of_ne_nil run.nonempty
  exact ⟨c, rest, rfl, run.word c List.mem_cons_self⟩

theorem stops {takes : Char → Bool} (apart : ∀ c, isWord c = true → takes c = false)
    (rest : List Char) : Stops takes (text ++ rest) := by
  obtain ⟨c, later, rfl, word⟩ := run.exists_cons
  exact stops_cons_iff.mpr (apart c word)

theorem stops_isBlank (rest : List Char) : Stops isBlank (text ++ rest) :=
  run.stops (fun _ => isBlank_of_isWord) rest

end IsRun

theorem PlainName.run (name : PlainName) : IsRun name.name.toList where
  nonempty := by
    intro empty
    have plain := name.plain
    rw [empty] at plain
    contradiction
  word := fun c member =>
    isWord_of_isTypeChar (isTypeChar_of_isPlainName name.plain c member)

theorem runs_names (names : List PlainName) :
    ∀ text ∈ names.map PlainName.name, IsRun text.toList := by
  rw [List.forall_mem_map]
  exact fun name _ => name.run

theorem isDigit_of_mem_toString {n : Nat} {c : Char} (member : c ∈ (toString n).toList) :
    c.isDigit = true := by
  have digits : (toString n).toList = Nat.toDigits 10 n := by simp [toString, Nat.repr]
  rw [digits] at member
  exact Nat.isDigit_of_mem_toDigits (by decide) (by decide) member

theorem run_toString (n : Nat) : IsRun (toString n).toList where
  nonempty := by simp [toString, Nat.repr, Nat.toDigits_ne_nil]
  word := fun _ member =>
    isWord_of_isAlphanum (isAlphanum_of_isDigit (isDigit_of_mem_toString member))

/-- An integer is written as a number with or without a sign. -/
theorem toList_toString_int (value : Int) :
    ∃ n : Nat, (toString value).toList = (toString n).toList ∨
      (toString value).toList = '-' :: (toString n).toList := by
  cases value with
  | ofNat n => exact ⟨n, .inl rfl⟩
  | negSucc n => exact ⟨n + 1, .inr (String.toList_append ..)⟩

/-! ## Names -/

/-- The parts of a name that is a run of word characters are the run, where no
further part follows. -/
theorem nameParts_append {text rest : List Char} (words : ∀ c ∈ text, isWord c = true)
    (ends : namePart? rest = none) : nameParts (text ++ rest) = (text, rest) := by
  induction text with
  | nil =>
      rw [List.nil_append, nameParts]
      split
      · rfl
      · rename_i found
        rw [ends] at found
        contradiction
  | cons c later ih =>
      rw [List.forall_mem_cons] at words
      have read : namePart? (c :: (later ++ rest)) = some ([c], later ++ rest) := by
        simp [namePart?, quotedPart?, ne_of_class words.1 (rfl : isWord '\x22' = false),
          ne_of_class words.1 (rfl : isWord '\x60' = false), words.1]
      rw [List.cons_append, nameParts]
      split
      · rename_i found
        rw [read] at found
        contradiction
      · rename_i part after found
        rw [read, Option.some.injEq, Prod.mk.injEq] at found
        obtain ⟨rfl, rfl⟩ := found
        simp [ih words.2]

theorem IsRun.qualifiedName? {text rest : List Char} (run : IsRun text)
    (ends : namePart? rest = none) : qualifiedName? (text ++ rest) = some (text, rest) := by
  rw [Sql.qualifiedName?, nameParts_append run.word ends]
  cases text with
  | nil => exact absurd rfl run.nonempty
  | cons c later => rfl

/-- A run of word characters has neither quotes nor a schema. -/
theorem IsRun.unqualified {text : List Char} (run : IsRun text) : unqualified text = text := by
  have noQuote : ∀ c ∈ text, (!isQuote c) = true := by
    intro c member
    have word := run.word c member
    simp [isQuote, ne_of_class word (rfl : isWord '\x22' = false),
      ne_of_class word (rfl : isWord '\x27' = false),
      ne_of_class word (rfl : isWord '\x60' = false)]
  have noDot : ∀ c ∈ text, (c == '.') = false := by
    intro c member
    simp [ne_of_class (run.word c member) (rfl : isWord '.' = false)]
  rw [Sql.unqualified, strip_of_solid run.solid, List.filter_eq_self.mpr noQuote, lastPiece,
    pieces_of_none noDot]
  rfl

/-- A blank before a name does not count. -/
theorem IsRun.unqualified_blank {text : List Char} (run : IsRun text) :
    Sql.unqualified (' ' :: text) = text := by
  rw [Sql.unqualified, strip_cons_of_blank rfl]
  exact run.unqualified

/-- A list is cut at its commas into its members, each but the first with a
blank before it. -/
theorem pieces_listed {isSeparator : Char → Bool} (comma : isSeparator ',' = true)
    (notBlank : isSeparator ' ' = false) {first : List Char} {later : List (List Char)}
    (each : ∀ text ∈ first :: later, ∀ c ∈ text, isSeparator c = false) :
    pieces isSeparator (first ++ later.flatMap fun text => ',' :: ' ' :: text) =
      first :: later.map (' ' :: ·) := by
  induction later generalizing first with
  | nil => simp [pieces_of_none (each first List.mem_cons_self)]
  | cons next more ih =>
      rw [List.forall_mem_cons, List.forall_mem_cons] at each
      obtain ⟨firstPlain, nextPlain, morePlain⟩ := each
      have nextEach : ∀ text ∈ (' ' :: next) :: more, ∀ c ∈ text, isSeparator c = false := by
        rw [List.forall_mem_cons, List.forall_mem_cons]
        exact ⟨⟨notBlank, nextPlain⟩, morePlain⟩
      rw [List.flatMap_cons, List.cons_append, pieces_append_cons comma,
        pieces_of_none firstPlain, ih nextEach]
      rfl

theorem toList_joined_comma (first : String) (later : List String) :
    (joined ", " (first :: later)).toList =
      first.toList ++ (later.map String.toList).flatMap fun text => ',' :: ' ' :: text := by
  rw [toList_joined_cons, List.flatMap_map]
  rfl

/-- A list of names is cut into its names again. -/
theorem nameList_joined {texts : List String} (runs : ∀ text ∈ texts, IsRun text.toList) :
    nameList (joined ", " texts).toList = texts.map String.toList := by
  cases texts with
  | nil => rfl
  | cons first later =>
      rw [List.forall_mem_cons] at runs
      have noComma : ∀ text ∈ first.toList :: later.map String.toList,
          ∀ c ∈ text, (c == ',') = false := by
        rw [List.forall_mem_cons, List.forall_mem_map]
        have plain : ∀ text : String, IsRun text.toList → ∀ c ∈ text.toList, (c == ',') = false :=
          fun text run c member => by
            simp [ne_of_class (run.word c member) (rfl : isWord ',' = false)]
        exact ⟨plain first runs.1, fun text member => plain text (runs.2 text member)⟩
      have kept : ∀ text : String, IsRun text.toList →
          strip text.toList ≠ [] ∧ strip (' ' :: text.toList) ≠ [] := by
        intro text run
        rw [strip_cons_of_blank rfl, strip_of_solid run.solid]
        exact ⟨run.nonempty, run.nonempty⟩
      have all : ((first.toList :: (later.map String.toList).map (' ' :: ·)).filter
          fun piece => !(strip piece).isEmpty) =
            first.toList :: (later.map String.toList).map (' ' :: ·) := by
        rw [List.filter_eq_self, List.forall_mem_cons, List.forall_mem_map, List.forall_mem_map]
        refine ⟨by simpa using (kept first runs.1).1, fun text member => ?_⟩
        simpa using (kept text (runs.2 text member)).2
      rw [toList_joined_comma, nameList, pieces_listed rfl rfl noComma, all, List.map_cons,
        runs.1.unqualified, List.map_map, List.map_map, List.map_cons]
      congr 1
      apply List.map_congr_left
      exact fun text member => (runs.2 text member).unqualified_blank

end Crowsfoot.Sql
