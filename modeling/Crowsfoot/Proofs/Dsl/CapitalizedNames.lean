import Crowsfoot.Dsl.Printer

/-!
# Capitalised names and ASCII case

Names of SQL do not tell capitals from small letters.  They are written as
capitalised words, so two names that differ in the case of ASCII letters only
are written as one: a table and a reference to it meet again in the schema.
-/

namespace Crowsfoot

open Crowsfoot.Text Crowsfoot.Dsl

/-- Whether two texts are the same up to the case of ASCII letters. -/
def SameUpToCase (first second : String) : Prop :=
  first.toList.map Char.toLower = second.toList.map Char.toLower

instance (first second : String) : Decidable (SameUpToCase first second) :=
  inferInstanceAs (Decidable (_ = _))

namespace Text

/-- Beyond ASCII, characters are left as they are. -/
theorem toLower_of_large {c : Char} (large : 128 ≤ c.toNat) : c.toLower = c := by
  have notCapital : ¬(c.val ≥ 'A'.val ∧ c.val ≤ 'Z'.val) := by
    rintro ⟨-, atMost⟩
    have bound : c.toNat ≤ 90 := UInt32.le_iff_toNat_le.mp atMost
    omega
  exact dif_neg notCapital

theorem ascii_toLower : ∀ code < 128,
    lowerChar (Char.ofNat code).toLower = lowerChar (Char.ofNat code) ∧
      upperChar (Char.ofNat code).toLower = upperChar (Char.ofNat code) ∧
      isCased (Char.ofNat code).toLower = isCased (Char.ofNat code) ∧
      isCaseIgnorable (Char.ofNat code).toLower = isCaseIgnorable (Char.ofNat code) ∧
      ((Char.ofNat code).toLower == 'Σ') = (Char.ofNat code == 'Σ') ∧
      "_ -".toList.contains (Char.ofNat code).toLower =
        "_ -".toList.contains (Char.ofNat code) := by
  decide +kernel

/-- The small letter of an ASCII letter has its case conversions, and counts as
it does among its neighbours. -/
theorem case_toLower (c : Char) :
    lowerChar c.toLower = lowerChar c ∧ upperChar c.toLower = upperChar c ∧
      isCased c.toLower = isCased c ∧ isCaseIgnorable c.toLower = isCaseIgnorable c ∧
      (c.toLower == 'Σ') = (c == 'Σ') ∧
      "_ -".toList.contains c.toLower = "_ -".toList.contains c := by
  by_cases small : c.toNat < 128
  · have table := ascii_toLower c.toNat small
    rwa [Char.ofNat_toNat] at table
  · rw [toLower_of_large (Nat.le_of_not_lt small)]
    exact ⟨rfl, rfl, rfl, rfl, rfl, rfl⟩

theorem casedFollows_map_toLower (text : List Char) :
    casedFollows (text.map Char.toLower) = casedFollows text := by
  induction text with
  | nil => rfl
  | cons c rest ih =>
      obtain ⟨-, -, cased, ignorable, -, -⟩ := case_toLower c
      rw [List.map_cons, casedFollows, casedFollows, cased, ignorable, ih]

theorem lowerFrom_map_toLower (casedBefore : Bool) (text : List Char) :
    lowerFrom casedBefore (text.map Char.toLower) = lowerFrom casedBefore text := by
  induction text generalizing casedBefore with
  | nil => rfl
  | cons c rest ih =>
      obtain ⟨lowered, -, cased, ignorable, sigma, -⟩ := case_toLower c
      simp only [List.map_cons, lowerFrom, casedFollows_map_toLower, ih, lowered, cased,
        ignorable, sigma]

theorem pieces_map_toLower {isSeparator : Char → Bool}
    (same : ∀ c, isSeparator c.toLower = isSeparator c) (text : List Char) :
    pieces isSeparator (text.map Char.toLower) =
      (pieces isSeparator text).map (List.map Char.toLower) := by
  induction text with
  | nil => rfl
  | cons c rest ih =>
      rw [List.map_cons, pieces, pieces, same, ih]
      split
      · rfl
      · cases pieces isSeparator rest <;> rfl

end Text

namespace Dsl

theorem capitalize_map_toLower (word : List Char) :
    capitalize (word.map Char.toLower) = capitalize word := by
  cases word with
  | nil => rfl
  | cons c rest =>
      obtain ⟨-, upper, -, -, -, -⟩ := case_toLower c
      rw [List.map_cons, capitalize, capitalize, upper, lowerChars, lowerFrom_map_toLower]
      rfl

/-- Capitalised words do not depend on the case of ASCII letters. -/
theorem pascal_map_toLower {separators : String}
    (same : ∀ c : Char, separators.toList.contains c.toLower = separators.toList.contains c)
    (name : String) :
    pascal separators (String.ofList (name.toList.map Char.toLower)) = pascal separators name := by
  rw [pascal, pascal, String.toList_ofList, pieces_map_toLower same, List.flatMap_map]
  simp only [capitalize_map_toLower]

/-- Names of SQL that are the same up to case are written alike. -/
theorem blockName_sql_congr {first second : String} (same : SameUpToCase first second) :
    blockName SourceFormat.sql.name first = blockName SourceFormat.sql.name second := by
  have words : pascal "_ -" first = pascal "_ -" second := by
    have separators (c : Char) := (case_toLower c).2.2.2.2.2
    rw [← pascal_map_toLower separators first, ← pascal_map_toLower separators second,
      show first.toList.map Char.toLower = second.toList.map Char.toLower from same]
  have isSql : (SourceFormat.sql.name == SourceFormat.sql.name) = true := beq_self_eq_true _
  rw [blockName, blockName, sourceName, sourceName, if_pos isSql, if_pos isSql, words]

end Dsl

end Crowsfoot
