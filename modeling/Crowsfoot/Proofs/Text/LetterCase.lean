import Crowsfoot.Proofs.Assoc
import Crowsfoot.Text.Case

/-!
# What letter case cannot produce

Changing the case of a text makes no line feed out of other characters, and an
upper case text has no small ASCII letter.  Names and comment lines therefore
stay on the lines they are written on, and no comment in upper case reads like
a keyword.
-/

namespace Crowsfoot.Text

/-- The image of a code point lies in the target of a run, as far from its start
as the code point lies in the run. -/
theorem CaseRuns.exists_of_image? {runs : CaseRuns} {code image : Nat}
    (mapped : runs.image? code = some image) :
    ∃ run ∈ runs, ∃ offset ≤ run.2.1 - run.1,
      offset % run.2.2.1 = 0 ∧ image = run.2.2.2 + offset := by
  induction runs with
  | nil => simp [CaseRuns.image?] at mapped
  | cons run later ih =>
      obtain ⟨first, last, step, target⟩ := run
      simp only [CaseRuns.image?] at mapped
      split at mapped
      · contradiction
      · split at mapped
        · rename_i covered
          simp only [Bool.and_eq_true, decide_eq_true_eq, beq_iff_eq] at covered
          exact ⟨_, List.mem_cons_self, code - first, Nat.sub_le_sub_right covered.1 first,
            covered.2, (Option.some.inj mapped).symm⟩
        · obtain ⟨run, member, place⟩ := ih mapped
          exact ⟨run, List.mem_cons_of_mem _ member, place⟩

/-- The images of runs stay out of an interval that no run reaches into. -/
theorem CaseRuns.image?_outside {runs : CaseRuns} {low high code image : Nat}
    (apart : ∀ run ∈ runs, run.2.2.2 + (run.2.1 - run.1) < low ∨ high < run.2.2.2)
    (mapped : runs.image? code = some image) : image < low ∨ high < image := by
  obtain ⟨run, member, offset, inside, -, rfl⟩ := CaseRuns.exists_of_image? mapped
  have here := apart run member
  omega

/-- A code point outside an interval that does not begin at zero gives a
character outside it; codes that are no characters give the null character. -/
theorem toNat_ofNat_outside {low high code : Nat} (positive : 0 < low)
    (outside : code < low ∨ high < code) :
    (Char.ofNat code).toNat < low ∨ high < (Char.ofNat code).toNat := by
  by_cases valid : code.isValidChar
  · rw [Char.ofNat, dif_pos valid]
    exact outside
  · rw [Char.ofNat, dif_neg valid]
    exact .inl positive

theorem lowerRuns_apart_lineFeed : ∀ run ∈ lowerRuns,
    run.2.2.2 + (run.2.1 - run.1) < 0x0A ∨ 0x0A < run.2.2.2 := by
  decide +kernel

theorem upperRuns_apart_lineFeed : ∀ run ∈ upperRuns,
    run.2.2.2 + (run.2.1 - run.1) < 0x0A ∨ 0x0A < run.2.2.2 := by
  decide +kernel

theorem upperRuns_apart_small : ∀ run ∈ upperRuns,
    run.2.2.2 + (run.2.1 - run.1) < 0x61 ∨ 0x7A < run.2.2.2 := by
  decide +kernel

theorem upperExpansions_apart : ∀ entry ∈ upperExpansions, ∀ code ∈ entry.2,
    (code < 0x0A ∨ 0x0A < code) ∧ (code < 0x61 ∨ 0x7A < code) := by
  decide +kernel

theorem toUpper_ascii : ∀ code < 128,
    (code ≠ 0x0A → (Char.ofNat code).toUpper ≠ '\n') ∧
      ((Char.ofNat code).toUpper.toNat < 0x61 ∨ 0x7A < (Char.ofNat code).toUpper.toNat) := by
  decide +kernel

theorem toLower_ascii : ∀ code < 128,
    code ≠ 0x0A → (Char.ofNat code).toLower ≠ '\n' := by
  decide +kernel

/-! ## Upper case -/

/-- The upper case of a character stays out of an interval that neither the
tables nor the ASCII letters nor the character itself reach into. -/
theorem upperChar_outside {low high : Nat} {c d : Char} (positive : 0 < low)
    (runsApart : ∀ run ∈ upperRuns,
      run.2.2.2 + (run.2.1 - run.1) < low ∨ high < run.2.2.2)
    (expansionsApart : ∀ entry ∈ upperExpansions, ∀ code ∈ entry.2, code < low ∨ high < code)
    (ascii : c.toNat < 128 → c.toUpper.toNat < low ∨ high < c.toUpper.toNat)
    (beyond : 128 ≤ c.toNat → c.toNat < low ∨ high < c.toNat)
    (member : d ∈ upperChar c) : d.toNat < low ∨ high < d.toNat := by
  unfold upperChar at member
  split at member
  · rename_i small
    rw [List.mem_singleton.mp member]
    exact ascii small
  · rename_i large
    split at member
    · rename_i codes expanded
      obtain ⟨code, codeMember, rfl⟩ := List.mem_map.mp member
      exact toNat_ofNat_outside positive
        (expansionsApart _ (Assoc.mem_of_lookup expanded) _ codeMember)
    · rw [List.mem_singleton.mp member]
      apply toNat_ofNat_outside positive
      cases mapped : upperRuns.image? c.toNat with
      | some image => exact CaseRuns.image?_outside runsApart mapped
      | none => exact beyond (Nat.le_of_not_lt large)

theorem toNat_ne_of_ne {c d : Char} (different : c ≠ d) : c.toNat ≠ d.toNat := by
  intro same
  apply different
  rw [← Char.ofNat_toNat c, same, Char.ofNat_toNat]

/-- An upper case character is no small ASCII letter. -/
theorem not_small_of_mem_upperChar {c d : Char} (member : d ∈ upperChar c) :
    d.toNat < 0x61 ∨ 0x7A < d.toNat := by
  apply upperChar_outside (by decide) upperRuns_apart_small
    (fun entry entryMember code codeMember =>
      (upperExpansions_apart entry entryMember code codeMember).2) ?_ ?_ member
  · intro small
    have table := (toUpper_ascii c.toNat small).2
    rwa [Char.ofNat_toNat] at table
  · intro large
    exact .inr (by omega)

/-- Only a line feed has a line feed in its upper case. -/
theorem lineFeed_notMem_upperChar {c : Char} (other : c ≠ '\n') : '\n' ∉ upperChar c := by
  have codeOther : c.toNat ≠ 0x0A := toNat_ne_of_ne other
  intro member
  have outside : ('\n').toNat < 0x0A ∨ 0x0A < ('\n').toNat := by
    apply upperChar_outside (by decide) upperRuns_apart_lineFeed
      (fun entry entryMember code codeMember =>
        (upperExpansions_apart entry entryMember code codeMember).1) ?_ ?_ member
    · intro small
      have table := (toUpper_ascii c.toNat small).1 codeOther
      rw [Char.ofNat_toNat] at table
      have := toNat_ne_of_ne table
      have : ('\n').toNat = 0x0A := rfl
      omega
    · intro large
      exact .inr (by omega)
  have : ('\n').toNat = 0x0A := rfl
  omega

/-- An upper case text has no small ASCII letter. -/
theorem not_small_of_mem_upperChars {text : List Char} {d : Char}
    (member : d ∈ upperChars text) : d.toNat < 0x61 ∨ 0x7A < d.toNat := by
  obtain ⟨c, -, image⟩ := List.mem_flatMap.mp member
  exact not_small_of_mem_upperChar image

/-- Only a line feed has a line feed in its lower case. -/
theorem lineFeed_notMem_lowerChar {c : Char} (other : c ≠ '\n') : '\n' ∉ lowerChar c := by
  have codeOther : c.toNat ≠ 0x0A := toNat_ne_of_ne other
  have lineFeedCode : ('\n').toNat = 0x0A := rfl
  unfold lowerChar
  intro member
  split at member
  · rename_i small
    have table := toLower_ascii c.toNat small codeOther
    rw [Char.ofNat_toNat] at table
    exact table (List.mem_singleton.mp member).symm
  · split at member
    · simp at member
    · have image := List.mem_singleton.mp member
      have outside : (Char.ofNat ((lowerRuns.image? c.toNat).getD c.toNat)).toNat < 0x0A ∨
          0x0A < (Char.ofNat ((lowerRuns.image? c.toNat).getD c.toNat)).toNat := by
        apply toNat_ofNat_outside (by decide)
        cases mapped : lowerRuns.image? c.toNat with
        | some code => exact CaseRuns.image?_outside lowerRuns_apart_lineFeed mapped
        | none =>
            simp only [Option.getD_none]
            omega
      rw [← image] at outside
      omega

theorem lineFeed_notMem_lowerFrom {casedBefore : Bool} {text : List Char}
    (oneLine : '\n' ∉ text) : '\n' ∉ lowerFrom casedBefore text := by
  induction text generalizing casedBefore with
  | nil => simp [lowerFrom]
  | cons c rest ih =>
      have restOneLine : '\n' ∉ rest := fun member => oneLine (List.mem_cons_of_mem _ member)
      have other : c ≠ '\n' := fun same => oneLine (same ▸ List.mem_cons_self)
      simp only [lowerFrom]
      split
      · intro member
        rcases List.mem_cons.mp member with sigma | later
        · split at sigma <;> simp at sigma
        · exact ih restOneLine later
      · intro member
        rcases List.mem_append.mp member with here | later
        · exact lineFeed_notMem_lowerChar other here
        · exact ih restOneLine later

/-- Lowering a text adds no line feed. -/
theorem lineFeed_notMem_lowerChars {text : List Char} (oneLine : '\n' ∉ text) :
    '\n' ∉ lowerChars text :=
  lineFeed_notMem_lowerFrom oneLine

end Crowsfoot.Text
