import Crowsfoot.Proofs.Text.LetterCase

/-!
# Texts in lower case

A character is settled if it is its own lower case in every context.  The lower
case of any text has settled characters only, so lowering a text again changes
nothing.
-/

namespace Crowsfoot.Text

/-- A character that lowering leaves as it is, wherever it stands. -/
def IsSettled (c : Char) : Prop :=
  lowerChar c = [c] ∧ c ≠ 'Σ'

instance (c : Char) : Decidable (IsSettled c) :=
  inferInstanceAs (Decidable (_ ∧ _))

/-- Whether runs have no image for the code points from `low` to `high` that are
reached in steps of `step`: these lie outside a run, or between its steps. -/
def CaseRuns.avoid : CaseRuns → Nat → Nat → Nat → Bool
  | [], _, _, _ => true
  | (first, last, runStep, _) :: later, low, high, step =>
      high.blt first ||
        ((last.blt low || runStep == 2 && (low + first) % 2 == 1 && (step == 2 || low == high)) &&
          avoid later low high step)

theorem CaseRuns.image?_eq_none_of_avoid {runs : CaseRuns} {low high step offset : Nat}
    (avoided : runs.avoid low high step = true) (inside : low + offset ≤ high)
    (aligned : offset % step = 0) : runs.image? (low + offset) = none := by
  induction runs with
  | nil => rfl
  | cons run later ih =>
      obtain ⟨first, last, runStep, target⟩ := run
      simp only [avoid, Bool.and_eq_true, Bool.or_eq_true, Nat.blt_eq, beq_iff_eq] at avoided
      rw [image?]
      split
      · rfl
      · rename_i fromFirst
        obtain ⟨here, elsewhere⟩ := avoided.resolve_left (by omega)
        have uncovered : ¬(low + offset ≤ last ∧ (low + offset - first) % runStep = 0) := by
          rintro ⟨toLast, onStep⟩
          rcases here with behind | ⟨⟨rfl, odd⟩, rfl | rfl⟩ <;> omega
        rw [if_neg (by simpa using uncovered)]
        exact ih elsewhere

/-- No image has an image.  The Kelvin sign alone has an image in ASCII, and no
image is the dotted capital. -/
theorem lowerRuns_avoid_images : ∀ run ∈ lowerRuns,
    lowerRuns.avoid run.2.2.2 (run.2.2.2 + (run.2.1 - run.1)) run.2.2.1 = true ∧
      (128 ≤ run.2.2.2 ∨ run.2.1 = run.1 ∧ run.2.2.2 = ('k').toNat) ∧
      (run.2.2.2 + (run.2.1 - run.1) < 0x130 ∨ 0x130 < run.2.2.2) := by
  decide +kernel

theorem isSettled_ascii : ∀ code < 128, IsSettled (Char.ofNat code).toLower := by
  decide +kernel

/-- A capital sigma has an image beyond its context. -/
theorem image?_sigma : lowerRuns.image? ('Σ').toNat = some ('σ').toNat := by
  decide +kernel

/-- A character beyond ASCII without an image is settled, apart from the dotted
capital. -/
theorem isSettled_of_image?_eq_none {c : Char} (beyond : ¬c.toNat < 128) (notDotted : c ≠ 'İ')
    (unmapped : lowerRuns.image? c.toNat = none) : IsSettled c := by
  refine ⟨?_, ?_⟩
  · rw [lowerChar, if_neg beyond, if_neg (by simpa using notDotted), unmapped, Option.getD_none,
      Char.ofNat_toNat]
  · rintro rfl
    rw [image?_sigma] at unmapped
    contradiction

/-- An image is settled. -/
theorem isSettled_of_image? {code image : Nat} (mapped : lowerRuns.image? code = some image) :
    IsSettled (Char.ofNat image) := by
  obtain ⟨run, inRuns, offset, inside, aligned, rfl⟩ := CaseRuns.exists_of_image? mapped
  obtain ⟨avoided, ascii, dotted⟩ := lowerRuns_avoid_images run inRuns
  have unmapped := CaseRuns.image?_eq_none_of_avoid avoided (by omega) aligned
  by_cases valid : (run.2.2.2 + offset).isValidChar
  · have number : (Char.ofNat (run.2.2.2 + offset)).toNat = run.2.2.2 + offset := by
      rw [Char.ofNat, dif_pos valid]
      rfl
    rcases ascii with beyond | ⟨alone, kelvin⟩
    · apply isSettled_of_image?_eq_none
      · omega
      · intro same
        have dottedCode : ('İ').toNat = 0x130 := rfl
        rw [← same, number] at dottedCode
        omega
      · rwa [number]
    · obtain rfl : offset = 0 := by omega
      rw [kelvin]
      decide +kernel
  · -- Codes that are no characters stand for the null character.
    rw [Char.ofNat, dif_neg valid]
    decide +kernel

/-- The lower case of a character is settled. -/
theorem isSettled_of_mem_lowerChar {c d : Char} (member : d ∈ lowerChar c) : IsSettled d := by
  unfold lowerChar at member
  split at member
  · rename_i ascii
    have settled := isSettled_ascii c.toNat ascii
    rw [Char.ofNat_toNat] at settled
    rwa [List.mem_singleton.mp member]
  · rename_i beyond
    split at member
    · have dotted : d = 'i' ∨ d = '\u0307' := by simpa using member
      rcases dotted with rfl | rfl <;> decide +kernel
    · rename_i notDotted
      rw [List.mem_singleton.mp member]
      cases mapped : lowerRuns.image? c.toNat with
      | some image => exact isSettled_of_image? mapped
      | none =>
          rw [Option.getD_none, Char.ofNat_toNat]
          exact isSettled_of_image?_eq_none beyond (by simpa using notDotted) mapped

theorem isSettled_of_mem_lowerFrom {casedBefore : Bool} {text : List Char} {d : Char}
    (member : d ∈ lowerFrom casedBefore text) : IsSettled d := by
  induction text generalizing casedBefore with
  | nil => contradiction
  | cons c rest ih =>
      simp only [lowerFrom] at member
      split at member
      · rcases List.mem_cons.mp member with rfl | later
        · split <;> decide +kernel
        · exact ih later
      · rcases List.mem_append.mp member with here | later
        · exact isSettled_of_mem_lowerChar here
        · exact ih later

/-- The lower case of a text is settled. -/
theorem isSettled_of_mem_lowerChars {text : List Char} {d : Char}
    (member : d ∈ lowerChars text) : IsSettled d :=
  isSettled_of_mem_lowerFrom member

/-- Settled text is its own lower case. -/
theorem lowerFrom_of_settled {text : List Char} (settled : ∀ c ∈ text, IsSettled c)
    (casedBefore : Bool) : lowerFrom casedBefore text = text := by
  induction text generalizing casedBefore with
  | nil => rfl
  | cons c rest ih =>
      obtain ⟨lowered, notSigma⟩ := settled c List.mem_cons_self
      have later := ih fun d member => settled d (List.mem_cons_of_mem _ member)
      simp only [lowerFrom, beq_eq_false_iff_ne.mpr notSigma, lowered, later]
      rfl

theorem lowerChars_of_settled {text : List Char} (settled : ∀ c ∈ text, IsSettled c) :
    lowerChars text = text :=
  lowerFrom_of_settled settled false

end Crowsfoot.Text
