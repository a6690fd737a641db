import Crowsfoot.Proofs.Parts
import Crowsfoot.Text.Scan

/-!
# Laws of recognisers

What a recogniser reads from a text that was put together from parts: literals
and runs are read back whole when the next part cannot extend them, and a
search skips every part in which its mark does not occur.
-/

namespace Crowsfoot.Text

/-- A text that does not begin with a character of a class. -/
def Stops (takes : Char → Bool) (text : List Char) : Prop :=
  ∀ c ∈ text.head?, takes c = false

@[simp]
theorem stops_nil (takes : Char → Bool) : Stops takes [] := by
  simp [Stops]

@[simp]
theorem stops_cons_iff {takes : Char → Bool} {c : Char} {rest : List Char} :
    Stops takes (c :: rest) ↔ takes c = false := by
  simp [Stops]

/-- A text begins as its first part does. -/
theorem Stops.append {takes : Char → Bool} {front : List Char} (stops : Stops takes front)
    (nonempty : front ≠ []) (back : List Char) : Stops takes (front ++ back) := by
  obtain ⟨c, rest, rfl⟩ := List.exists_cons_of_ne_nil nonempty
  exact stops

theorem takeWhile_of_stops {takes : Char → Bool} {text : List Char}
    (stops : Stops takes text) : text.takeWhile takes = [] := by
  cases text with
  | nil => rfl
  | cons c rest => simp [stops_cons_iff.mp stops]

theorem dropWhile_of_stops {takes : Char → Bool} {text : List Char}
    (stops : Stops takes text) : text.dropWhile takes = text := by
  cases text with
  | nil => rfl
  | cons c rest => simp [stops_cons_iff.mp stops]

/-- The longest run of a text is the run it begins with. -/
theorem takeWhile_append_of_stops {takes : Char → Bool} {taken rest : List Char}
    (all : ∀ c ∈ taken, takes c = true) (stops : Stops takes rest) :
    (taken ++ rest).takeWhile takes = taken := by
  rw [List.takeWhile_append_of_pos all, takeWhile_of_stops stops, List.append_nil]

theorem dropWhile_append_of_stops {takes : Char → Bool} {taken rest : List Char}
    (all : ∀ c ∈ taken, takes c = true) (stops : Stops takes rest) :
    (taken ++ rest).dropWhile takes = rest := by
  rw [List.dropWhile_append_of_pos all, dropWhile_of_stops stops]

/-- No run goes on into a text that cannot extend it. -/
theorem takeWhile_before {takes : Char → Bool} {back : List Char} (stops : Stops takes back)
    (front : List Char) : (front ++ back).takeWhile takes = front.takeWhile takes := by
  induction front with
  | nil => exact takeWhile_of_stops stops
  | cons c rest ih => simp only [List.cons_append, List.takeWhile_cons, ih]

theorem dropWhile_before {takes : Char → Bool} {back : List Char} (stops : Stops takes back)
    (front : List Char) : (front ++ back).dropWhile takes = front.dropWhile takes ++ back := by
  induction front with
  | nil => exact dropWhile_of_stops stops
  | cons c rest ih =>
      simp only [List.cons_append, List.dropWhile_cons]
      split
      · exact ih
      · rfl

/-- A literal is read exactly where the text begins with it. -/
theorem literal?_eq_some_iff {expected text rest : List Char} :
    literal? expected text = some rest ↔ text = expected ++ rest := by
  induction expected generalizing text with
  | nil => simp [literal?]
  | cons first more ih =>
      cases text with
      | nil => simp [literal?]
      | cons c later =>
          by_cases same : c = first
          · subst first
            simp [literal?, ih]
          · simp [literal?, same]

@[simp]
theorem literal?_append (expected rest : List Char) :
    literal? expected (expected ++ rest) = some rest :=
  literal?_eq_some_iff.mpr rfl

theorem run?_append {takes : Char → Bool} {taken rest : List Char} (nonempty : taken ≠ [])
    (all : ∀ c ∈ taken, takes c = true) (stops : Stops takes rest) :
    run? takes (taken ++ rest) = some (taken, rest) := by
  unfold run?
  rw [takeWhile_append_of_stops all stops, dropWhile_append_of_stops all stops]
  cases taken with
  | nil => exact absurd rfl nonempty
  | cons c later => rfl

theorem stops_dropWhile (takes : Char → Bool) (text : List Char) :
    Stops takes (text.dropWhile takes) := by
  induction text with
  | nil => exact stops_nil _
  | cons c later ih =>
      rw [List.dropWhile_cons]
      split
      · exact ih
      · exact stops_cons_iff.mpr (Bool.eq_false_iff.mpr ‹_›)

theorem run?_eq_some_iff {takes : Char → Bool} {text taken rest : List Char} :
    run? takes text = some (taken, rest) ↔
      taken ≠ [] ∧ text = taken ++ rest ∧ (∀ c ∈ taken, takes c = true) ∧ Stops takes rest := by
  refine ⟨fun found => ?_, ?_⟩
  · rw [run?] at found
    split at found
    · contradiction
    · rename_i nonempty
      obtain ⟨rfl, rfl⟩ := Prod.mk.inj (Option.some.inj found)
      exact ⟨nonempty, List.takeWhile_append_dropWhile.symm,
        List.all_eq_true.mp List.all_takeWhile, stops_dropWhile takes text⟩
  · rintro ⟨nonempty, rfl, all, stops⟩
    exact run?_append nonempty all stops

/-- A text that cannot extend a run stays behind it. -/
theorem run?_append_of_stops {takes : Char → Bool} {back : List Char}
    (stops : Stops takes back) (front : List Char) :
    run? takes (front ++ back) =
      (run? takes front).map fun (taken, rest) => (taken, rest ++ back) := by
  have split (text : List Char) : run? takes text =
      if (text.takeWhile takes).isEmpty then none
      else some (text.takeWhile takes, text.dropWhile takes) := by
    rw [run?]
    cases text.takeWhile takes <;> rfl
  rw [split, split, takeWhile_before stops, dropWhile_before stops]
  split <;> rfl

theorem skipBlanks_of_stops {text : List Char} (stops : Stops isBlank text) :
    skipBlanks text = text :=
  dropWhile_of_stops stops

theorem skipBlanks_of_blank {gap : List Char} (blank : ∀ c ∈ gap, isBlank c = true) :
    skipBlanks gap = [] := by
  have skipped := dropWhile_append_of_stops blank (stops_nil isBlank)
  rwa [List.append_nil] at skipped

/-- Blanks are skipped up to a sign at most. -/
theorem skipBlanks_append_cons {sign : Char} (notBlank : isBlank sign = false)
    (front back : List Char) :
    skipBlanks (front ++ sign :: back) = skipBlanks front ++ sign :: back :=
  dropWhile_before (stops_cons_iff.mpr notBlank) front

/-- A word that a blank ends is the first one. -/
theorem splitWord_append_cons {word : List Char} (nonempty : word ≠ [])
    (solid : ∀ c ∈ word, isBlank c = false) {gap : Char} (isGap : isBlank gap = true)
    (rest : List Char) : splitWord (word ++ gap :: rest) = (word, gap :: rest) := by
  have start : Stops isBlank (word ++ gap :: rest) := by
    cases word with
    | nil => contradiction
    | cons c later => exact stops_cons_iff.mpr (solid c List.mem_cons_self)
  have words : ∀ c ∈ word, (!isBlank c) = true := fun c member => by simp [solid c member]
  have stops : Stops (!isBlank ·) (gap :: rest) := stops_cons_iff.mpr (by simp [isGap])
  rw [splitWord, dropWhile_of_stops start, takeWhile_append_of_stops words stops,
    dropWhile_append_of_stops words stops]

/-- Other characters found behind blanks stand before the sign. -/
theorem suffix_of_skipBlanks {sign : Char} (notBlank : isBlank sign = false)
    {front back rest : List Char} {c : Char}
    (found : skipBlanks (front ++ sign :: back) = c :: rest) (other : c ≠ sign) :
    ∃ later, rest = later ++ sign :: back ∧ c :: later <:+ front := by
  rw [skipBlanks_append_cons notBlank] at found
  cases skipped : skipBlanks front with
  | nil =>
      rw [skipped] at found
      exact absurd (List.cons.inj found).1.symm other
  | cons d later =>
      rw [skipped] at found
      obtain ⟨rfl, rfl⟩ := List.cons.inj found
      exact ⟨later, rfl, skipped ▸ List.dropWhile_suffix _⟩

theorem suffix_of_blanks? {text rest : List Char} (matched : blanks? text = some rest) :
    rest <:+ text := by
  cases text with
  | nil => contradiction
  | cons c later =>
      simp only [blanks?] at matched
      split at matched
      · obtain rfl := Option.some.inj matched
        exact (List.dropWhile_suffix _).trans (List.suffix_cons c later)
      · contradiction

theorem suffix_of_run? {takes : Char → Bool} {text taken rest : List Char}
    (matched : run? takes text = some (taken, rest)) : rest <:+ text := by
  simp only [run?] at matched
  split at matched
  · contradiction
  · obtain ⟨-, rfl⟩ := Prod.mk.inj (Option.some.inj matched)
    exact List.dropWhile_suffix _

theorem suffix_of_upTo? {closing : Char} {text inside after : List Char}
    (found : upTo? closing text = some (inside, after)) : after <:+ text := by
  simp only [upTo?] at found
  split at found
  · contradiction
  · rename_i c rest dropped
    obtain ⟨-, rfl⟩ := Prod.mk.inj (Option.some.inj found)
    exact (List.suffix_cons c rest).trans (dropped ▸ List.dropWhile_suffix _)

theorem blanks?_cons {c : Char} {rest : List Char} (blank : isBlank c = true)
    (stops : Stops isBlank rest) : blanks? (c :: rest) = some rest := by
  rw [blanks?, if_pos blank, skipBlanks_of_stops stops]

/-- A text is read up to the first closing sign in it. -/
theorem upTo?_append {closing : Char} {inside : List Char} (absent : closing ∉ inside)
    (after : List Char) : upTo? closing (inside ++ closing :: after) = some (inside, after) := by
  have all : ∀ c ∈ inside, (c != closing) = true := by
    intro c member
    simp only [bne_iff_ne]
    rintro rfl
    exact absent member
  have stops : Stops (· != closing) (closing :: after) := stops_cons_iff.mpr (by simp)
  rw [upTo?, dropWhile_append_of_stops all stops, takeWhile_append_of_stops all stops]

theorem upTo?_eq_none_iff {closing : Char} {text : List Char} :
    upTo? closing text = none ↔ closing ∉ text := by
  refine ⟨fun failed member => ?_, fun absent => ?_⟩
  · obtain ⟨inside, after, rfl, notInside⟩ := List.eq_append_cons_of_mem member
    rw [upTo?_append notInside] at failed
    contradiction
  · have all : ∀ c ∈ text, (c != closing) = true := by
      intro c member
      rw [bne_iff_ne]
      rintro rfl
      exact absent member
    have dropped := dropWhile_append_of_stops all (stops_nil _)
    rw [List.append_nil] at dropped
    rw [upTo?, dropped]

theorem upTo?_eq_some_iff {closing : Char} {text inside after : List Char} :
    upTo? closing text = some (inside, after) ↔
      text = inside ++ closing :: after ∧ closing ∉ inside := by
  refine ⟨fun found => ?_, fun ⟨spelled, absent⟩ => spelled ▸ upTo?_append absent after⟩
  have member : closing ∈ text := Decidable.not_not.mp fun absent => by
    rw [upTo?_eq_none_iff.mpr absent] at found
    contradiction
  obtain ⟨front, back, rfl, absent⟩ := List.eq_append_cons_of_mem member
  rw [upTo?_append absent] at found
  obtain ⟨rfl, rfl⟩ := Prod.mk.inj (Option.some.inj found)
  exact ⟨rfl, absent⟩

/-- A literal without a certain character is not read across one. -/
theorem literal?_append_cons {expected : List Char} {separator : Char}
    (absent : separator ∉ expected) (front back : List Char) :
    literal? expected (front ++ separator :: back) =
      (literal? expected front).map (· ++ separator :: back) := by
  induction expected generalizing front with
  | nil => simp [literal?]
  | cons first more ih =>
      simp only [List.mem_cons, not_or] at absent
      cases front with
      | nil => simp [literal?, absent.1]
      | cons c rest =>
          simp only [List.cons_append, literal?]
          split
          · exact ih absent.2 rest
          · rfl

/-! ## Searches -/

section Search

variable {α : Type} {recognise : List Char → Option α}

theorem find?_of_some {text : List Char} {answer : α} (read : recognise text = some answer) :
    find? recognise text = some answer := by
  cases text with
  | nil => exact read
  | cons c rest => rw [find?, read]

theorem find?_cons_of_none {c : Char} {rest : List Char}
    (passed : recognise (c :: rest) = none) :
    find? recognise (c :: rest) = find? recognise rest := by
  rw [find?, passed]

/-- What a search finds is read from some end of the text. -/
theorem exists_of_find? {text : List Char} {answer : α}
    (found : find? recognise text = some answer) :
    ∃ part, part <:+ text ∧ recognise part = some answer := by
  induction text with
  | nil => exact ⟨[], List.suffix_rfl, found⟩
  | cons c later ih =>
      rw [find?] at found
      split at found
      · rename_i matched
        exact ⟨c :: later, List.suffix_rfl, matched.trans found⟩
      · obtain ⟨part, isEnd, read⟩ := ih found
        exact ⟨part, isEnd.trans (List.suffix_cons c later), read⟩

theorem occurs_cons (c : Char) (rest : List Char) :
    occurs recognise (c :: rest) =
      ((recognise (c :: rest)).isSome || occurs recognise rest) := by
  simp only [occurs, find?]
  cases recognise (c :: rest) <;> rfl

/-- A search for something that begins with a mark skips text without it. -/
theorem find?_append_of_notMem {mark : Char}
    (begins : ∀ c rest, c ≠ mark → recognise (c :: rest) = none) {skipped : List Char}
    (absent : mark ∉ skipped) (rest : List Char) :
    find? recognise (skipped ++ rest) = find? recognise rest := by
  induction skipped with
  | nil => rfl
  | cons c later ih =>
      have other : c ≠ mark := fun same => absent (same ▸ List.mem_cons_self)
      have passed : recognise (c :: (later ++ rest)) = none := begins _ _ other
      rw [List.cons_append, find?_cons_of_none passed]
      exact ih fun member => absent (List.mem_cons_of_mem _ member)

/-- A search *passes* a text if it goes on behind it, whatever follows. -/
def Passes (recognise : List Char → Option α) (text : List Char) : Prop :=
  ∀ rest, find? recognise (text ++ rest) = find? recognise rest

theorem Passes.nil : Passes recognise [] :=
  fun _ => rfl

theorem Passes.append {front back : List Char} (first : Passes recognise front)
    (second : Passes recognise back) : Passes recognise (front ++ back) := by
  intro rest
  rw [List.append_assoc, first, second]

theorem Passes.cons {c : Char} {text : List Char}
    (failed : ∀ rest, recognise (c :: (text ++ rest)) = none) (later : Passes recognise text) :
    Passes recognise (c :: text) := by
  intro rest
  rw [List.cons_append, find?_cons_of_none (failed rest), later]

theorem Passes.flatMap {β : Type} {parts : List β} {chars : β → List Char}
    (each : ∀ part ∈ parts, Passes recognise (chars part)) :
    Passes recognise (parts.flatMap chars) :=
  flatMap_of_append Passes.nil Passes.append each

theorem Passes.of_notMem {mark : Char}
    (begins : ∀ c rest, c ≠ mark → recognise (c :: rest) = none) {text : List Char}
    (absent : mark ∉ text) : Passes recognise text :=
  find?_append_of_notMem begins absent

end Search

/-- A literal is not read from a text that begins otherwise. -/
theorem literal?_cons_of_ne {expected c : Char} {more rest : List Char}
    (other : c ≠ expected) : literal? (expected :: more) (c :: rest) = none := by
  simp [literal?, other]

/-- A text in which a literal does not stand is passed over together with a
sign that is none of the literal's. -/
theorem passes_of_contains {expected text : List Char} {sign : Char} (nonempty : expected ≠ [])
    (absent : sign ∉ expected) (silent : contains expected text = false) :
    Passes (literal? expected) (text ++ [sign]) := by
  obtain ⟨first, more, rfl⟩ := List.exists_cons_of_ne_nil nonempty
  induction text with
  | nil =>
      apply Passes.of_notMem (fun _ _ other => literal?_cons_of_ne other)
      simpa using (List.ne_of_not_mem_cons absent).symm
  | cons c later ih =>
      rw [contains, occurs_cons, Bool.or_eq_false_iff, Option.isSome_eq_false_iff,
        Option.isNone_iff_eq_none] at silent
      refine Passes.cons (fun rest => ?_) (ih silent.2)
      have here := literal?_append_cons absent (c :: later) rest
      rw [silent.1] at here
      have whole : c :: (later ++ [sign] ++ rest) = c :: later ++ sign :: rest := by simp
      exact (congrArg _ whole).trans here

end Crowsfoot.Text
