import Crowsfoot.Proofs.Dsl.BlockScan

/-!
# The search for block headers

A header is found at the beginning of a line only.  The comment line that
opens a written text is passed over: its own part is one line, and the origin
in it is in upper case, where no keyword can stand.
-/

namespace Crowsfoot.Dsl

open Crowsfoot.Text

/-- The word that a block of a kind begins with. -/
def BlockKind.keyword : BlockKind → String
  | .model => "model"
  | .enumeration => "enum"

theorem header?_cons_of_ne {c : Char} {rest : List Char}
    (notBlank : (c == ' ' || c == '\t') = false) (notModel : c ≠ 'm') (notEnum : c ≠ 'e') :
    header? (c :: rest) = none := by
  have noKind : kind? (c :: rest) = none := by
    simp [kind?, literal?, notModel, notEnum]
  simp [header?, notBlank, noKind]

/-- Blanks in front of a line make no header. -/
theorem header?_cons_of_blank {c : Char} {rest : List Char}
    (blank : (c == ' ' || c == '\t') = true) : header? (c :: rest) = header? rest := by
  simp only [header?, List.dropWhile_cons, blank, if_true]

/-- Text without the first letters of the keywords is no header before the end
of its line. -/
theorem header?_append_lineFeed {text : List Char} (noKeyword : ∀ c ∈ text, c ≠ 'm' ∧ c ≠ 'e')
    (rest : List Char) : header? (text ++ '\n' :: rest) = none := by
  induction text with
  | nil => exact header?_cons_of_ne rfl (by decide) (by decide)
  | cons c later ih =>
      obtain ⟨notModel, notEnum⟩ := noKeyword c List.mem_cons_self
      cases blank : (c == ' ' || c == '\t') with
      | false => exact header?_cons_of_ne blank notModel notEnum
      | true =>
          rw [List.cons_append, header?_cons_of_blank blank]
          exact ih fun d member => noKeyword d (List.mem_cons_of_mem _ member)

theorem nextHeader?_cons_of_none {lineStart : Bool} {c : Char} {rest : List Char}
    (noHeader : lineStart = true → header? (c :: rest) = none) :
    nextHeader? lineStart (c :: rest) = nextHeader? (c == '\n') rest := by
  have none_here : (if lineStart then header? (c :: rest) else none) = none := by
    split
    · exact noHeader ‹_›
    · rfl
  rw [nextHeader?, none_here]

/-- Inside a line no header begins. -/
theorem nextHeader?_append_of_notMem {text : List Char} (oneLine : '\n' ∉ text)
    (rest : List Char) : nextHeader? false (text ++ rest) = nextHeader? false rest := by
  induction text with
  | nil => rfl
  | cons c later ih =>
      have other : (c == '\n') = false := by
        simp only [beq_eq_false_iff_ne, ne_eq]
        exact fun same => oneLine (same ▸ List.mem_cons_self)
      rw [List.cons_append, nextHeader?_cons_of_none (by simp), other]
      exact ih fun member => oneLine (List.mem_cons_of_mem _ member)

/-- Text without the first letters of the keywords is passed over, with the
line feed that ends it. -/
theorem nextHeader?_append_lineFeed {lineStart : Bool} {text : List Char}
    (noKeyword : ∀ c ∈ text, c ≠ 'm' ∧ c ≠ 'e') (rest : List Char) :
    nextHeader? lineStart (text ++ '\n' :: rest) = nextHeader? true rest := by
  induction text generalizing lineStart with
  | nil =>
      exact nextHeader?_cons_of_none fun _ => header?_append_lineFeed noKeyword rest
  | cons c later ih =>
      rw [List.cons_append, nextHeader?_cons_of_none]
      · exact ih fun d member => noKeyword d (List.mem_cons_of_mem _ member)
      · exact fun _ => header?_append_lineFeed noKeyword rest

/-- Behind the slashes of a comment the search is inside a line. -/
theorem nextHeader?_slashes (text : List Char) :
    nextHeader? true ("// ".toList ++ text) = nextHeader? false text := by
  have noHeader : header? ("// ".toList ++ text) = none :=
    header?_cons_of_ne rfl (by decide) (by decide)
  have oneLine : '\n' ∉ "/ ".toList := by decide
  calc nextHeader? true ("// ".toList ++ text)
    _ = nextHeader? false ("/ ".toList ++ text) := nextHeader?_cons_of_none fun _ => noHeader
    _ = nextHeader? false text := nextHeader?_append_of_notMem oneLine text

/-- A text in front of a line feed in which no block begins. -/
def PassedOver (text : List Char) : Prop :=
  ∀ rest, nextHeader? true (text ++ '\n' :: rest) = nextHeader? true rest

/-- A comment of one line is passed over. -/
theorem passedOver_originComment {header : String} (oneLine : '\n' ∉ header.toList)
    (origin : String) : PassedOver (originComment header origin).toList := by
  intro rest
  have split : (originComment header origin).toList ++ '\n' :: rest =
      "// ".toList ++ (header.toList ++ " from ".toList ++
        (upperChars origin.toList ++ '\n' :: rest)) := by
    simp [originComment, upper]
  have frontOneLine : '\n' ∉ header.toList ++ " from ".toList := by
    simp [oneLine]
  have noKeyword : ∀ c ∈ upperChars origin.toList, c ≠ 'm' ∧ c ≠ 'e' := by
    intro c member
    have outside := not_small_of_mem_upperChars member
    constructor
    · rintro rfl
      revert outside
      decide
    · rintro rfl
      revert outside
      decide
  calc nextHeader? true ((originComment header origin).toList ++ '\n' :: rest)
    _ = nextHeader? false (header.toList ++ " from ".toList ++
          (upperChars origin.toList ++ '\n' :: rest)) := by
        rw [split, nextHeader?_slashes]
    _ = nextHeader? false (upperChars origin.toList ++ '\n' :: rest) :=
        nextHeader?_append_of_notMem frontOneLine _
    _ = nextHeader? true rest := nextHeader?_append_lineFeed noKeyword rest

theorem kind?_keyword (kind : BlockKind) (rest : List Char) :
    kind? (kind.keyword.toList ++ rest) = some (kind, rest) := by
  cases kind with
  | model => simp [kind?, BlockKind.keyword, literal?]
  | enumeration => simp [kind?, BlockKind.keyword, literal?]

/-- A name begins with no blank. -/
theorem IsName.stops {name : List Char} (isName : IsName name) (rest : List Char) :
    Stops isBlank (name ++ rest) := by
  obtain ⟨c, later, rfl⟩ := List.exists_cons_of_ne_nil isName.nonempty
  exact stops_cons_iff.mpr (isBlank_of_isWord (isName.word c List.mem_cons_self))

/-- The header of a block is read with its name, whatever blanks stand before
the brace. -/
theorem header?_block (kind : BlockKind) {name gap : List Char} (isName : IsName name)
    (gapNonempty : gap ≠ []) (blank : ∀ c ∈ gap, isBlank c = true) (opened : List Char) :
    header? (kind.keyword.toList ++ ' ' :: (name ++ (gap ++ '\x7b' :: opened))) =
      some (kind, name, opened) := by
  have atKeyword : (kind.keyword.toList ++ ' ' :: (name ++ (gap ++ '\x7b' :: opened))).dropWhile
      (fun c => c == ' ' || c == '\t') =
        kind.keyword.toList ++ ' ' :: (name ++ (gap ++ '\x7b' :: opened)) := by
    cases kind <;> rfl
  have nameStops := isName.stops (gap ++ '\x7b' :: opened)
  have gapStops : Stops isWord (gap ++ '\x7b' :: opened) := by
    obtain ⟨c, rest, rfl⟩ := List.exists_cons_of_ne_nil gapNonempty
    exact stops_cons_iff.mpr (isWord_of_isBlank (blank c List.mem_cons_self))
  have braceStops : Stops isBlank ('\x7b' :: opened) := stops_cons_iff.mpr rfl
  have nameRead : name? (name ++ (gap ++ '\x7b' :: opened)) =
      some (name, gap ++ '\x7b' :: opened) :=
    run?_append isName.nonempty isName.word gapStops
  have gapSkipped : skipBlanks (gap ++ '\x7b' :: opened) = '\x7b' :: opened :=
    dropWhile_append_of_stops blank braceStops
  simp [header?, atKeyword, kind?_keyword, blanks?_cons (c := ' ') rfl nameStops, nameRead,
    gapSkipped]

end Crowsfoot.Dsl
