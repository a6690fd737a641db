import Crowsfoot.Dsl.Printer
import Crowsfoot.Proofs.Text.CharacterClass
import Crowsfoot.Proofs.Text.LetterCase
import Crowsfoot.Proofs.Text.Recognizers

/-!
# Written names

Every name that is written in the schema DSL is a nonempty run of word
characters, possibly with one line feed after it: a name that is an identifier
up to a final line feed is written as it stands.  A name without a line feed
is written as a bare name.  Every name that does not keep a line feed is
written as an identifier, and exactly the identifiers stay as they are.
-/

namespace Crowsfoot.Dsl

open Crowsfoot.Text

/-- A text that is read as one name: word characters, at least one. -/
structure IsName (text : List Char) : Prop where
  nonempty : text ≠ []
  word : ∀ c ∈ text, isWord c = true

instance (text : List Char) : Decidable (IsName text) :=
  decidable_of_iff (text ≠ [] ∧ ∀ c ∈ text, isWord c = true)
    ⟨fun ⟨nonempty, word⟩ => ⟨nonempty, word⟩, fun ⟨nonempty, word⟩ => ⟨nonempty, word⟩⟩

theorem IsName.oneLine {text : List Char} (isName : IsName text) : '\n' ∉ text :=
  fun member => ne_of_class (isName.word _ member) rfl rfl

@[simp]
theorem withoutFinalLineFeed_append (text : List Char) :
    withoutFinalLineFeed (text ++ ['\n']) = text := by
  simp [withoutFinalLineFeed]

theorem withoutFinalLineFeed_of_notMem {text : List Char} (oneLine : '\n' ∉ text) :
    withoutFinalLineFeed text = text := by
  unfold withoutFinalLineFeed
  split
  · rename_i reversed ended
    have member : '\n' ∈ text.reverse := ended ▸ List.mem_cons_self
    exact absurd (List.mem_reverse.mp member) oneLine
  · rfl

theorem withoutFinalLineFeed_cases (text : List Char) :
    text = withoutFinalLineFeed text ∨ text = withoutFinalLineFeed text ++ ['\n'] := by
  unfold withoutFinalLineFeed
  split
  · rename_i reversed ended
    right
    rw [← List.reverse_reverse text, ended, List.reverse_cons]
  · exact .inl rfl

theorem isName_of_isIdentifier {text : List Char} (identifier : isIdentifier text = true) :
    IsName text := by
  cases text with
  | nil => simp [isIdentifier] at identifier
  | cons c rest =>
      simp only [isIdentifier, Bool.and_eq_true, List.all_eq_true] at identifier
      refine ⟨by simp, ?_⟩
      intro d member
      rcases List.mem_cons.mp member with rfl | later
      · exact identifier.1.1
      · exact identifier.2 d later

theorem isWord_underscore : isWord '_' = true :=
  rfl

theorem isWord_of_mem_collapse {inRun : Bool} {name : List Char} {c : Char}
    (member : c ∈ collapse inRun name) : isWord c = true := by
  induction name generalizing inRun with
  | nil => simp [collapse] at member
  | cons d rest ih =>
      simp only [collapse] at member
      split at member
      · rename_i word
        rcases List.mem_cons.mp member with rfl | later
        · exact word
        · exact ih later
      · split at member
        · exact ih member
        · rcases List.mem_cons.mp member with rfl | later
          · exact isWord_underscore
          · exact ih later

theorem mem_of_mem_trim {drops : Char → Bool} {text : List Char} {c : Char}
    (member : c ∈ trim drops text) : c ∈ text := by
  have inside : c ∈ (text.dropWhile drops).reverse.dropWhile drops := by
    simpa [trim, trimEnd] using member
  have reversed : c ∈ (text.dropWhile drops).reverse :=
    (List.dropWhile_sublist _).subset inside
  exact (List.dropWhile_sublist _).subset (List.mem_reverse.mp reversed)

/-- A sanitized name is a name. -/
theorem isName_sanitize (name : List Char) : IsName (sanitize name) := by
  unfold sanitize
  split
  · exact ⟨by simp, by simp [isWord_underscore]⟩
  · rename_i cleaned _
    have word : ∀ c ∈ trim (· == '_') (collapse false name), isWord c = true :=
      fun c member => isWord_of_mem_collapse (mem_of_mem_trim member)
    cases trimmed : trim (· == '_') (collapse false name) with
    | nil => contradiction
    | cons c rest =>
        rw [trimmed] at word
        simp only [guardDigit]
        split
        · refine ⟨by simp, ?_⟩
          intro d member
          rcases List.mem_cons.mp member with rfl | later
          · exact isWord_underscore
          · exact word d later
        · exact ⟨by simp, word⟩

theorem lineFeed_notMem_sanitize (name : List Char) : '\n' ∉ sanitize name :=
  (isName_sanitize name).oneLine

/-- The identifier of a name is a name, up to a final line feed. -/
theorem isName_identifierChars (name : List Char) :
    IsName (withoutFinalLineFeed (identifierChars name)) := by
  unfold identifierChars
  split
  · rename_i identifier
    exact isName_of_isIdentifier identifier
  · rw [withoutFinalLineFeed_of_notMem (lineFeed_notMem_sanitize name)]
    exact isName_sanitize name

/-- A name that is changed becomes a name. -/
theorem lineFeed_notMem_of_changed {name : List Char} (changed : identifierChars name ≠ name) :
    '\n' ∉ identifierChars name := by
  unfold identifierChars at *
  split
  · rename_i kept
    exact absurd (if_pos kept) changed
  · exact lineFeed_notMem_sanitize name

theorem lineFeed_notMem_identifierChars {name : List Char} (oneLine : '\n' ∉ name) :
    '\n' ∉ identifierChars name := by
  unfold identifierChars
  split
  · exact oneLine
  · exact lineFeed_notMem_sanitize name

@[simp]
theorem toList_identifier (name : String) :
    (identifier name).toList = identifierChars name.toList := by
  simp [identifier]

/-- The identifier of a name without a line feed is a name. -/
theorem isName_identifier {name : String} (oneLine : '\n' ∉ name.toList) :
    IsName (identifier name).toList := by
  have isName := isName_identifierChars name.toList
  rwa [withoutFinalLineFeed_of_notMem (lineFeed_notMem_identifierChars oneLine),
    ← toList_identifier] at isName

/-- No sign but a line feed stands in the identifier of a name. -/
theorem notMem_identifier {sign : Char} (notWord : isWord sign = false) (other : sign ≠ '\n')
    (name : String) : sign ∉ (identifier name).toList := by
  have inName := isName_identifierChars name.toList
  have outside : sign ∉ withoutFinalLineFeed (identifierChars name.toList) :=
    fun member => ne_of_class (inName.word sign member) notWord rfl
  rw [toList_identifier]
  rcases withoutFinalLineFeed_cases (identifierChars name.toList) with same | ended
  · rwa [same]
  · rw [ended]
    simp [outside, other]

/-! ## The form of identifiers -/

/-- A name that does not begin with a decimal digit. -/
structure IsIdentifier (text : List Char) : Prop extends IsName text where
  first : Stops isDecimal text

theorem isIdentifier_eq_true_iff {text : List Char} :
    isIdentifier text = true ↔ IsIdentifier text := by
  cases text with
  | nil =>
      constructor
      · intro valid
        contradiction
      · intro valid
        exact absurd rfl valid.nonempty
  | cons c rest =>
      constructor
      · intro valid
        refine ⟨isName_of_isIdentifier valid, stops_cons_iff.mpr ?_⟩
        simp only [isIdentifier, Bool.and_eq_true, Bool.not_eq_true'] at valid
        exact valid.1.2
      · intro valid
        have word := List.forall_mem_cons.mp valid.word
        simp only [isIdentifier, Bool.and_eq_true, Bool.not_eq_true', List.all_eq_true]
        exact ⟨⟨word.1, stops_cons_iff.mp valid.first⟩, word.2⟩

instance (text : List Char) : Decidable (IsIdentifier text) :=
  decidable_of_iff _ isIdentifier_eq_true_iff

/-- A sanitized name is an identifier: a digit at its beginning is guarded, and
every decimal digit is a digit. -/
theorem isIdentifier_sanitize (name : List Char) : IsIdentifier (sanitize name) := by
  refine ⟨isName_sanitize name, ?_⟩
  unfold sanitize
  split
  · exact stops_cons_iff.mpr rfl
  · cases trim (· == '_') (collapse false name) with
    | nil => exact stops_nil _
    | cons c rest =>
        rw [guardDigit]
        split
        · exact stops_cons_iff.mpr rfl
        · rename_i notDigit
          rw [stops_cons_iff, ← Bool.not_eq_true]
          exact fun decimal => notDigit (isDigit_of_isDecimal decimal)

/-- An identifier with a line feed behind it. -/
def KeepsLineFeed (name : List Char) : Prop :=
  ∃ base, IsIdentifier base ∧ name = base ++ ['\n']

theorem KeepsLineFeed.mem {name : List Char} (keeps : KeepsLineFeed name) : '\n' ∈ name := by
  obtain ⟨base, -, rfl⟩ := keeps
  simp

theorem KeepsLineFeed.not_isIdentifier {name : List Char} (keeps : KeepsLineFeed name) :
    ¬IsIdentifier name :=
  fun valid => valid.oneLine keeps.mem

/-- Up to a final line feed, exactly these names are identifiers. -/
theorem isIdentifier_withoutFinalLineFeed_iff {name : List Char} :
    isIdentifier (withoutFinalLineFeed name) = true ↔ IsIdentifier name ∨ KeepsLineFeed name := by
  rw [isIdentifier_eq_true_iff]
  constructor
  · intro valid
    rcases withoutFinalLineFeed_cases name with same | ended
    · left
      rwa [same]
    · exact .inr ⟨_, valid, ended⟩
  · rintro (valid | ⟨base, valid, rfl⟩)
    · rwa [withoutFinalLineFeed_of_notMem valid.oneLine]
    · rwa [withoutFinalLineFeed_append]

instance (name : List Char) : Decidable (KeepsLineFeed name) :=
  decidable_of_iff (isIdentifier (withoutFinalLineFeed name) = true ∧ ¬IsIdentifier name) <| by
    rw [isIdentifier_withoutFinalLineFeed_iff]
    constructor
    · rintro ⟨valid | keeps, invalid⟩
      · exact absurd valid invalid
      · exact keeps
    · exact fun keeps => ⟨.inr keeps, keeps.not_isIdentifier⟩

/-- A name is kept, or its identifier is the sanitized name. -/
theorem identifierChars_cases (name : List Char) :
    (IsIdentifier name ∨ KeepsLineFeed name) ∧ identifierChars name = name ∨
      ¬(IsIdentifier name ∨ KeepsLineFeed name) ∧ identifierChars name = sanitize name := by
  rw [identifierChars, ← isIdentifier_withoutFinalLineFeed_iff]
  split
  · rename_i kept
    exact .inl ⟨kept, rfl⟩
  · rename_i changed
    exact .inr ⟨changed, rfl⟩

/-- Exactly these names are kept. -/
theorem identifierChars_eq_self_iff {name : List Char} :
    identifierChars name = name ↔ IsIdentifier name ∨ KeepsLineFeed name := by
  rcases identifierChars_cases name with ⟨kept, same⟩ | ⟨changed, sanitized⟩
  · exact iff_of_true same kept
  · refine iff_of_false (fun same => changed (.inl ?_)) changed
    rw [← same, sanitized]
    exact isIdentifier_sanitize name

/-- The identifier of a name has the form of identifiers, unless the name keeps a
line feed. -/
theorem isIdentifier_identifierChars_iff {name : List Char} :
    IsIdentifier (identifierChars name) ↔ ¬KeepsLineFeed name := by
  rcases identifierChars_cases name with ⟨valid | keeps, same⟩ | ⟨changed, sanitized⟩
  · rw [same]
    exact iff_of_true valid fun keeps => keeps.not_isIdentifier valid
  · rw [same]
    exact iff_of_false keeps.not_isIdentifier (not_not_intro keeps)
  · rw [sanitized]
    exact iff_of_true (isIdentifier_sanitize name) fun keeps => changed (.inr keeps)

theorem identifierChars_identifierChars (name : List Char) :
    identifierChars (identifierChars name) = identifierChars name := by
  rcases identifierChars_cases name with ⟨-, same⟩ | ⟨-, sanitized⟩
  · rw [same, same]
  · rw [sanitized]
    exact identifierChars_eq_self_iff.mpr (.inl (isIdentifier_sanitize name))

theorem identifier_eq_self_iff {name : String} :
    identifier name = name ↔ IsIdentifier name.toList ∨ KeepsLineFeed name.toList := by
  rw [← String.toList_inj, toList_identifier, identifierChars_eq_self_iff]

theorem mem_of_mem_pieces {isSeparator : Char → Bool} {text piece : List Char} {c : Char}
    (pieceMember : piece ∈ pieces isSeparator text) (member : c ∈ piece) : c ∈ text := by
  induction text generalizing piece with
  | nil =>
      simp only [pieces, List.mem_singleton] at pieceMember
      rw [pieceMember] at member
      contradiction
  | cons d rest ih =>
      simp only [pieces] at pieceMember
      split at pieceMember
      · rcases List.mem_cons.mp pieceMember with rfl | later
        · contradiction
        · exact List.mem_cons_of_mem _ (ih later member)
      · split at pieceMember
        · rw [List.mem_singleton.mp pieceMember] at member
          rw [List.mem_singleton.mp member]
          exact List.mem_cons_self
        · rename_i first later parts
          rcases List.mem_cons.mp pieceMember with rfl | laterMember
          · rcases List.mem_cons.mp member with rfl | inFirst
            · exact List.mem_cons_self
            · exact List.mem_cons_of_mem _ (ih (parts ▸ List.mem_cons_self) inFirst)
          · exact List.mem_cons_of_mem _
              (ih (parts ▸ List.mem_cons_of_mem _ laterMember) member)

theorem lineFeed_notMem_capitalize {word : List Char} (oneLine : '\n' ∉ word) :
    '\n' ∉ capitalize word := by
  cases word with
  | nil => simp [capitalize]
  | cons c rest =>
      simp only [capitalize]
      intro member
      rcases List.mem_append.mp member with first | later
      · have other : c ≠ '\n' := fun same => oneLine (same ▸ List.mem_cons_self)
        exact lineFeed_notMem_upperChar other first
      · have restOneLine : '\n' ∉ rest := fun inRest => oneLine (List.mem_cons_of_mem _ inRest)
        exact lineFeed_notMem_lowerChars restOneLine later

/-- Capitalising the words of a name adds no line feed. -/
theorem lineFeed_notMem_pascal {separators name : String} (oneLine : '\n' ∉ name.toList) :
    '\n' ∉ (pascal separators name).toList := by
  simp only [pascal, String.toList_ofList, List.mem_flatMap, not_exists, not_and]
  intro word wordMember
  apply lineFeed_notMem_capitalize
  intro member
  exact oneLine (mem_of_mem_pieces wordMember member)

theorem lineFeed_notMem_sourceName {format name : String} (oneLine : '\n' ∉ name.toList) :
    '\n' ∉ (sourceName format name).toList := by
  unfold sourceName
  split
  · exact lineFeed_notMem_pascal oneLine
  · exact oneLine

theorem lineFeed_notMem_blockName {format name : String} (oneLine : '\n' ∉ name.toList) :
    '\n' ∉ (blockName format name).toList := by
  rw [blockName, toList_identifier]
  exact lineFeed_notMem_identifierChars (lineFeed_notMem_sourceName oneLine)

/-- The name of a block whose source name has no line feed is a name. -/
theorem isName_blockName {format name : String} (oneLine : '\n' ∉ name.toList) :
    IsName (blockName format name).toList :=
  isName_identifier (lineFeed_notMem_sourceName oneLine)

end Crowsfoot.Dsl
