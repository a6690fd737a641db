import Crowsfoot.Proofs.Dsl.Blocks

/-!
# Header comments

The header of a written text stands behind the two slashes of its first line.
A header of several lines leaves the comment: its later lines are searched for
blocks like all others.  The words between the header and the origin complete
no block header that the header has begun, and they hide none that is complete.
-/

namespace Crowsfoot

theorem Document.isEmpty_iff (document : Document) :
    document.isEmpty = true ↔ document.tables = [] ∧ document.enums = [] := by
  simp [Document.isEmpty]

namespace Dsl

open Crowsfoot.Text

/-- Whether a header has no block header on a line behind its first. -/
def OpensNoBlock (header : String) : Prop :=
  nextHeader? false header.toList = none

instance (header : String) : Decidable (OpensNoBlock header) :=
  inferInstanceAs (Decidable (_ = none))

/-- A header of one line opens no block. -/
theorem opensNoBlock_of_oneLine {header : String} (oneLine : '\n' ∉ header.toList) :
    OpensNoBlock header := by
  have passed := nextHeader?_append_of_notMem oneLine []
  rwa [List.append_nil] at passed

/-- An opening brace behind blanks. -/
def brace? (text : List Char) : Option (List Char) :=
  match skipBlanks text with
  | '\x7b' :: body => some body
  | _ => none

/-- A name and an opening brace. -/
def namedBrace? (text : List Char) : Option (List Char × List Char) :=
  (name? text).bind fun read => (brace? read.2).map (Prod.mk read.1)

theorem header?_eq_namedBrace? (line : List Char) :
    header? line =
      (kind? (line.dropWhile fun c => c == ' ' || c == '\t')).bind fun read =>
        ((blanks? read.2).bind namedBrace?).map (Prod.mk read.1) := by
  rw [header?, Option.bind_eq_bind]
  congr 1
  funext read
  obtain ⟨kind, afterKind⟩ := read
  rw [Option.map_bind]
  dsimp only
  congr 1
  funext afterBlanks
  rw [Option.bind_eq_bind, Function.comp_apply, namedBrace?, Option.map_bind]
  congr 1
  funext named
  obtain ⟨name, afterName⟩ := named
  rw [Function.comp_apply, brace?, Option.map_map]
  dsimp only
  split <;> simp_all

/-- What stands behind a header: a blank, a word, a blank and the origin. -/
def fromOrigin (origin : List Char) : List Char :=
  ' ' :: ("from".toList ++ ' ' :: origin)

theorem stops_fromOrigin (origin : List Char) : Stops isWord (fromOrigin origin) :=
  stops_cons_iff.mpr rfl

/-- The blank in front of the words is skipped if the text is blank so far. -/
theorem skipBlanks_append_fromOrigin (text origin : List Char) :
    skipBlanks (text ++ fromOrigin origin) =
      if (skipBlanks text).isEmpty then "from".toList ++ ' ' :: origin
      else skipBlanks text ++ fromOrigin origin := by
  rw [skipBlanks, skipBlanks, List.dropWhile_append]
  rfl

/-- The words continue no keyword. -/
theorem kind?_append_fromOrigin (text origin : List Char) :
    kind? (text ++ fromOrigin origin) =
      (kind? text).map fun (kind, rest) => (kind, rest ++ fromOrigin origin) := by
  have model : literal? "model".toList (text ++ fromOrigin origin) =
      (literal? "model".toList text).map (· ++ fromOrigin origin) :=
    literal?_append_cons (by decide) _ _
  have enum : literal? "enum".toList (text ++ fromOrigin origin) =
      (literal? "enum".toList text).map (· ++ fromOrigin origin) :=
    literal?_append_cons (by decide) _ _
  rw [kind?, kind?, model, enum]
  cases literal? "model".toList text <;> cases literal? "enum".toList text <;> rfl

/-- The words hold no brace. -/
theorem brace?_append_fromOrigin (text origin : List Char) :
    brace? (text ++ fromOrigin origin) = (brace? text).map (· ++ fromOrigin origin) := by
  rw [brace?, brace?, skipBlanks_append_fromOrigin]
  cases skipBlanks text with
  | nil => rfl
  | cons c rest =>
      simp only [List.isEmpty_cons, Bool.false_eq_true, if_false, List.cons_append]
      split
      · rename_i opened
        obtain ⟨rfl, rfl⟩ := List.cons.inj opened
        rfl
      · rename_i other
        split
        · rename_i opened
          obtain ⟨rfl, rfl⟩ := List.cons.inj opened
          exact absurd rfl (other _)
        · rfl

/-- The words extend no name. -/
theorem namedBrace?_append_fromOrigin (text origin : List Char) :
    namedBrace? (text ++ fromOrigin origin) =
      (namedBrace? text).map fun (name, body) => (name, body ++ fromOrigin origin) := by
  rw [namedBrace?, namedBrace?, name?, name?, run?_append_of_stops (stops_fromOrigin origin)]
  cases run? isWord text with
  | none => rfl
  | some read =>
      obtain ⟨name, rest⟩ := read
      simp [brace?_append_fromOrigin, Function.comp_def]

section Origin

variable {initial : Char} (word : isWord initial = true) (later : List Char)

include word

/-- The first of the words is no name of a block, since the origin follows and
not a brace. -/
theorem namedBrace?_from : namedBrace? ("from".toList ++ ' ' :: initial :: later) = none := by
  have read : name? ("from".toList ++ ' ' :: initial :: later) =
      some ("from".toList, ' ' :: initial :: later) :=
    run?_append (by decide) (by decide) (stops_cons_iff.mpr rfl)
  have stops : Stops isBlank (initial :: later) := stops_cons_iff.mpr (isBlank_of_isWord word)
  have skipped : skipBlanks ([' '] ++ initial :: later) = initial :: later :=
    dropWhile_append_of_stops (by decide) stops
  rw [List.singleton_append] at skipped
  have noBrace : brace? (' ' :: initial :: later) = none := by
    rw [brace?, skipped]
    split
    · rename_i opened
      obtain ⟨rfl, -⟩ := List.cons.inj opened
      exact absurd word (by decide)
    · rfl
  simp only [namedBrace?, read, Option.bind_some, noBrace, Option.map_none]

/-- A block header that is not complete stays so. -/
theorem blanks?_bind_append_fromOrigin (text : List Char) :
    (blanks? (text ++ fromOrigin (initial :: later))).bind namedBrace? =
      ((blanks? text).bind namedBrace?).map fun (name, body) =>
        (name, body ++ fromOrigin (initial :: later)) := by
  cases text with
  | nil => exact namedBrace?_from word later
  | cons c rest =>
      simp only [List.cons_append, blanks?]
      split
      · rw [Option.bind_some, Option.bind_some, skipBlanks_append_fromOrigin]
        cases skipBlanks rest with
        | nil => exact namedBrace?_from word later
        | cons d more => exact namedBrace?_append_fromOrigin (d :: more) (initial :: later)
      · rfl

/-- Exactly the block header that the header has is found. -/
theorem header?_append_fromOrigin (line : List Char) :
    header? (line ++ fromOrigin (initial :: later)) =
      (header? line).map fun (kind, name, body) =>
        (kind, name, body ++ fromOrigin (initial :: later)) := by
  rw [header?_eq_namedBrace?, header?_eq_namedBrace?, List.dropWhile_append]
  cases line.dropWhile fun c => c == ' ' || c == '\t' with
  | nil => rfl
  | cons c rest =>
      rw [List.isEmpty_cons, if_neg (by simp), kind?_append_fromOrigin]
      cases kind? (c :: rest) with
      | none => rfl
      | some read =>
          obtain ⟨kind, rest⟩ := read
          simp only [Option.map_some, Option.bind_some, blanks?_bind_append_fromOrigin word,
            Option.map_map, Function.comp_def]

end Origin

/-! ## The search behind a header -/

/-- What is found behind a header: the first block header in it, or else the
first one behind its line. -/
theorem nextHeader?_append_fromOrigin {lineStart : Bool} {origin : List Char}
    (isName : IsName origin) (header rest : List Char) :
    nextHeader? lineStart (header ++ fromOrigin origin ++ '\n' :: rest) =
      ((nextHeader? lineStart header).map fun (kind, name, body) =>
        (kind, name, body ++ fromOrigin origin ++ '\n' :: rest)).or (nextHeader? true rest) := by
  obtain ⟨initial, more, rfl⟩ := List.exists_cons_of_ne_nil isName.nonempty
  have word : isWord initial = true := isName.word initial List.mem_cons_self
  have oneLine : '\n' ∉ "from".toList ++ ' ' :: initial :: more := by
    intro member
    have among : '\n' ∈ initial :: more := by simpa using member
    exact absurd (isName.word _ among) (by decide)
  have joined (text : List Char) : text ++ fromOrigin (initial :: more) ++ '\n' :: rest =
      text ++ fromOrigin (initial :: (more ++ '\n' :: rest)) := by
    simp [fromOrigin]
  simp only [joined]
  induction header generalizing lineStart with
  | nil =>
      have noHeader : header? (fromOrigin (initial :: (more ++ '\n' :: rest))) = none :=
        header?_append_fromOrigin word (more ++ '\n' :: rest) []
      have passed := nextHeader?_append_of_notMem oneLine ('\n' :: rest)
      rw [List.append_assoc, List.cons_append, List.cons_append] at passed
      calc nextHeader? lineStart (fromOrigin (initial :: (more ++ '\n' :: rest)))
        _ = nextHeader? false ("from".toList ++ ' ' :: initial :: (more ++ '\n' :: rest)) :=
            nextHeader?_cons_of_none fun _ => noHeader
        _ = nextHeader? false ('\n' :: rest) := passed
        _ = nextHeader? true rest := nextHeader?_cons_of_none (by simp)
  | cons c header ih =>
      have here := header?_append_fromOrigin word (more ++ '\n' :: rest) (c :: header)
      rw [List.cons_append] at here ⊢
      rw [nextHeader?, nextHeader?, here]
      cases lineStart with
      | false => exact ih
      | true =>
          cases header? (c :: header) with
          | none => exact ih
          | some found => rfl

theorem isName_upperChars_name (format : SourceFormat) :
    IsName (upperChars format.name.toList) := by
  cases format <;> exact ⟨by decide, by decide⟩

/-- What is found behind the comment of a written text. -/
theorem nextHeader?_originComment (header : String) (format : SourceFormat) (rest : List Char) :
    nextHeader? true ((originComment header format.name).toList ++ '\n' :: rest) =
      ((nextHeader? false header.toList).map fun (kind, name, body) =>
        (kind, name, body ++ fromOrigin (upperChars format.name.toList) ++ '\n' :: rest)).or
          (nextHeader? true rest) := by
  have split : (originComment header format.name).toList ++ '\n' :: rest = "// ".toList ++
      (header.toList ++ fromOrigin (upperChars format.name.toList) ++ '\n' :: rest) := by
    simp [originComment, upper, fromOrigin]
  rw [split, nextHeader?_slashes,
    nextHeader?_append_fromOrigin (isName_upperChars_name format)]

/-- The comment is passed over exactly if its header opens no block. -/
theorem passedOver_originComment_iff (header : String) (format : SourceFormat) :
    PassedOver (originComment header format.name).toList ↔ OpensNoBlock header := by
  constructor
  · intro passed
    have found := passed []
    rw [nextHeader?_originComment] at found
    exact Option.map_eq_none_iff.mp (Option.or_eq_none_iff.mp found).1
  · intro opensNoBlock rest
    rw [nextHeader?_originComment, opensNoBlock]
    rfl

/-- An origin that is the name of a notation is written as it is. -/
theorem written_origin (document : Document) (format : SourceFormat) :
    (if format.name == "" then document.format else format.name) = format.name := by
  cases format <;> rfl

/-- What is read from a written document does not depend on the header, if it
opens no block. -/
theorem ofDsl_toDsl_congr (document : Document) (format : SourceFormat) {one other : String}
    (opensNoBlock : OpensNoBlock one) (otherOpensNoBlock : OpensNoBlock other) :
    Document.ofDsl (document.toDsl one format.name) =
      Document.ofDsl (document.toDsl other format.name) := by
  have passed {header : String} (opensNoBlock : OpensNoBlock header) :
      PassedOver (originComment header
        (if format.name == "" then document.format else format.name)).toList := by
    rw [written_origin]
    exact (passedOver_originComment_iff header format).mpr opensNoBlock
  rw [document.ofDsl_toDsl_of_passedOver (passed opensNoBlock),
    document.ofDsl_toDsl_of_passedOver (passed otherOpensNoBlock)]

/-- A text has no blocks exactly if no block header is found in it. -/
theorem blocksFrom_eq_ok_nil_iff {lineStart : Bool} {text : List Char} :
    blocksFrom lineStart text = .ok [] ↔ nextHeader? lineStart text = none := by
  fun_cases blocksFrom lineStart text <;> simp_all

theorem isEmpty_documentOf (blocks : List Block) :
    (documentOf blocks).isEmpty = blocks.isEmpty := by
  cases blocks with
  | nil => rfl
  | cons block later =>
      obtain ⟨kind, name, body⟩ := block
      cases kind <;> simp [documentOf, Document.isEmpty]

/-- What is written of an empty document is read as an empty document exactly
if the header opens no block. -/
theorem exists_ofDsl_toDsl_isEmpty_iff {document : Document} (empty : document.isEmpty = true)
    (header : String) (format : SourceFormat) :
    (∃ read, Document.ofDsl (document.toDsl header format.name) = .ok read ∧
        read.isEmpty = true) ↔ OpensNoBlock header := by
  have noSources : blockSources document = [] := by
    obtain ⟨noTables, noEnums⟩ := document.isEmpty_iff.mp empty
    simp [blockSources, noTables, noEnums]
  have text : (document.toDsl header format.name).toList =
      (originComment header format.name).toList ++ '\n' :: [] := by
    rw [toList_toDsl, noSources, written_origin]
    rfl
  have found := nextHeader?_originComment header format []
  rw [← text] at found
  rw [Document.ofDsl]
  constructor
  · rintro ⟨read, succeeds, readEmpty⟩
    cases blocks : blocksFrom true (document.toDsl header format.name).toList with
    | error cause =>
        rw [blocks] at succeeds
        contradiction
    | ok all =>
        rw [blocks] at succeeds
        obtain rfl : documentOf all = read := Except.ok.inj succeeds
        rw [isEmpty_documentOf, List.isEmpty_iff] at readEmpty
        rw [readEmpty, blocksFrom_eq_ok_nil_iff, found] at blocks
        exact Option.map_eq_none_iff.mp (Option.or_eq_none_iff.mp blocks).1
  · intro opensNoBlock
    rw [opensNoBlock] at found
    exact ⟨documentOf [], by rw [blocksFrom_of_none found]; rfl, rfl⟩

end Dsl

end Crowsfoot
