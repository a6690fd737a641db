import Crowsfoot.Dsl.Reader
import Crowsfoot.Proofs.Dsl.Names
import Crowsfoot.Proofs.Text.Lines

/-!
# Names that are read

Whatever a text of the schema DSL declares, it declares under a name: blocks,
columns and their types are nonempty runs of word characters, and neither the
values of an enum nor the columns in a relation are empty.
-/

namespace Crowsfoot

open Crowsfoot.Text
open Crowsfoot.Dsl (IsName)

structure Column.Named (column : Column) : Prop where
  name : IsName column.name.toList
  type : IsName column.typeToken.toList

structure Table.Named (table : Table) : Prop where
  name : IsName table.name.toList
  columns : ∀ column ∈ table.columns, column.Named

structure Enumeration.Named (enumeration : Enumeration) : Prop where
  name : IsName enumeration.name.toList
  values : ∀ value ∈ enumeration.values, value ≠ ""

/-- A document in which everything that is declared has a name. -/
structure Document.Named (document : Document) : Prop where
  tables : ∀ table ∈ document.tables, table.Named
  enums : ∀ enumeration ∈ document.enums, enumeration.Named

namespace Dsl

/-- A bare name is a name. -/
theorem isName_of_name? {text name rest : List Char} (read : name? text = some (name, rest)) :
    IsName name := by
  unfold name? run? at read
  split at read
  · contradiction
  · rename_i nonempty
    obtain ⟨rfl, -⟩ := Prod.mk.inj (Option.some.inj read)
    exact ⟨nonempty, fun c member => List.all_eq_true.mp List.all_takeWhile c member⟩

/-- What is left of a piece without the blanks at its ends begins with a
word. -/
theorem firstWord_ne_nil {isSeparator : Char → Bool} {text piece : List Char}
    (member : piece ∈ strippedPieces isSeparator text) : firstWord piece ≠ [] := by
  obtain ⟨inPieces, nonempty⟩ := List.mem_filter.mp member
  obtain ⟨whole, -, rfl⟩ := List.mem_map.mp inPieces
  obtain ⟨gap, cut, -⟩ := exists_trimEnd_append isBlank (whole.dropWhile isBlank)
  cases kept : strip whole with
  | nil =>
      rw [kept] at nonempty
      contradiction
  | cons c rest =>
      rw [show trimEnd isBlank (whole.dropWhile isBlank) = strip whole from rfl, kept,
        List.cons_append] at cut
      have notBlank : isBlank c = false := by
        simpa [cut] using List.head?_dropWhile_not isBlank whole
      simp [firstWord, splitWord, notBlank]

/-- The names in a relation are not empty. -/
theorem ne_empty_of_mem_namesOf {key name : String} {attributes : List Char}
    (member : name ∈ namesOf key attributes) : name ≠ "" := by
  unfold namesOf at member
  split at member
  · obtain ⟨piece, inPieces, rfl⟩ := List.mem_map.mp member
    have nonempty : piece ≠ [] := by simpa using (List.mem_filter.mp inPieces).2
    exact mt String.ofList_eq_empty_iff.mp nonempty
  · contradiction

theorem ne_empty_of_mem_relationColumns {attributes name : String}
    (member : name ∈ (relationColumns attributes).1 ∨ name ∈ (relationColumns attributes).2) :
    name ≠ "" := by
  unfold relationColumns at member
  split at member
  · exact member.elim ne_empty_of_mem_namesOf ne_empty_of_mem_namesOf
  · exact member.elim (absurd · List.not_mem_nil) (absurd · List.not_mem_nil)

/-- The column of a line has the name and the type that stand there. -/
theorem named_of_column? {line : List Char} {column : Column}
    (read : column? line = some column) : column.Named := by
  simp only [column?, Option.bind_eq_bind, Option.bind_eq_some_iff] at read
  obtain ⟨⟨name, type, modified, attributes⟩, parts, made⟩ := read
  simp only [fieldLine?, Option.bind_eq_bind, Option.bind_eq_some_iff] at parts
  obtain ⟨⟨readName, afterName⟩, nameRead, afterBlanks, -, ⟨readType, afterType⟩, typeRead,
    ended⟩ := parts
  have same : readName = name ∧ readType = type := by
    split at ended
    · simp only [Option.pure_def, Option.some.injEq, Prod.mk.injEq] at ended
      exact ⟨ended.1, ended.2.1⟩
    · obtain ⟨_, -, ended⟩ := Option.bind_eq_some_iff.mp ended
      simp only [Option.pure_def, Option.some.injEq, Prod.mk.injEq] at ended
      exact ⟨ended.1, ended.2.1⟩
  obtain ⟨rfl, rfl⟩ := same
  obtain rfl := Option.some.inj made
  constructor
  · simpa using isName_of_name? nameRead
  · simpa using isName_of_name? typeRead

theorem isName_of_header? {line name body : List Char} {kind : BlockKind}
    (read : header? line = some (kind, name, body)) : IsName name := by
  simp only [header?, Option.bind_eq_bind, Option.bind_eq_some_iff] at read
  obtain ⟨⟨_, _⟩, -, _, -, ⟨_, _⟩, nameRead, opened⟩ := read
  split at opened
  · simp only [Option.pure_def, Option.some.injEq, Prod.mk.injEq] at opened
    exact opened.2.1 ▸ isName_of_name? nameRead
  · contradiction

theorem isName_of_nextHeader? {lineStart : Bool} {text name body : List Char}
    {kind : BlockKind} (read : nextHeader? lineStart text = some (kind, name, body)) :
    IsName name := by
  induction text generalizing lineStart with
  | nil => contradiction
  | cons c rest ih =>
      simp only [nextHeader?] at read
      split at read
      · rename_i found
        split at found
        · exact isName_of_header? (found.trans read)
        · contradiction
      · exact ih read

/-- Every block that is read has a name. -/
theorem isName_of_mem_blocksFrom {lineStart : Bool} {text : List Char} {blocks : List Block}
    (read : blocksFrom lineStart text = .ok blocks) {block : Block} (member : block ∈ blocks) :
    IsName block.name := by
  fun_induction blocksFrom lineStart text generalizing blocks with
  | case1 =>
      obtain rfl := Except.ok.inj read
      contradiction
  | case2 => contradiction
  | case3 lineStart text kind name opened header body after closed later laterRead ih =>
      obtain rfl := Except.ok.inj read
      rcases List.mem_cons.mp member with rfl | inLater
      · exact isName_of_nextHeader? header
      · exact ih laterRead inLater
  | case4 => contradiction

theorem named_table {block : Block} (name : IsName block.name) : block.table.Named := by
  constructor
  · simpa [Block.table] using name
  · intro column member
    obtain ⟨line, -, read⟩ := List.mem_filterMap.mp member
    exact named_of_column? read

theorem named_enumeration {block : Block} (name : IsName block.name) :
    block.enumeration.Named := by
  constructor
  · simpa [Block.enumeration] using name
  · intro value member
    obtain ⟨line, declares, rfl⟩ := List.mem_map.mp member
    exact mt String.ofList_eq_empty_iff.mp (firstWord_ne_nil (List.mem_filter.mp declares).1)

end Dsl

/-- Everything that a text of the schema DSL declares has a name. -/
theorem Document.named_of_ofDsl {text : String} {document : Document}
    (read : Document.ofDsl text = .ok document) : document.Named := by
  unfold Document.ofDsl at read
  cases blocksRead : Dsl.blocksFrom true text.toList with
  | error cause =>
      rw [blocksRead] at read
      contradiction
  | ok blocks =>
      rw [blocksRead] at read
      obtain rfl := Except.ok.inj read
      constructor
      · intro table member
        obtain ⟨block, inBlocks, rfl⟩ := List.mem_map.mp member
        exact Dsl.named_table
          (Dsl.isName_of_mem_blocksFrom blocksRead (List.mem_filter.mp inBlocks).1)
      · intro enumeration member
        obtain ⟨block, inBlocks, rfl⟩ := List.mem_map.mp member
        exact Dsl.named_enumeration
          (Dsl.isName_of_mem_blocksFrom blocksRead (List.mem_filter.mp inBlocks).1)

end Crowsfoot
