import Crowsfoot.Dsl.Reader
import Crowsfoot.Proofs.Dsl.BlockHeaders
import Crowsfoot.Proofs.Dsl.WrittenLines

/-!
# Blocks of written documents

The blocks that are read from a written document are the blocks that were
written: one for each enum and one for each table, in order, each with its
name and with exactly its own lines between its braces.  This holds of every
document, whatever stands in its names, defaults and values.
-/

namespace Crowsfoot

open Crowsfoot.Text

namespace Dsl

/-- What a block is written from. -/
structure BlockSource where
  kind : BlockKind
  name : String
  lines : List String

namespace BlockSource

/-- The text of a block. -/
def text (source : BlockSource) : String :=
  blockText source.kind.keyword source.name source.lines

/-- The text between the braces: each line begins with a line feed, and one
line feed stands before the closing brace. -/
def body (source : BlockSource) : List Char :=
  (source.lines.flatMap fun line => '\n' :: line.toList) ++ ['\n']

/-- The block that is read back. -/
def block (source : BlockSource) : Block where
  kind := source.kind
  name := withoutFinalLineFeed source.name.toList
  body := source.body

/-- A source whose name is a name, up to a final line feed, and whose lines
hold no brace that counts. -/
structure Sound (source : BlockSource) : Prop where
  isName : IsName (withoutFinalLineFeed source.name.toList)
  moves : ∀ line ∈ source.lines, Moves .plain line.toList .plain

end BlockSource

/-- The source of the block of an enum. -/
def enumSource (format : String) (enumeration : Enumeration) : BlockSource where
  kind := .enumeration
  name := blockName format enumeration.name
  lines := enumeration.values.map valueLine

/-- The source of the block of a table. -/
def modelSource (document : Document) (table : Table) : BlockSource where
  kind := .model
  name := blockName document.format table.name
  lines := modelLines document table

/-- The sources of the blocks of a document: enums first, then tables. -/
def blockSources (document : Document) : List BlockSource :=
  document.enums.map (enumSource document.format) ++ document.tables.map (modelSource document)

/-- Every block of a document has a sound source. -/
theorem sound_of_mem_blockSources {document : Document} {source : BlockSource}
    (member : source ∈ blockSources document) : source.Sound := by
  rcases List.mem_append.mp member with enum | model
  · obtain ⟨enumeration, -, rfl⟩ := List.mem_map.mp enum
    constructor
    · rw [enumSource, blockName, toList_identifier]
      exact isName_identifierChars _
    · exact fun line lineMember => Moves.enumLine lineMember
  · obtain ⟨table, -, rfl⟩ := List.mem_map.mp model
    constructor
    · rw [modelSource, blockName, toList_identifier]
      exact isName_identifierChars _
    · exact fun line lineMember => Moves.modelLine lineMember

theorem BlockSource.toList_text (source : BlockSource) :
    source.text.toList =
      source.kind.keyword.toList ++
        ' ' :: (source.name.toList ++ ([' '] ++ '\x7b' :: (source.body ++ ['\x7d']))) := by
  rw [BlockSource.text, blockText, toList_joined_cons]
  simp [BlockSource.body]

/-- The text of a document is its comment line and its blocks, each after an
empty line. -/
theorem toList_toDsl (document : Document) (header origin : String) :
    (document.toDsl header origin).toList =
      (originComment header (if origin == "" then document.format else origin)).toList ++
        ((blockSources document).flatMap (fun source => '\n' :: '\n' :: source.text.toList) ++
          ['\n']) := by
  have texts : document.enums.map (enumText document) ++ document.tables.map (modelText document) =
      (blockSources document).map BlockSource.text := by
    simp only [blockSources, List.map_append, List.map_map]
    rfl
  rw [Document.toDsl, texts, String.toList_append, toList_joined_cons, List.flatMap_map]
  simp

theorem blocksFrom_of_none {lineStart : Bool} {text : List Char}
    (absent : nextHeader? lineStart text = none) : blocksFrom lineStart text = .ok [] := by
  rw [blocksFrom]
  split
  · rfl
  · rename_i found
    rw [absent] at found
    contradiction

/-- A closed block is read, and reading goes on behind it. -/
theorem blocksFrom_of_some {lineStart : Bool} {text name opened body after : List Char}
    {kind : BlockKind} (header : nextHeader? lineStart text = some (kind, name, opened))
    (closed : splitBody .plain 0 opened = some (body, after)) :
    blocksFrom lineStart text = (blocksFrom false after).map (⟨kind, name, body⟩ :: ·) := by
  rw [blocksFrom]
  split
  · rename_i absent
    rw [header] at absent
    contradiction
  · rename_i found
    rw [header] at found
    obtain ⟨rfl, rfl, rfl⟩ : _ ∧ _ ∧ _ := by simpa using found
    split
    · rename_i unclosed
      rw [closed] at unclosed
      contradiction
    · rename_i cut
      rw [closed] at cut
      obtain ⟨rfl, rfl⟩ : _ ∧ _ := by simpa using cut
      cases blocksFrom false after <;> rfl

/-- Reading stops at a block that is not closed. -/
theorem blocksFrom_of_open {lineStart : Bool} {text name opened : List Char} {kind : BlockKind}
    (header : nextHeader? lineStart text = some (kind, name, opened))
    (unclosed : splitBody .plain 0 opened = none) :
    blocksFrom lineStart text = .error (.openBlock (String.ofList name)) := by
  rw [blocksFrom]
  split
  · rename_i absent
    rw [header] at absent
    contradiction
  · rename_i found
    rw [header] at found
    obtain ⟨-, rfl, rfl⟩ : _ ∧ _ ∧ _ := by simpa using found
    split
    · rfl
    · rename_i closed
      rw [unclosed] at closed
      contradiction

/-- What is read depends on the next header and what follows it. -/
theorem blocksFrom_congr {lineStart otherStart : Bool} {text other : List Char}
    (same : nextHeader? lineStart text = nextHeader? otherStart other) :
    blocksFrom lineStart text = blocksFrom otherStart other := by
  rw [blocksFrom, blocksFrom, same]

/-- The scan for blocks comes to a header whose body is not closed. -/
inductive Unclosed : Bool → List Char → Prop
  | here {lineStart : Bool} {text name opened : List Char} {kind : BlockKind}
      (header : nextHeader? lineStart text = some (kind, name, opened))
      (unclosed : splitBody .plain 0 opened = none) : Unclosed lineStart text
  | later {lineStart : Bool} {text name opened body after : List Char} {kind : BlockKind}
      (header : nextHeader? lineStart text = some (kind, name, opened))
      (closed : splitBody .plain 0 opened = some (body, after))
      (further : Unclosed false after) : Unclosed lineStart text

theorem blocksFrom_of_unclosed {lineStart : Bool} {text : List Char}
    (isOpen : Unclosed lineStart text) :
    ∃ name, blocksFrom lineStart text = .error (.openBlock name) := by
  induction isOpen with
  | here header unclosed => exact ⟨_, blocksFrom_of_open header unclosed⟩
  | later header closed further ih =>
      obtain ⟨name, failed⟩ := ih
      exact ⟨name, by rw [blocksFrom_of_some header closed, failed]; rfl⟩

/-- Reading blocks fails at bodies that are not closed only. -/
theorem unclosed_of_error {lineStart : Bool} {text : List Char} {cause : SourceError}
    (failed : blocksFrom lineStart text = .error cause) : Unclosed lineStart text := by
  fun_induction blocksFrom lineStart text with
  | case1 => contradiction
  | case2 lineStart text kind name opened header unclosed => exact .here header unclosed
  | case3 => contradiction
  | case4 lineStart text kind name opened header body after closed inner read ih =>
      exact .later header closed (ih (Except.error.inj failed ▸ read))

/-! ## Written headers -/

/-- The header of a written block is found on the line after a line feed. -/
theorem BlockSource.Sound.nextHeader? {source : BlockSource} (sound : source.Sound)
    (rest : List Char) :
    Dsl.nextHeader? false ('\n' :: (source.text.toList ++ rest)) =
      some (source.kind, withoutFinalLineFeed source.name.toList,
        source.body ++ '\x7d' :: rest) := by
  have read (gap : List Char) (nonempty : gap ≠ []) (blank : ∀ c ∈ gap, isBlank c = true) :
      header? (source.kind.keyword.toList ++ ' ' :: (withoutFinalLineFeed source.name.toList ++
        (gap ++ '\x7b' :: (source.body ++ '\x7d' :: rest)))) =
      some (source.kind, withoutFinalLineFeed source.name.toList,
        source.body ++ '\x7d' :: rest) :=
    header?_block source.kind sound.isName nonempty blank _
  have atHeader : header? (source.text.toList ++ rest) =
      some (source.kind, withoutFinalLineFeed source.name.toList,
        source.body ++ '\x7d' :: rest) := by
    rw [source.toList_text]
    rcases withoutFinalLineFeed_cases source.name.toList with same | ended
    · have found := read [' '] (by simp) (by decide)
      rw [← same] at found ⊢
      simpa using found
    · have found := read ['\n', ' '] (by simp) (by decide)
      rw [ended, withoutFinalLineFeed_append]
      simpa using found
  obtain ⟨c, later, begun⟩ : ∃ c later, source.text.toList ++ rest = c :: later := by
    rw [source.toList_text]
    cases source.kind <;> exact ⟨_, _, rfl⟩
  rw [nextHeader?_cons_of_none (by simp), begun]
  rw [begun] at atHeader
  simp [Dsl.nextHeader?, atHeader]

/-- Sound sources are read back in order. -/
theorem blocksFrom_sources {sources : List BlockSource}
    (sound : ∀ source ∈ sources, source.Sound) :
    blocksFrom false
        (sources.flatMap (fun source => '\n' :: '\n' :: source.text.toList) ++ ['\n']) =
      .ok (sources.map BlockSource.block) := by
  induction sources with
  | nil => exact blocksFrom_of_none rfl
  | cons source later ih =>
      have sourceSound := sound source List.mem_cons_self
      have moves : Moves .plain source.body .plain := by
        apply Moves.append _ (Moves.quiet (by decide))
        apply Moves.flatMap
        intro line member
        have lineFeed : Moves .plain ['\n'] .plain := Moves.quiet (by decide)
        exact lineFeed.append (sourceSound.moves line member)
      have closed := splitBody_of_moves rfl moves
        (later.flatMap (fun source => '\n' :: '\n' :: source.text.toList) ++ ['\n'])
      have header : nextHeader? false ('\n' :: '\n' :: (source.text.toList ++
          (later.flatMap (fun source => '\n' :: '\n' :: source.text.toList) ++ ['\n']))) =
          some (source.kind, withoutFinalLineFeed source.name.toList, source.body ++ '\x7d' ::
            (later.flatMap (fun source => '\n' :: '\n' :: source.text.toList) ++ ['\n'])) := by
        rw [nextHeader?_cons_of_none (by simp)]
        exact sourceSound.nextHeader? _
      have laterRead := ih fun other member => sound other (List.mem_cons_of_mem _ member)
      rw [List.flatMap_cons, List.append_assoc, List.cons_append, List.cons_append,
        blocksFrom_of_some header closed, laterRead]
      rfl

/-- So are sound sources whose text has nothing before it. -/
theorem blocksFrom_joined {sources : List BlockSource}
    (sound : ∀ source ∈ sources, source.Sound) :
    blocksFrom true (joined "\n\n" (sources.map BlockSource.text) ++ "\n").toList =
      .ok (sources.map BlockSource.block) := by
  rw [← blocksFrom_sources sound]
  apply blocksFrom_congr
  cases sources with
  | nil => rfl
  | cons source later =>
      have lineFeeds (rest : List Char) :
          nextHeader? false ('\n' :: '\n' :: rest) = nextHeader? true rest := by
        rw [nextHeader?_cons_of_none (by simp), nextHeader?_cons_of_none fun _ => rfl]
        rfl
      rw [List.flatMap_cons, List.cons_append, List.cons_append, List.cons_append,
        List.cons_append, lineFeeds, String.toList_append, List.map_cons, toList_joined_cons,
        List.flatMap_map]
      rfl

/-- The blocks of a written text are the blocks of its document, if no block
begins in its comment. -/
theorem blocksFrom_toDsl_of_passedOver (document : Document) {header origin : String}
    (passed : PassedOver
      (originComment header (if origin == "" then document.format else origin)).toList) :
    blocksFrom true (document.toDsl header origin).toList =
      .ok ((blockSources document).map BlockSource.block) := by
  rw [toList_toDsl, ← blocksFrom_sources fun source => sound_of_mem_blockSources]
  apply blocksFrom_congr
  cases blockSources document with
  | nil => exact passed _
  | cons source later => exact passed _

/-- The blocks of a written text are the blocks of its document. -/
theorem blocksFrom_toDsl (document : Document) {header : String}
    (oneLine : '\n' ∉ header.toList) (origin : String) :
    blocksFrom true (document.toDsl header origin).toList =
      .ok ((blockSources document).map BlockSource.block) :=
  blocksFrom_toDsl_of_passedOver document (passedOver_originComment oneLine _)

/-- A name as it is read: one line feed at its end is left out. -/
def readName (name : String) : String :=
  String.ofList (withoutFinalLineFeed name.toList)

theorem table_name (source : BlockSource) : source.block.table.name = readName source.name :=
  rfl

theorem enumeration_name (source : BlockSource) :
    source.block.enumeration.name = readName source.name :=
  rfl

/-- The document of the blocks of enums and tables. -/
theorem documentOf_sources {α β : Type} {enumOf : α → BlockSource} {modelOf : β → BlockSource}
    (isEnum : ∀ enumeration, (enumOf enumeration).kind = .enumeration)
    (isModel : ∀ model, (modelOf model).kind = .model) (enums : List α) (models : List β) :
    documentOf ((enums.map enumOf ++ models.map modelOf).map BlockSource.block) =
      { format := SourceFormat.dsl.name
        tables := models.map fun model => (modelOf model).block.table
        enums := enums.map fun enumeration => (enumOf enumeration).block.enumeration } := by
  have tables : ((enums.map enumOf ++ models.map modelOf).map BlockSource.block).filter
      (·.kind == .model) = models.map fun model => (modelOf model).block := by
    rw [List.map_append, List.filter_append, List.map_map, List.map_map,
      List.filter_eq_nil_iff.mpr (by simp [BlockSource.block, isEnum]),
      List.filter_eq_self.mpr (by simp [BlockSource.block, isModel])]
    rfl
  have enumerations : ((enums.map enumOf ++ models.map modelOf).map BlockSource.block).filter
      (·.kind == .enumeration) = enums.map fun enumeration => (enumOf enumeration).block := by
    rw [List.map_append, List.filter_append, List.map_map, List.map_map,
      List.filter_eq_self.mpr (by simp [BlockSource.block, isEnum]),
      List.filter_eq_nil_iff.mpr (by simp [BlockSource.block, isModel]), List.append_nil]
    rfl
  rw [documentOf, tables, enumerations, List.map_map, List.map_map]
  rfl

end Dsl

open Dsl

/-- Reading a written document succeeds, and gives its enums and its tables in
order, if no block begins in its comment. -/
theorem Document.ofDsl_toDsl_of_passedOver (document : Document) {header origin : String}
    (passed : PassedOver
      (originComment header (if origin == "" then document.format else origin)).toList) :
    Document.ofDsl (document.toDsl header origin) =
      .ok
        { format := SourceFormat.dsl.name
          tables := document.tables.map fun table => (modelSource document table).block.table
          enums := document.enums.map fun enumeration =>
            (enumSource document.format enumeration).block.enumeration } := by
  rw [Document.ofDsl, blocksFrom_toDsl_of_passedOver document passed, Except.map, blockSources,
    documentOf_sources (fun _ => rfl) fun _ => rfl]

theorem Document.ofDsl_toDsl (document : Document) {header : String}
    (oneLine : '\n' ∉ header.toList) (origin : String) :
    Document.ofDsl (document.toDsl header origin) =
      .ok
        { format := SourceFormat.dsl.name
          tables := document.tables.map fun table => (modelSource document table).block.table
          enums := document.enums.map fun enumeration =>
            (enumSource document.format enumeration).block.enumeration } :=
  document.ofDsl_toDsl_of_passedOver (passedOver_originComment oneLine _)

/-- Whatever stands in a document, its written text is read as exactly its
blocks: one enum for each enum and one table for each table, in order and under
their names, each with its own lines as its body. -/
theorem Document.blocks_toDsl (document : Document) (header origin : String)
    (oneLine : '\n' ∉ header.toList) :
    blocksFrom true (document.toDsl header origin).toList =
        .ok ((blockSources document).map BlockSource.block) ∧
      ∃ read, Document.ofDsl (document.toDsl header origin) = .ok read ∧
        read.enums.map Enumeration.name =
          document.enums.map (fun enumeration =>
            readName (blockName document.format enumeration.name)) ∧
        read.tables.map Table.name =
          document.tables.map (fun table => readName (blockName document.format table.name)) := by
  refine ⟨blocksFrom_toDsl document oneLine origin, _, document.ofDsl_toDsl oneLine origin, ?_, ?_⟩
  · simp only [List.map_map, Function.comp_def, enumeration_name, enumSource]
  · simp only [List.map_map, Function.comp_def, table_name, modelSource]

/-- A document whose names, defaults and values look like blocks. -/
def blockLikeDocument : Document where
  format := "sql"
  tables :=
    [{ name := "order_items\n"
       columns :=
         [{ name := "model X \x7b", typeToken := "text", defaultText := some "'\x7d // \"'" }] },
     { name := "enum" }]
  enums := [{ name := "kind", values := ["\x7d\nenum Y \x7b", "\""] }]

/-- Blocks in names, defaults, values and the origin are not read as blocks. -/
theorem blocks_blockLikeDocument :
    '\n' ∉ "Schema".toList ∧
      ∃ read, Document.ofDsl (blockLikeDocument.toDsl "Schema" "a\nmodel Z \x7b\x7d") = .ok read ∧
        read.enums.map Enumeration.name = ["Kind"] ∧
        read.tables.map Table.name = ["OrderItems", "Enum"] := by
  have oneLine : '\n' ∉ "Schema".toList := by decide
  obtain ⟨-, read, succeeds, enums, tables⟩ :=
    blockLikeDocument.blocks_toDsl "Schema" "a\nmodel Z \x7b\x7d" oneLine
  have enumNames : read.enums.map Enumeration.name = ["Kind"] := enums.trans (by decide +kernel)
  have tableNames : read.tables.map Table.name = ["OrderItems", "Enum"] :=
    tables.trans (by decide +kernel)
  exact ⟨oneLine, read, succeeds, enumNames, tableNames⟩

end Crowsfoot
