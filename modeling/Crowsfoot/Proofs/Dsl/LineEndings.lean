import Crowsfoot.Conversion
import Crowsfoot.Proofs.Dsl.HeaderComments

/-!
# Line endings

A text may end its lines with a line feed, or with a carriage return and a line
feed.  Both are read alike: the same blocks are found, the block scan is in the
same mode behind both line endings, whichever mode it comes in, and the line
between two boundaries is blank.
-/

namespace Crowsfoot

namespace Text

/-- The characters of a text with a carriage return before every line feed. -/
def crlfChars (text : List Char) : List Char :=
  text.flatMap fun c => if c == '\n' then ['\r', '\n'] else [c]

/-- A text with a carriage return before every line feed. -/
def crlf (text : String) : String :=
  String.ofList (crlfChars text.toList)

@[simp]
theorem crlfChars_nil : crlfChars [] = [] :=
  rfl

@[simp]
theorem crlfChars_lineFeed (rest : List Char) :
    crlfChars ('\n' :: rest) = '\r' :: '\n' :: crlfChars rest :=
  rfl

theorem crlfChars_cons {c : Char} (other : c ≠ '\n') (rest : List Char) :
    crlfChars (c :: rest) = c :: crlfChars rest := by
  simp [crlfChars, other]

/-- Dropping that does not tell the two characters apart keeps line endings
whole. -/
theorem dropWhile_crlfChars {drops : Char → Bool} (alike : drops '\r' = drops '\n')
    (text : List Char) :
    (crlfChars text).dropWhile drops = crlfChars (text.dropWhile drops) := by
  induction text with
  | nil => rfl
  | cons c rest ih =>
      by_cases lineFeed : c = '\n'
      · subst lineFeed
        cases dropped : drops '\n' with
        | true => simp [alike, dropped, ih]
        | false => simp [alike, dropped]
      · rw [crlfChars_cons lineFeed, List.dropWhile_cons, List.dropWhile_cons, ih]
        split
        · rfl
        · exact (crlfChars_cons lineFeed rest).symm

theorem skipBlanks_crlfChars (text : List Char) :
    skipBlanks (crlfChars text) = crlfChars (skipBlanks text) :=
  dropWhile_crlfChars rfl text

/-- A run that a line ending stops is the same run. -/
theorem takeWhile_crlfChars {takes : Char → Bool} (noReturn : takes '\r' = false)
    (noLineFeed : takes '\n' = false) (text : List Char) :
    (crlfChars text).takeWhile takes = text.takeWhile takes := by
  induction text with
  | nil => rfl
  | cons c rest ih =>
      by_cases lineFeed : c = '\n'
      · subst lineFeed
        simp [noReturn, noLineFeed]
      · rw [crlfChars_cons lineFeed, List.takeWhile_cons, List.takeWhile_cons, ih]

theorem name?_crlfChars (text : List Char) :
    name? (crlfChars text) = (name? text).map fun (name, rest) => (name, crlfChars rest) := by
  rw [name?, name?, run?, run?, takeWhile_crlfChars rfl rfl, dropWhile_crlfChars rfl]
  cases text.takeWhile isWord <;> rfl

theorem blanks?_crlfChars (text : List Char) :
    blanks? (crlfChars text) = (blanks? text).map crlfChars := by
  cases text with
  | nil => rfl
  | cons c rest =>
      by_cases lineFeed : c = '\n'
      · -- The line feed is one of the blanks that follow the carriage return.
        subst lineFeed
        exact congrArg some (skipBlanks_crlfChars ('\n' :: rest))
      · rw [crlfChars_cons lineFeed, blanks?, blanks?, skipBlanks_crlfChars]
        split <;> rfl

theorem literal?_crlfChars {expected : List Char} (oneLine : '\n' ∉ expected)
    (noReturn : '\r' ∉ expected) (text : List Char) :
    literal? expected (crlfChars text) = (literal? expected text).map crlfChars := by
  induction expected generalizing text with
  | nil => rfl
  | cons first more ih =>
      rw [List.mem_cons, not_or] at oneLine noReturn
      cases text with
      | nil => rfl
      | cons c rest =>
          by_cases lineFeed : c = '\n'
          · subst lineFeed
            rw [crlfChars_lineFeed, literal?_cons_of_ne noReturn.1, literal?_cons_of_ne oneLine.1]
            rfl
          · rw [crlfChars_cons lineFeed, literal?, literal?, ih oneLine.2 noReturn.2]
            split <;> rfl

/-- The lines that are not blank are the same. -/
theorem strippedLines_crlfChars (text : List Char) :
    strippedLines (crlfChars text) = strippedLines text := by
  -- The text in front of the carriage returns is the line that has begun.
  suffices behind : ∀ front, strippedLines (front ++ crlfChars text) =
      strippedLines (front ++ text) from behind []
  induction text with
  | nil => exact fun front => rfl
  | cons c rest ih =>
      intro front
      by_cases lineFeed : c = '\n'
      · subst lineFeed
        have restLines : strippedLines (crlfChars rest) = strippedLines rest := ih []
        have between : strippedLines ('\n' :: crlfChars rest) = strippedLines (crlfChars rest) :=
          strippedPieces_append_cons (by decide) [] _
        calc strippedLines (front ++ '\r' :: '\n' :: crlfChars rest)
          _ = strippedLines front ++ strippedLines ('\n' :: crlfChars rest) :=
              strippedPieces_append_cons (by decide) _ _
          _ = strippedLines front ++ strippedLines rest := by rw [between, restLines]
          _ = strippedLines (front ++ '\n' :: rest) :=
              (strippedPieces_append_cons (by decide) _ _).symm
      · have further := ih (front ++ [c])
        rw [List.append_assoc, List.append_assoc] at further
        rw [crlfChars_cons lineFeed]
        exact further

end Text

namespace Dsl

open Crowsfoot.Text

/-! ## Headers -/

theorem kind?_crlfChars (text : List Char) :
    kind? (crlfChars text) = (kind? text).map fun (kind, rest) => (kind, crlfChars rest) := by
  have model : literal? "model".toList (crlfChars text) =
      (literal? "model".toList text).map crlfChars :=
    literal?_crlfChars (by decide) (by decide) text
  have enum : literal? "enum".toList (crlfChars text) =
      (literal? "enum".toList text).map crlfChars :=
    literal?_crlfChars (by decide) (by decide) text
  rw [kind?, kind?, model, enum]
  cases literal? "model".toList text <;> cases literal? "enum".toList text <;> rfl

theorem brace?_crlfChars (text : List Char) :
    brace? (crlfChars text) = (brace? text).map crlfChars := by
  rw [brace?, brace?, skipBlanks_crlfChars]
  cases skipBlanks text with
  | nil => rfl
  | cons c rest =>
      by_cases lineFeed : c = '\n'
      · subst lineFeed
        rfl
      · rw [crlfChars_cons lineFeed]
        by_cases opens : c = '\x7b'
        · subst opens
          rfl
        · simp [opens]

theorem namedBrace?_crlfChars (text : List Char) :
    namedBrace? (crlfChars text) =
      (namedBrace? text).map fun (name, body) => (name, crlfChars body) := by
  rw [namedBrace?, namedBrace?, name?_crlfChars]
  cases name? text with
  | none => rfl
  | some read => simp [brace?_crlfChars, Function.comp_def]

/-- A header may stretch over several lines, however they end. -/
theorem header?_crlfChars (line : List Char) :
    header? (crlfChars line) =
      (header? line).map fun (kind, name, body) => (kind, name, crlfChars body) := by
  rw [header?_eq_namedBrace?, header?_eq_namedBrace?, dropWhile_crlfChars rfl, kind?_crlfChars]
  cases kind? (line.dropWhile fun c => c == ' ' || c == '\t') with
  | none => rfl
  | some read =>
      obtain ⟨kind, after⟩ := read
      rw [Option.map_some, Option.bind_some, Option.bind_some, blanks?_crlfChars]
      cases blanks? after with
      | none => rfl
      | some text => simp [namedBrace?_crlfChars, Function.comp_def]

/-- The same header is found next. -/
theorem nextHeader?_crlfChars (lineStart : Bool) (text : List Char) :
    nextHeader? lineStart (crlfChars text) =
      (nextHeader? lineStart text).map fun (kind, name, body) => (kind, name, crlfChars body) := by
  induction text generalizing lineStart with
  | nil => rfl
  | cons c rest ih =>
      by_cases lineFeed : c = '\n'
      · subst lineFeed
        have noHeader (text : List Char) : header? ('\n' :: text) = none :=
          header?_cons_of_ne rfl (by decide) (by decide)
        have noHeaderBefore (text : List Char) : header? ('\r' :: text) = none :=
          header?_cons_of_ne rfl (by decide) (by decide)
        rw [crlfChars_lineFeed, nextHeader?_cons_of_none fun _ => noHeaderBefore _,
          nextHeader?_cons_of_none fun _ => noHeader _,
          nextHeader?_cons_of_none fun _ => noHeader _]
        exact ih true
      · have here := header?_crlfChars (c :: rest)
        rw [crlfChars_cons lineFeed] at here ⊢
        rw [nextHeader?, nextHeader?, here, ih]
        cases lineStart with
        | false => rfl
        | true => cases header? (c :: rest) <;> rfl

/-- Behind both line endings the scan is in the same mode.  A backslash in a
string takes the carriage return only, and the line feed stays in the string
like the one that the backslash takes itself. -/
theorem Mode.next_carriageReturn_lineFeed (mode : Mode) :
    (mode.next '\r').next '\n' = mode.next '\n' := by
  cases mode <;> rfl

theorem Moves.lineFeed (mode : Mode) : Moves mode ['\n'] (mode.next '\n') :=
  Moves.char (.inr (by decide))

theorem Moves.carriageReturn_lineFeed (mode : Mode) :
    Moves mode ['\r', '\n'] (mode.next '\n') := by
  have before : Moves mode ['\r'] (mode.next '\r') := Moves.char (.inr (by decide))
  rw [← mode.next_carriageReturn_lineFeed]
  exact before.append (Moves.lineFeed _)

/-- The same brace closes a body. -/
theorem splitBody_crlfChars (mode : Mode) (depth : Nat) (text : List Char) :
    splitBody mode depth (crlfChars text) =
      (splitBody mode depth text).map fun (body, after) => (crlfChars body, crlfChars after) := by
  induction text generalizing mode depth with
  | nil => rfl
  | cons c rest ih =>
      by_cases lineFeed : c = '\n'
      · subst lineFeed
        calc splitBody mode depth ('\r' :: '\n' :: crlfChars rest)
          _ = (splitBody (mode.next '\n') depth (crlfChars rest)).map
                fun (body, after) => (['\r', '\n'] ++ body, after) :=
              Moves.carriageReturn_lineFeed mode depth _
          _ = ((splitBody (mode.next '\n') depth rest).map
                fun (body, after) => (['\n'] ++ body, after)).map
                  fun (body, after) => (crlfChars body, crlfChars after) := by
              rw [ih, Option.map_map, Option.map_map]
              rfl
          _ = _ := by rw [← Moves.lineFeed mode depth rest]; rfl
      · rw [crlfChars_cons lineFeed]
        rcases splitBody_cons_cases mode depth c with ⟨-, -, ends⟩ | ⟨next, goesOn⟩
        · rw [ends, ends]
          rfl
        · rw [goesOn, goesOn, ih, Option.map_map, Option.map_map]
          simp [Function.comp_def, crlfChars_cons lineFeed]

/-- A block of a text with carriage returns. -/
def Block.crlf (block : Block) : Block :=
  { block with body := crlfChars block.body }

/-- The same blocks are read, and reading fails at the same block. -/
theorem blocksFrom_crlfChars (lineStart : Bool) (text : List Char) :
    blocksFrom lineStart (crlfChars text) =
      (blocksFrom lineStart text).map (List.map Block.crlf) := by
  have found := nextHeader?_crlfChars lineStart text
  fun_induction blocksFrom lineStart text with
  | case1 lineStart text absent =>
      rw [absent] at found
      exact blocksFrom_of_none found
  | case2 lineStart text kind name opened header unclosed =>
      have stillOpen := splitBody_crlfChars .plain 0 opened
      rw [header] at found
      rw [unclosed] at stillOpen
      exact blocksFrom_of_open found stillOpen
  | case3 lineStart text kind name opened header body after closed later read ih =>
      have stillClosed := splitBody_crlfChars .plain 0 opened
      rw [header] at found
      rw [closed] at stillClosed
      rw [blocksFrom_of_some found stillClosed, ih (nextHeader?_crlfChars false after), read]
      rfl
  | case4 lineStart text kind name opened header body after closed cause read ih =>
      have stillClosed := splitBody_crlfChars .plain 0 opened
      rw [header] at found
      rw [closed] at stillClosed
      rw [blocksFrom_of_some found stillClosed, ih (nextHeader?_crlfChars false after), read]
      rfl

/-- What a block declares does not depend on how its lines end. -/
theorem declarations_crlfChars (body : List Char) :
    declarations (crlfChars body) = declarations body := by
  rw [declarations, declarations, strippedLines_crlfChars]

theorem Block.table_crlf (block : Block) : block.crlf.table = block.table := by
  simp only [Block.table, Block.crlf, declarations_crlfChars]

theorem Block.enumeration_crlf (block : Block) : block.crlf.enumeration = block.enumeration := by
  simp only [Block.enumeration, Block.crlf, declarations_crlfChars]

theorem documentOf_crlf (blocks : List Block) :
    documentOf (blocks.map Block.crlf) = documentOf blocks := by
  have kinds (kind : BlockKind) : (blocks.map Block.crlf).filter (·.kind == kind) =
      (blocks.filter (·.kind == kind)).map Block.crlf := by
    rw [List.filter_map]
    rfl
  simp only [documentOf, kinds, List.map_map, Function.comp_def, Block.table_crlf,
    Block.enumeration_crlf]

end Dsl

/-- Reading a text does not depend on how its lines end: the same document is
read, or the same error is raised, and the schema is the same. -/
theorem Document.ofDsl_crlf (text : String) :
    Document.ofDsl (Text.crlf text) = Document.ofDsl text ∧
      ∀ settings, schemaOf settings (Text.crlf text) = schemaOf settings text := by
  have same : Document.ofDsl (Text.crlf text) = Document.ofDsl text := by
    rw [Document.ofDsl, Document.ofDsl, Text.crlf, String.toList_ofList,
      Dsl.blocksFrom_crlfChars]
    cases Dsl.blocksFrom true text.toList with
    | error cause => rfl
    | ok blocks => exact congrArg Except.ok (Dsl.documentOf_crlf blocks)
  exact ⟨same, fun settings => by rw [schemaOf, schemaOf, same]⟩

end Crowsfoot
