import Crowsfoot.Proofs.Dsl.Blocks

/-!
# The grammar of blocks

A text of the schema DSL as it is put together: blocks, and lines of other
text between them.  A body holds string literals, line comments, groups between
braces, and other characters.  The scan follows this grammar, so that exactly
the blocks of a text are found; a text that ends inside a body has an open
block; and there is nothing else that can keep a text from being read.
-/

namespace Crowsfoot

open Crowsfoot.Text

namespace Dsl

/-- A sign of a string literal: a character that stands for itself, or a
backslash with any character behind it. -/
inductive StringSign
  | plain (c : Char)
  | escaped (c : Char)

namespace StringSign

def chars : StringSign → List Char
  | plain c => [c]
  | escaped c => ['\\', c]

/-- Quotes and backslashes do not stand for themselves. -/
def isProper : StringSign → Bool
  | plain c => c != '\x22' && c != '\\'
  | escaped _ => true

end StringSign

/-- The syntax of a body: nothing, or a part with the rest of the body. -/
inductive BodySyntax
  | done
  | char (c : Char) (rest : BodySyntax)
  | string (signs : List StringSign) (rest : BodySyntax)
  | comment (text : List Char) (rest : BodySyntax)
  | group (inside rest : BodySyntax)

namespace BodySyntax

/-- The text of a body. -/
def chars : BodySyntax → List Char
  | done => []
  | char c rest => c :: rest.chars
  | string signs rest =>
      '\x22' :: (signs.flatMap StringSign.chars ++ '\x22' :: rest.chars)
  | comment text rest => '/' :: '/' :: (text ++ '\n' :: rest.chars)
  | group inside rest => '\x7b' :: (inside.chars ++ '\x7d' :: rest.chars)

/-- Whether a body keeps to the grammar.  Other characters are no quotes and no
braces, and no two of them in a row are slashes; `afterSlash` tells whether a
slash stands in front.  A comment is one line. -/
def isWellFormed (afterSlash : Bool) : BodySyntax → Bool
  | done => true
  | char c rest =>
      c != '\x22' && c != '\x7b' && c != '\x7d' && !(afterSlash && c == '/') &&
        rest.isWellFormed (c == '/')
  | string signs rest => signs.all StringSign.isProper && rest.isWellFormed false
  | comment text rest => !text.contains '\n' && rest.isWellFormed false
  | group inside rest => inside.isWellFormed false && rest.isWellFormed false

end BodySyntax

/-- The mode of the scan among other characters. -/
def Mode.afterOther (slash : Bool) : Mode :=
  if slash then .slash else .plain

theorem Mode.countsBraces_afterOther (slash : Bool) :
    (Mode.afterOther slash).countsBraces = true := by
  cases slash <;> rfl

/-- Where braces count, the scan is in plain text behind a brace. -/
theorem Mode.next_brace {mode : Mode} (counts : mode.countsBraces = true) {brace : Char}
    (isBrace : brace = '\x7b' ∨ brace = '\x7d') : mode.next brace = .plain := by
  rcases isBrace with rfl | rfl <;> cases mode <;> first | rfl | contradiction

/-- Behind another character the scan is in plain text, or behind a slash. -/
theorem Mode.next_other {slash : Bool} {c : Char} (notQuote : c ≠ '\x22')
    (noComment : ¬(slash = true ∧ c = '/')) :
    (Mode.afterOther slash).next c = Mode.afterOther (c == '/') := by
  cases slash with
  | false => by_cases c = '/' <;> simp_all [afterOther, next, ofPlain]
  | true => simp_all [afterOther, next, ofPlain]

theorem Mode.next_quote (slash : Bool) : (Mode.afterOther slash).next '\x22' = .string := by
  cases slash <;> rfl

/-- A group between braces brings the scan back to the depth in front of it. -/
theorem Moves.group {mode target : Mode} {inside : List Char}
    (counts : mode.countsBraces = true) (targetCounts : target.countsBraces = true)
    (moves : Moves .plain inside target) :
    Moves mode ('\x7b' :: (inside ++ ['\x7d'])) .plain := by
  intro depth rest
  have opened : splitBody mode depth ('\x7b' :: (inside ++ '\x7d' :: rest)) =
      (splitBody .plain (depth + 1) (inside ++ '\x7d' :: rest)).map
        fun parts => ('\x7b' :: parts.1, parts.2) := by
    simp [splitBody, Mode.next_brace counts, counts]
  have closed : splitBody target (depth + 1) ('\x7d' :: rest) =
      (splitBody .plain depth rest).map fun parts => ('\x7d' :: parts.1, parts.2) := by
    simp [splitBody, Mode.next_brace targetCounts, targetCounts]
  rw [List.cons_append, List.append_assoc, List.singleton_append, opened, moves, closed,
    Option.map_map, Option.map_map]
  simp [Function.comp_def]

theorem Moves.stringSign {sign : StringSign} (proper : sign.isProper = true) :
    Moves .string sign.chars .string := by
  cases sign with
  | plain c =>
      simp only [StringSign.isProper, Bool.and_eq_true, bne_iff_ne] at proper
      exact Moves.inString proper.2 proper.1
  | escaped c =>
      have backslash : Moves .string ['\\'] .escape := Moves.char (.inl rfl)
      exact backslash.append (Moves.char (.inl rfl))

/-- A string literal is passed over, whatever stands in it. -/
theorem Moves.stringLiteral {slash : Bool} {signs : List StringSign}
    (proper : ∀ sign ∈ signs, sign.isProper = true) :
    Moves (.afterOther slash) ('\x22' :: (signs.flatMap StringSign.chars ++ ['\x22']))
      .plain := by
  have opened : Moves (.afterOther slash) ['\x22'] .string := by
    rw [← Mode.next_quote slash]
    exact Moves.char (.inr (by decide))
  have content : Moves .string (signs.flatMap StringSign.chars) .string :=
    Moves.flatMap fun sign member => Moves.stringSign (proper sign member)
  have closed : Moves .string ['\x22'] .plain := Moves.char (.inl rfl)
  exact opened.append (content.append closed)

/-- A comment goes on to the end of its line. -/
theorem Moves.comment {text : List Char} (oneLine : '\n' ∉ text) :
    Moves .comment text .comment := by
  induction text with
  | nil => exact Moves.nil .comment
  | cons c rest ih =>
      have other : c ≠ '\n' := fun same => oneLine (same ▸ List.mem_cons_self)
      have stays : Mode.comment.next c = .comment := by simp [Mode.next, other]
      have step : Moves .comment [c] (Mode.comment.next c) := Moves.char (.inl rfl)
      rw [stays] at step
      exact step.append (ih fun member => oneLine (List.mem_cons_of_mem _ member))

/-- A comment is passed over up to the end of its line, whatever stands in
it. -/
theorem Moves.lineComment {slash : Bool} {text : List Char} (oneLine : '\n' ∉ text) :
    Moves (.afterOther slash) ('/' :: '/' :: (text ++ ['\n'])) .plain := by
  have opened : Moves (.afterOther slash) ['/', '/'] .comment := by
    have first : Moves (.afterOther slash) ['/'] ((Mode.afterOther slash).next '/') :=
      Moves.char (.inr (by decide))
    have second : ((Mode.afterOther slash).next '/').next '/' = .comment := by
      cases slash <;> rfl
    rw [← second]
    exact first.append (Moves.char (.inr (by decide)))
  have ended : Moves .comment ['\n'] .plain := Moves.char (.inl rfl)
  exact opened.append ((Moves.comment oneLine).append ended)

/-- Every body brings the scan to where braces count, at the depth in front of
it. -/
theorem BodySyntax.moves {body : BodySyntax} {slash : Bool}
    (wellFormed : body.isWellFormed slash = true) :
    ∃ target, target.countsBraces = true ∧ Moves (.afterOther slash) body.chars target := by
  induction body generalizing slash with
  | done => exact ⟨_, Mode.countsBraces_afterOther slash, Moves.nil _⟩
  | char c rest ih =>
      simp only [isWellFormed, Bool.and_eq_true, bne_iff_ne, ne_eq, Bool.not_eq_true',
        Bool.and_eq_false_iff] at wellFormed
      obtain ⟨⟨⟨⟨notQuote, notOpen⟩, notClose⟩, noComment⟩, restWellFormed⟩ := wellFormed
      have next : (Mode.afterOther slash).next c = .afterOther (c == '/') :=
        Mode.next_other notQuote (by rintro ⟨rfl, rfl⟩; simp at noComment)
      have step : Moves (.afterOther slash) [c] ((Mode.afterOther slash).next c) :=
        Moves.char (.inr ⟨notOpen, notClose⟩)
      obtain ⟨target, counts, moves⟩ := ih restWellFormed
      rw [next] at step
      exact ⟨target, counts, step.append moves⟩
  | string signs rest ih =>
      simp only [isWellFormed, Bool.and_eq_true, List.all_eq_true] at wellFormed
      obtain ⟨target, counts, moves⟩ := ih wellFormed.2
      have literal : Moves (.afterOther slash)
          ('\x22' :: (signs.flatMap StringSign.chars ++ ['\x22'])) .plain :=
        Moves.stringLiteral wellFormed.1
      exact ⟨target, counts, by simpa [chars] using literal.append moves⟩
  | comment text rest ih =>
      simp only [isWellFormed, Bool.and_eq_true, Bool.not_eq_true', List.contains_eq_mem,
        decide_eq_false_iff_not] at wellFormed
      obtain ⟨target, counts, moves⟩ := ih wellFormed.2
      have line : Moves (.afterOther slash) ('/' :: '/' :: (text ++ ['\n'])) .plain :=
        Moves.lineComment wellFormed.1
      exact ⟨target, counts, by simpa [chars] using line.append moves⟩
  | group inside rest insideIh restIh =>
      simp only [isWellFormed, Bool.and_eq_true] at wellFormed
      obtain ⟨middle, middleCounts, insideMoves⟩ := insideIh wellFormed.1
      obtain ⟨target, counts, moves⟩ := restIh wellFormed.2
      have whole := (Moves.group (Mode.countsBraces_afterOther slash) middleCounts
        insideMoves).append moves
      exact ⟨target, counts, by simpa [chars] using whole⟩

/-- Text behind a body that is closed does not matter to where it ends. -/
theorem splitBody_append {mode : Mode} {depth : Nat} {text body after : List Char}
    (closed : splitBody mode depth text = some (body, after)) (more : List Char) :
    splitBody mode depth (text ++ more) = some (body, after ++ more) := by
  induction text generalizing mode depth body with
  | nil => contradiction
  | cons c rest ih =>
      rcases splitBody_cons_cases mode depth c with ⟨-, -, ends⟩ | ⟨next, goesOn⟩
      · rw [ends] at closed
        obtain ⟨rfl, rfl⟩ := Prod.mk.inj (Option.some.inj closed)
        exact ends _
      · rw [goesOn] at closed
        obtain ⟨⟨inner, later⟩, found, same⟩ := Option.map_eq_some_iff.mp closed
        obtain ⟨rfl, rfl⟩ := Prod.mk.inj same
        rw [List.cons_append, goesOn, ih found, Option.map_some]

/-- A text that moves the scan to where braces count is closed nowhere. -/
theorem splitBody_of_isPrefix {body front : List Char} {target : Mode}
    (counts : target.countsBraces = true) (moves : Moves .plain body target)
    (begins : front <+: body) : splitBody .plain 0 front = none := by
  obtain ⟨back, rfl⟩ := begins
  cases closed : splitBody .plain 0 front with
  | none => rfl
  | some parts =>
      obtain ⟨inner, after⟩ := parts
      have shorter := length_of_splitBody closed
      have whole := splitBody_append closed (back ++ ['\x7d'])
      have end_ := splitBody_of_moves counts moves []
      rw [List.append_assoc, whole] at end_
      have rest := congrArg List.length (Prod.mk.inj (Option.some.inj end_)).2
      simp at rest

/-! ## Blocks and lines between them -/

/-- The syntax of a block. -/
structure BlockSyntax where
  kind : BlockKind
  name : List Char
  body : BodySyntax

namespace BlockSyntax

/-- The text up to and with the opening brace. -/
def opening (block : BlockSyntax) : List Char :=
  block.kind.keyword.toList ++ ' ' :: (block.name ++ [' ', '\x7b'])

/-- The text of a block. -/
def chars (block : BlockSyntax) : List Char :=
  block.opening ++ (block.body.chars ++ ['\x7d'])

/-- What is read of a block. -/
def block (block : BlockSyntax) : Block where
  kind := block.kind
  name := block.name
  body := block.body.chars

/-- A block with a name and a body that keeps to the grammar. -/
structure Sound (block : BlockSyntax) : Prop where
  isName : IsName block.name
  body : block.body.isWellFormed false = true

instance (block : BlockSyntax) : Decidable block.Sound :=
  decidable_of_iff (IsName block.name ∧ block.body.isWellFormed false = true)
    ⟨fun ⟨isName, body⟩ => ⟨isName, body⟩, fun ⟨isName, body⟩ => ⟨isName, body⟩⟩

end BlockSyntax

/-- A line that does not begin with a word that blocks begin with. -/
structure FreeLine (line : List Char) : Prop where
  oneLine : '\n' ∉ line
  free : ∀ word ∈ ["model", "enum"],
    ¬word.toList <+: line.dropWhile fun c => c == ' ' || c == '\t'

instance (line : List Char) : Decidable (FreeLine line) :=
  decidable_of_iff
    ('\n' ∉ line ∧ ∀ word ∈ ["model", "enum"],
      ¬word.toList <+: line.dropWhile fun c => c == ' ' || c == '\t')
    ⟨fun ⟨oneLine, free⟩ => ⟨oneLine, free⟩, fun ⟨oneLine, free⟩ => ⟨oneLine, free⟩⟩

/-- Lines with their ends. -/
def linesChars (lines : List (List Char)) : List Char :=
  lines.flatMap (· ++ ['\n'])

/-- The text between two blocks: the rest of the line on which the first one is
closed, and further lines. -/
structure Interlude where
  rest : List Char
  lines : List (List Char)

namespace Interlude

def chars (interlude : Interlude) : List Char :=
  interlude.rest ++ '\n' :: linesChars interlude.lines

/-- Text in which no block begins. -/
structure Sound (interlude : Interlude) : Prop where
  rest : '\n' ∉ interlude.rest
  lines : ∀ line ∈ interlude.lines, FreeLine line

instance (interlude : Interlude) : Decidable interlude.Sound :=
  decidable_of_iff ('\n' ∉ interlude.rest ∧ ∀ line ∈ interlude.lines, FreeLine line)
    ⟨fun ⟨rest, lines⟩ => ⟨rest, lines⟩, fun ⟨rest, lines⟩ => ⟨rest, lines⟩⟩

end Interlude

/-- The syntax of a text: lines, blocks with the text behind each, and possibly
one more block at the end. -/
structure ScriptSyntax where
  before : List (List Char)
  blocks : List (BlockSyntax × Interlude)
  last : Option BlockSyntax

namespace ScriptSyntax

/-- All blocks in order. -/
def allBlocks (script : ScriptSyntax) : List BlockSyntax :=
  script.blocks.map Prod.fst ++ script.last.toList

/-- The text in front of the last block. -/
def front (script : ScriptSyntax) : List Char :=
  linesChars script.before ++
    script.blocks.flatMap fun (block, interlude) => block.chars ++ interlude.chars

def chars (script : ScriptSyntax) : List Char :=
  script.front ++ script.last.toList.flatMap BlockSyntax.chars

structure Sound (script : ScriptSyntax) : Prop where
  before : ∀ line ∈ script.before, FreeLine line
  blocks : ∀ block ∈ script.allBlocks, block.Sound
  interludes : ∀ entry ∈ script.blocks, entry.2.Sound

instance (script : ScriptSyntax) : Decidable script.Sound :=
  decidable_of_iff
    ((∀ line ∈ script.before, FreeLine line) ∧ (∀ block ∈ script.allBlocks, block.Sound) ∧
      ∀ entry ∈ script.blocks, entry.2.Sound)
    ⟨fun ⟨before, blocks, interludes⟩ => ⟨before, blocks, interludes⟩,
      fun ⟨before, blocks, interludes⟩ => ⟨before, blocks, interludes⟩⟩

end ScriptSyntax

theorem header?_of_freeLine {line : List Char} (free : FreeLine line) (rest : List Char) :
    header? (line ++ '\n' :: rest) = none := by
  have noWord (word : String) (member : word ∈ ["model", "enum"]) (absent : '\n' ∉ word.toList) :
      literal? word.toList ((line.dropWhile fun c => c == ' ' || c == '\t') ++ '\n' :: rest) =
        none := by
    rw [literal?_append_cons absent, Option.map_eq_none_iff, Option.eq_none_iff_forall_ne_some]
    intro after found
    exact free.free word member ⟨after, (literal?_eq_some_iff.mp found).symm⟩
  have indented : (line ++ '\n' :: rest).dropWhile (fun c => c == ' ' || c == '\t') =
      (line.dropWhile fun c => c == ' ' || c == '\t') ++ '\n' :: rest := by
    rw [List.dropWhile_append]
    split
    · rename_i blank
      rw [List.isEmpty_iff.mp blank]
      rfl
    · rfl
  have noKind : kind? ((line.dropWhile fun c => c == ' ' || c == '\t') ++ '\n' :: rest) =
      none := by
    rw [kind?, noWord "model" (by simp) (by decide), noWord "enum" (by simp) (by decide)]
    rfl
  simp [header?, indented, noKind]

/-- The rest of a line without a header is passed over. -/
theorem nextHeader?_line {lineStart : Bool} {line : List Char} (oneLine : '\n' ∉ line)
    {rest : List Char} (noHeader : lineStart = true → header? (line ++ '\n' :: rest) = none) :
    nextHeader? lineStart (line ++ '\n' :: rest) = nextHeader? true rest := by
  cases line with
  | nil => exact nextHeader?_cons_of_none noHeader
  | cons c later =>
      have notLineFeed : c ≠ '\n' := fun same => oneLine (same ▸ List.mem_cons_self)
      have other : (c == '\n') = false := by simpa using notLineFeed
      have laterOneLine : '\n' ∉ later := fun member => oneLine (List.mem_cons_of_mem _ member)
      rw [List.cons_append] at noHeader ⊢
      rw [nextHeader?_cons_of_none noHeader, other, nextHeader?_append_of_notMem laterOneLine]
      exact nextHeader?_cons_of_none (by simp)

theorem passedOver_of_freeLine {line : List Char} (free : FreeLine line) : PassedOver line :=
  fun rest => nextHeader?_line free.oneLine fun _ => header?_of_freeLine free rest

theorem nextHeader?_linesChars {lines : List (List Char)}
    (free : ∀ line ∈ lines, FreeLine line) (rest : List Char) :
    nextHeader? true (linesChars lines ++ rest) = nextHeader? true rest := by
  induction lines with
  | nil => rfl
  | cons line later ih =>
      have split : linesChars (line :: later) ++ rest =
          line ++ '\n' :: (linesChars later ++ rest) := by
        simp [linesChars]
      rw [split, passedOver_of_freeLine (free line List.mem_cons_self)]
      exact ih fun other member => free other (List.mem_cons_of_mem _ member)

/-- Behind a block the search goes on at the next line that begins anew. -/
theorem Interlude.Sound.nextHeader? {interlude : Interlude} (sound : interlude.Sound)
    (rest : List Char) :
    Dsl.nextHeader? false (interlude.chars ++ rest) = Dsl.nextHeader? true rest := by
  rw [Interlude.chars, List.append_assoc, List.cons_append,
    nextHeader?_line sound.rest (by simp), nextHeader?_linesChars sound.lines]

theorem BlockSyntax.Sound.nextHeader? {block : BlockSyntax} (sound : block.Sound)
    (opened : List Char) :
    Dsl.nextHeader? true (block.opening ++ opened) = some (block.kind, block.name, opened) := by
  have header : header? (block.opening ++ opened) = some (block.kind, block.name, opened) := by
    have gap : ([' '] : List Char) ≠ [] := by simp
    simpa [BlockSyntax.opening] using
      header?_block block.kind sound.isName gap (by decide) opened
  obtain ⟨c, later, begun⟩ : ∃ c later, block.opening ++ opened = c :: later := by
    rw [BlockSyntax.opening]
    cases block.kind <;> exact ⟨_, _, rfl⟩
  rw [begun] at header ⊢
  simp [Dsl.nextHeader?, header]

/-! ## Reading blocks -/

/-- A block at the beginning of a line is read, and reading goes on behind
it. -/
theorem BlockSyntax.Sound.blocksFrom {block : BlockSyntax} (sound : block.Sound)
    (after : List Char) :
    Dsl.blocksFrom true (block.chars ++ after) =
      (Dsl.blocksFrom false after).map (block.block :: ·) := by
  obtain ⟨target, counts, moves⟩ := BodySyntax.moves sound.body
  have header := sound.nextHeader? (block.body.chars ++ '\x7d' :: after)
  have text : block.opening ++ (block.body.chars ++ '\x7d' :: after) = block.chars ++ after := by
    simp [BlockSyntax.chars]
  rw [text] at header
  exact blocksFrom_of_some header (splitBody_of_moves counts moves after)

/-- Blocks with text behind them are read in order, and reading goes on at the
beginning of a line. -/
theorem blocksFrom_interludes {blocks : List (BlockSyntax × Interlude)}
    (sound : ∀ entry ∈ blocks, entry.1.Sound ∧ entry.2.Sound) (after : List Char) :
    blocksFrom true
        ((blocks.flatMap fun (block, interlude) => block.chars ++ interlude.chars) ++ after) =
      (blocksFrom true after).map ((blocks.map fun entry => entry.1.block) ++ ·) := by
  induction blocks with
  | nil =>
      rw [List.flatMap_nil, List.nil_append]
      cases blocksFrom true after <;> rfl
  | cons entry later ih =>
      obtain ⟨block, interlude⟩ := entry
      obtain ⟨blockSound, interludeSound⟩ := sound _ List.mem_cons_self
      have laterRead := ih fun other member => sound other (List.mem_cons_of_mem _ member)
      rw [List.flatMap_cons, List.append_assoc, List.append_assoc, blockSound.blocksFrom,
        blocksFrom_congr (interludeSound.nextHeader? _), laterRead]
      cases blocksFrom true after <;> rfl

namespace ScriptSyntax.Sound

variable {script : ScriptSyntax} (sound : script.Sound)
include sound

/-- The blocks in front of the last one are read, whatever follows. -/
theorem blocksFrom_front (after : List Char) :
    blocksFrom true (script.front ++ after) =
      (blocksFrom true after).map ((script.blocks.map fun entry => entry.1.block) ++ ·) := by
  have each : ∀ entry ∈ script.blocks, entry.1.Sound ∧ entry.2.Sound := by
    intro entry member
    refine ⟨sound.blocks entry.1 ?_, sound.interludes entry member⟩
    exact List.mem_append_left _ (List.mem_map_of_mem member)
  rw [ScriptSyntax.front, List.append_assoc, ← blocksFrom_interludes each]
  exact blocksFrom_congr (nextHeader?_linesChars sound.before _)

theorem blocksFrom_chars :
    blocksFrom true script.chars = .ok (script.allBlocks.map BlockSyntax.block) := by
  rw [ScriptSyntax.chars, blocksFrom_front sound, allBlocks, List.map_append, List.map_map]
  cases last : script.last with
  | none =>
      rw [blocksFrom_of_none rfl]
      rfl
  | some block =>
      have blockSound : block.Sound := sound.blocks block (by simp [allBlocks, last])
      have read := blockSound.blocksFrom []
      have ended : blocksFrom false [] = .ok [] := blocksFrom_of_none rfl
      rw [ended, List.append_nil] at read
      have only : (some block).toList.flatMap BlockSyntax.chars = block.chars := by simp
      rw [only, read]
      rfl

/-- A text that ends inside the last block has an open block. -/
theorem blocksFrom_cut {block : BlockSyntax} (isLast : block ∈ script.last) {shown : List Char}
    (begins : shown <+: block.body.chars) :
    blocksFrom true (script.front ++ (block.opening ++ shown)) =
      .error (.openBlock (String.ofList block.name)) := by
  have blockSound : block.Sound :=
    sound.blocks block (by simp [allBlocks, Option.mem_def.mp isLast])
  obtain ⟨target, counts, moves⟩ := BodySyntax.moves blockSound.body
  rw [blocksFrom_front sound, blocksFrom_of_open (blockSound.nextHeader? shown)
    (splitBody_of_isPrefix counts moves begins)]
  rfl

end ScriptSyntax.Sound

/-- Reading blocks gives blocks, or stops at one that is open. -/
theorem blocksFrom_cases (lineStart : Bool) (text : List Char) :
    (∃ blocks, blocksFrom lineStart text = .ok blocks) ∨
      ∃ name, blocksFrom lineStart text = .error (.openBlock name) := by
  cases read : blocksFrom lineStart text with
  | ok blocks => exact .inl ⟨blocks, rfl⟩
  | error cause =>
      obtain ⟨name, failed⟩ := blocksFrom_of_unclosed (unclosed_of_error read)
      exact .inr ⟨name, read ▸ failed⟩

theorem documentOf_blocks (blocks : List BlockSyntax) :
    documentOf (blocks.map BlockSyntax.block) =
      { format := SourceFormat.dsl.name
        tables := (blocks.filter (·.kind == .model)).map (·.block.table)
        enums := (blocks.filter (·.kind == .enumeration)).map (·.block.enumeration) } := by
  simp only [documentOf, List.filter_map, List.map_map]
  rfl

end Dsl

open Dsl

/-- A text that is put together from blocks and lines between them is read as
exactly its blocks, the models and the enums each in order, and a block is read
there as it is read alone.  A text that ends inside its last block is refused,
and the block is named.  Nothing else keeps a text from being read. -/
theorem Document.ofDsl_script (script : ScriptSyntax) (sound : script.Sound) :
    Document.ofDsl (String.ofList script.chars) =
        .ok
          { format := SourceFormat.dsl.name
            tables := (script.allBlocks.filter (·.kind == .model)).map (·.block.table)
            enums :=
              (script.allBlocks.filter (·.kind == .enumeration)).map (·.block.enumeration) } ∧
      (∀ block ∈ script.allBlocks,
        Document.ofDsl (String.ofList block.chars) =
          .ok
            { format := SourceFormat.dsl.name
              tables := if block.kind = .model then [block.block.table] else []
              enums := if block.kind = .model then [] else [block.block.enumeration] }) ∧
      (∀ block ∈ script.last, ∀ shown, shown <+: block.body.chars →
        ∃ cause : SourceError,
          Document.ofDsl (String.ofList (script.front ++ (block.opening ++ shown))) =
              .error cause ∧
            cause.isMalformed = true ∧
            cause.message = "Unbalanced braces in block '" ++ String.ofList block.name ++ "'") ∧
      ∀ text : String,
        (∃ document, Document.ofDsl text = .ok document) ∨
          ∃ name, Document.ofDsl text = .error (.openBlock name) := by
  refine ⟨?whole, ?alone, ?cut, ?total⟩
  case whole =>
    rw [Document.ofDsl, String.toList_ofList, sound.blocksFrom_chars, ← documentOf_blocks]
    rfl
  case alone =>
    intro block member
    have read := (sound.blocks block member).blocksFrom []
    have ended : blocksFrom false [] = .ok [] := blocksFrom_of_none rfl
    rw [List.append_nil, ended] at read
    rw [Document.ofDsl, String.toList_ofList, read]
    change Except.ok (documentOf ([block].map BlockSyntax.block)) = _
    rw [documentOf_blocks]
    cases kind : block.kind <;> simp [kind]
  case cut =>
    intro block isLast shown begins
    refine ⟨.openBlock (String.ofList block.name), ?_, rfl, rfl⟩
    rw [Document.ofDsl, String.toList_ofList, sound.blocksFrom_cut isLast begins]
    rfl
  case total =>
    intro text
    rcases blocksFrom_cases true text.toList with ⟨blocks, read⟩ | ⟨name, failed⟩
    · exact .inl ⟨documentOf blocks, by rw [Document.ofDsl, read]; rfl⟩
    · exact .inr ⟨name, by rw [Document.ofDsl, failed]; rfl⟩

/-- A text whose bodies hold braces and quotes that do not count, with text
behind a closing brace and lines that almost begin a block. -/
def guardedScript : ScriptSyntax where
  before := ["// model A \x7b".toList, []]
  blocks :=
    [({ kind := .model
        name := "user".toList
        body :=
          .char '\n'
            (.string ([' ', '\x7d', '/', '/'].map .plain ++ [.escaped '\x22', .escaped '\n'])
              (.char '/' (.char ' ' (.comment [' ', '\x22', '\x7d']
                (.group (.group .done (.char '/' .done)) (.char '\n' .done)))))) },
      { rest := " model B \x7b".toList, lines := ["\t remodel".toList] })]
  last :=
    some
      { kind := .enumeration
        name := "kind".toList
        body := .char '\n' (.char 'a' (.char ' ' (.comment ['\x7d'] (.char 'b' .done)))) }

/-- Only the two blocks of the text are read.  The text ends in an open block
where it ends inside the comment of the second one. -/
theorem ofDsl_guardedScript :
    guardedScript.Sound ∧
      (∃ document, Document.ofDsl (String.ofList guardedScript.chars) = .ok document ∧
        document.tables.map Table.name = ["user"] ∧
        document.enums = [{ name := "kind", values := ["a", "b"] }]) ∧
      ∃ cause,
        Document.ofDsl
            (String.ofList (guardedScript.front ++ "enum kind \x7b\na //\x7d".toList)) =
          .error cause ∧ cause.message = "Unbalanced braces in block 'kind'" := by
  have sound : guardedScript.Sound := by decide +kernel
  obtain ⟨whole, -, cut, -⟩ := Document.ofDsl_script guardedScript sound
  refine ⟨sound, ⟨_, whole, by decide +kernel, by decide +kernel⟩, ?_⟩
  obtain ⟨cause, failed, -, message⟩ := cut _ rfl "\na //\x7d".toList (by decide +kernel)
  exact ⟨cause, failed, message.trans (by decide +kernel)⟩

end Crowsfoot
