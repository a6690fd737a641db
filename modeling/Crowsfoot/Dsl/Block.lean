import Crowsfoot.SourceError
import Crowsfoot.Text.Scan

/-!
# Blocks of the schema DSL

A block begins on a line of its own with `model` or `enum`, a name and an
opening brace, and ends at the matching closing brace.  Braces inside strings
and line comments do not count.  Text between blocks is skipped.
-/

namespace Crowsfoot.Dsl

open Crowsfoot.Text

/-- What a block declares. -/
inductive BlockKind
  | model
  | enumeration
  deriving DecidableEq

/-- A block with the text between its braces. -/
structure Block where
  kind : BlockKind
  name : List Char
  body : List Char
  deriving DecidableEq

/-- The word that a block begins with. -/
def kind? (text : List Char) : Option (BlockKind × List Char) :=
  match literal? "model".toList text with
  | some rest => some (.model, rest)
  | none => (literal? "enum".toList text).map fun rest => (.enumeration, rest)

/-- A block header at the beginning of a line, up to and with its brace. -/
def header? (line : List Char) : Option (BlockKind × List Char × List Char) := do
  let (kind, rest) ← kind? (line.dropWhile fun c => c == ' ' || c == '\t')
  let rest ← blanks? rest
  let (name, rest) ← name? rest
  match skipBlanks rest with
  | '\x7b' :: body => pure (kind, name, body)
  | _ => none

/-- The next header of a text.  `lineStart` tells whether the text begins at
the beginning of a line. -/
def nextHeader? (lineStart : Bool) : List Char → Option (BlockKind × List Char × List Char)
  | [] => none
  | c :: rest =>
      match (if lineStart then header? (c :: rest) else none) with
      | some found => some found
      | none => nextHeader? (c == '\n') rest

/-- Where the scan of a body stands: in plain text, after a slash in plain
text, in a line comment, in a string, or after a backslash in a string. -/
inductive Mode
  | plain
  | slash
  | comment
  | string
  | escape
  deriving DecidableEq

/-- The mode after a character of plain text. -/
def Mode.ofPlain (c : Char) : Mode :=
  if c == '\x22' then .string else if c == '/' then .slash else .plain

/-- The mode after a character. -/
def Mode.next : Mode → Char → Mode
  | .plain, c => ofPlain c
  | .slash, c => if c == '/' then .comment else ofPlain c
  | .comment, c => if c == '\n' then .plain else .comment
  | .string, c => if c == '\\' then .escape else if c == '\x22' then .plain else .string
  | .escape, _ => .string

/-- Whether braces count in a mode. -/
def Mode.countsBraces : Mode → Bool
  | .plain | .slash => true
  | _ => false

/-- The text up to the brace that closes a block, and the text after it.
`depth` counts the braces that were opened inside the block. -/
def splitBody (mode : Mode) (depth : Nat) : List Char → Option (List Char × List Char)
  | [] => none
  | c :: rest =>
      let continued (depth : Nat) : Option (List Char × List Char) :=
        (splitBody (mode.next c) depth rest).map fun (body, after) => (c :: body, after)
      if mode.countsBraces && c == '\x7d' then
        match depth with
        | 0 => some ([], rest)
        | outer + 1 => continued outer
      else if mode.countsBraces && c == '\x7b' then continued (depth + 1)
      else continued depth

/-! ## Progress -/

theorem length_of_kind? {text rest : List Char} {kind : BlockKind}
    (matched : kind? text = some (kind, rest)) :
    rest.length ≤ text.length := by
  unfold kind? at matched
  split at matched
  · rename_i found
    simp only [Option.some.injEq, Prod.mk.injEq] at matched
    exact matched.2 ▸ length_of_literal? found
  · simp only [Option.map_eq_some_iff, Prod.mk.injEq] at matched
    obtain ⟨found, literal, -, rfl⟩ := matched
    exact length_of_literal? literal

/-- A header is followed by less text than it begins. -/
theorem length_of_header? {line name body : List Char} {kind : BlockKind}
    (matched : header? line = some (kind, name, body)) :
    body.length < line.length := by
  simp only [header?, Option.bind_eq_bind, Option.bind_eq_some_iff] at matched
  obtain ⟨⟨found, afterKind⟩, kindMatched, afterBlanks, blanksMatched,
    ⟨foundName, afterName⟩, nameMatched, braceMatched⟩ := matched
  have shorter : afterName.length ≤ line.length :=
    calc afterName.length
      _ ≤ afterBlanks.length := length_of_run? nameMatched
      _ ≤ afterKind.length := length_of_blanks? blanksMatched
      _ ≤ _ := length_of_kind? kindMatched
      _ ≤ line.length := length_dropWhile_le _ _
  have skipped : (skipBlanks afterName).length ≤ afterName.length := length_dropWhile_le _ _
  split at braceMatched
  · rename_i opened
    simp only [Option.pure_def, Option.some.injEq, Prod.mk.injEq] at braceMatched
    obtain ⟨-, -, rfl⟩ := braceMatched
    rw [opened, List.length_cons] at skipped
    exact Nat.lt_of_lt_of_le skipped shorter
  · simp at braceMatched

theorem length_of_nextHeader? {lineStart : Bool} {text name body : List Char}
    {kind : BlockKind} (matched : nextHeader? lineStart text = some (kind, name, body)) :
    body.length < text.length := by
  induction text generalizing lineStart with
  | nil => simp [nextHeader?] at matched
  | cons c rest ih =>
      simp only [nextHeader?] at matched
      split at matched
      · rename_i found
        split at found
        · simp only [Option.some.injEq] at matched
          exact length_of_header? (matched ▸ found)
        · simp at found
      · exact Nat.lt_succ_of_lt (ih matched)

/-- A block is followed by less text than its body begins. -/
theorem length_of_splitBody {mode : Mode} {depth : Nat} {text body after : List Char}
    (closed : splitBody mode depth text = some (body, after)) :
    after.length < text.length := by
  induction text generalizing mode depth body with
  | nil => simp [splitBody] at closed
  | cons c rest ih =>
      have further {depth : Nat} {body : List Char}
          (continued : (splitBody (mode.next c) depth rest).map
            (fun (body, after) => (c :: body, after)) = some (body, after)) :
          after.length < (c :: rest).length := by
        simp only [Option.map_eq_some_iff, Prod.mk.injEq] at continued
        obtain ⟨⟨inner, later⟩, found, -, rfl⟩ := continued
        exact Nat.lt_succ_of_lt (ih found)
      simp only [splitBody] at closed
      split at closed
      · split at closed
        · simp only [Option.some.injEq, Prod.mk.injEq] at closed
          exact closed.2 ▸ Nat.lt_succ_self _
        · exact further closed
      · split at closed
        · exact further closed
        · exact further closed

/-- The blocks of a text in order.  A block that is not closed is an error. -/
def blocksFrom (lineStart : Bool) (text : List Char) : Except SourceError (List Block) :=
  match _ : nextHeader? lineStart text with
  | none => .ok []
  | some (kind, name, opened) =>
      match _ : splitBody .plain 0 opened with
      | none => .error (.openBlock (String.ofList name))
      | some (body, after) =>
          match blocksFrom false after with
          | .ok later => .ok (⟨kind, name, body⟩ :: later)
          | .error cause => .error cause
termination_by text.length
decreasing_by
  exact Nat.lt_trans (length_of_splitBody ‹_›) (length_of_nextHeader? ‹_›)

end Crowsfoot.Dsl
