import Crowsfoot.Dsl.Block
import Crowsfoot.Proofs.Dsl.Names
import Crowsfoot.Proofs.Json.QuotedText
import Crowsfoot.Proofs.Text.Recognizers

/-!
# The scan for block ends

The scan that looks for the brace that closes a block is a small automaton: a
character closes the body or takes the scan one step further.  A text *moves* the
scan from one mode to another when it holds no brace that counts: the scan then
goes on behind it at the same depth.  Moves compose, and a string literal moves
the scan from plain text back to plain text whatever it contains.
-/

namespace Crowsfoot.Dsl

open Crowsfoot.Text

/-- A character ends the body, or the scan goes on behind it. -/
theorem splitBody_cons_cases (mode : Mode) (depth : Nat) (c : Char) :
    (depth = 0 ∧ c = '\x7d' ∧ ∀ rest, splitBody mode depth (c :: rest) = some ([], rest)) ∨
      ∃ next, ∀ rest, splitBody mode depth (c :: rest) =
        (splitBody (mode.next c) next rest).map fun (body, after) => (c :: body, after) := by
  cases closes : mode.countsBraces && c == '\x7d' with
  | true =>
      cases depth with
      | zero =>
          refine .inl ⟨rfl, ?_, fun rest => by simp only [splitBody, closes, if_true]⟩
          simp only [Bool.and_eq_true, beq_iff_eq] at closes
          exact closes.2
      | succ outer => exact .inr ⟨outer, fun rest => by simp only [splitBody, closes, if_true]⟩
  | false =>
      cases opens : mode.countsBraces && c == '\x7b' with
      | true =>
          refine .inr ⟨depth + 1, fun rest => ?_⟩
          simp only [splitBody, closes, opens, Bool.false_eq_true, if_false, if_true]
      | false =>
          refine .inr ⟨depth, fun rest => ?_⟩
          simp only [splitBody, closes, opens, Bool.false_eq_true, if_false]

/-- A text behind which the scan goes on in a certain mode and at the depth at
which it came. -/
def Moves (source : Mode) (text : List Char) (target : Mode) : Prop :=
  ∀ depth rest, splitBody source depth (text ++ rest) =
    (splitBody target depth rest).map fun (body, after) => (text ++ body, after)

theorem Moves.nil (mode : Mode) : Moves mode [] mode := by
  intro depth rest
  simp

/-- Moves compose. -/
theorem Moves.append {source middle target : Mode} {front back : List Char}
    (first : Moves source front middle) (second : Moves middle back target) :
    Moves source (front ++ back) target := by
  intro depth rest
  rw [List.append_assoc, first depth, second depth, Option.map_map]
  simp [Function.comp_def]

/-- A character that is no counted brace moves the scan to the next mode. -/
theorem Moves.char {mode : Mode} {c : Char}
    (quiet : mode.countsBraces = false ∨ (c ≠ '\x7b' ∧ c ≠ '\x7d')) :
    Moves mode [c] (mode.next c) := by
  intro depth rest
  have closes : (mode.countsBraces && c == '\x7d') = false := by
    rcases quiet with hidden | ⟨-, other⟩
    · simp [hidden]
    · simp [other]
  have opens : (mode.countsBraces && c == '\x7b') = false := by
    rcases quiet with hidden | ⟨other, -⟩
    · simp [hidden]
    · simp [other]
  simp [splitBody, closes, opens]

/-- Parts that all return to a mode return to it together. -/
theorem Moves.flatMap {α : Type} {mode : Mode} {parts : List α} {chars : α → List Char}
    (each : ∀ part ∈ parts, Moves mode (chars part) mode) :
    Moves mode (parts.flatMap chars) mode :=
  flatMap_of_append (motive := fun text => Moves mode text mode) (.nil mode) .append each

/-- A character that has no meaning to the scan in plain text. -/
def isQuiet (c : Char) : Bool :=
  c != '\x22' && c != '/' && c != '\x7b' && c != '\x7d'

theorem Moves.quiet {text : List Char} (quiet : ∀ c ∈ text, isQuiet c = true) :
    Moves .plain text .plain := by
  induction text with
  | nil => exact Moves.nil .plain
  | cons c rest ih =>
      have first := quiet c List.mem_cons_self
      simp only [isQuiet, Bool.and_eq_true, bne_iff_ne, ne_eq] at first
      obtain ⟨⟨⟨notQuote, notSlash⟩, notOpen⟩, notClose⟩ := first
      have step : Moves .plain [c] (Mode.plain.next c) := Moves.char (.inr ⟨notOpen, notClose⟩)
      have stays : Mode.plain.next c = .plain := by
        simp [Mode.next, Mode.ofPlain, notQuote, notSlash]
      rw [stays] at step
      exact step.append (ih fun d member => quiet d (List.mem_cons_of_mem _ member))

theorem isQuiet_of_isWord {c : Char} (word : isWord c = true) : isQuiet c = true := by
  simp only [isQuiet, Bool.and_eq_true, bne_iff_ne, ne_eq]
  exact ⟨⟨⟨ne_of_class word rfl, ne_of_class word rfl⟩, ne_of_class word rfl⟩,
    ne_of_class word rfl⟩

/-- Names move through plain text, with a line feed after them or not. -/
theorem Moves.identifier (name : String) : Moves .plain (identifier name).toList .plain := by
  have quietName : Moves .plain (withoutFinalLineFeed (identifierChars name.toList)) .plain :=
    Moves.quiet fun c member => isQuiet_of_isWord ((isName_identifierChars _).word c member)
  rw [toList_identifier]
  rcases withoutFinalLineFeed_cases (identifierChars name.toList) with same | ended
  · rw [same]
    exact quietName
  · rw [ended]
    exact quietName.append (Moves.quiet (by decide))

/-- Inside a string, all but quotes and backslashes stays inside. -/
theorem Moves.inString {c : Char} (notBackslash : c ≠ '\\') (notQuote : c ≠ '\x22') :
    Moves .string [c] .string := by
  have step : Moves .string [c] (Mode.string.next c) := Moves.char (.inl rfl)
  have stays : Mode.string.next c = .string := by
    simp [Mode.next, notBackslash, notQuote]
  rwa [stays] at step

theorem Moves.alphanumeric {text : List Char} (all : ∀ c ∈ text, c.isAlphanum = true) :
    Moves .string text .string := by
  induction text with
  | nil => exact Moves.nil .string
  | cons c rest ih =>
      have first := all c List.mem_cons_self
      have step : Moves .string [c] .string :=
        Moves.inString (ne_of_class first rfl) (ne_of_class first rfl)
      exact step.append (ih fun d member => all d (List.mem_cons_of_mem _ member))

/-- A character inside a literal leaves the scan inside the string. -/
theorem Moves.escape (c : Char) : Moves .string (Json.escape c) .string := by
  have opened : Moves .string ['\\'] .escape := Moves.char (.inl rfl)
  have escaped : ∀ d, Moves .escape [d] .string := fun d => Moves.char (.inl rfl)
  rcases Json.escapeForm c with ⟨-, notQuote, notBackslash, form⟩ | ⟨-, form⟩ | ⟨-, form⟩ |
      ⟨-, letter, letters, alphanumeric, form⟩
  · rw [form]
    exact Moves.inString notBackslash notQuote
  · rw [form]
    exact opened.append (escaped _)
  · rw [form]
    exact opened.append (escaped _)
  · rw [form]
    have later : ∀ d ∈ letters, d.isAlphanum = true :=
      fun d member => alphanumeric d (List.mem_cons_of_mem _ member)
    exact (opened.append (escaped letter)).append (Moves.alphanumeric later)

/-- A string literal moves through plain text, whatever its content. -/
theorem Moves.quoteChars (text : List Char) : Moves .plain (Json.quoteChars text) .plain := by
  have opened : Moves .plain ['\x22'] .string := Moves.char (.inr (by decide))
  have content : Moves .string (text.flatMap Json.escape) .string :=
    Moves.flatMap fun c _ => Moves.escape c
  have closed : Moves .string ['\x22'] .plain := Moves.char (.inl rfl)
  exact opened.append (content.append closed)

theorem Moves.quote (text : String) : Moves .plain (Json.quote text).toList .plain := by
  rw [Json.toList_quote]
  exact Moves.quoteChars _

/-- A text that moves the scan from plain text to where braces count is the
whole body of a block that is closed right after it. -/
theorem splitBody_of_moves {body : List Char} {target : Mode}
    (counts : target.countsBraces = true) (moves : Moves .plain body target)
    (after : List Char) :
    splitBody .plain 0 (body ++ '\x7d' :: after) = some (body, after) := by
  rw [moves 0]
  simp [splitBody, counts]

end Crowsfoot.Dsl
