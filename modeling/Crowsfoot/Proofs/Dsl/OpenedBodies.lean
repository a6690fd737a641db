import Crowsfoot.Proofs.Dsl.BlockGrammar
import Crowsfoot.Proofs.Dsl.HeaderComments

/-!
# Opened bodies

Where a body of a text is opened is settled by the text up to its brace.  What
follows may be replaced: the same blocks are read in front of it, and the body
of the new text is read at the same place.
-/

namespace Crowsfoot.Dsl

open Crowsfoot.Text

section Brace

variable (text rest : List Char)

theorem kind?_append_brace :
    kind? (text ++ '\x7b' :: rest) =
      (kind? text).map fun (kind, after) => (kind, after ++ '\x7b' :: rest) := by
  have model : literal? "model".toList (text ++ '\x7b' :: rest) =
      (literal? "model".toList text).map (· ++ '\x7b' :: rest) :=
    literal?_append_cons (by decide) _ _
  have enum : literal? "enum".toList (text ++ '\x7b' :: rest) =
      (literal? "enum".toList text).map (· ++ '\x7b' :: rest) :=
    literal?_append_cons (by decide) _ _
  rw [kind?, kind?, model, enum]
  cases literal? "model".toList text <;> cases literal? "enum".toList text <;> rfl

theorem blanks?_append_brace :
    blanks? (text ++ '\x7b' :: rest) = (blanks? text).map (· ++ '\x7b' :: rest) := by
  cases text with
  | nil => rfl
  | cons c later =>
      rw [List.cons_append, blanks?, blanks?, skipBlanks_append_cons rfl]
      split <;> rfl

theorem brace?_append_brace :
    brace? (text ++ '\x7b' :: rest) = (brace? (text ++ ['\x7b'])).map (· ++ rest) := by
  rw [brace?, brace?, skipBlanks_append_cons rfl, skipBlanks_append_cons rfl]
  cases skipBlanks text with
  | nil => rfl
  | cons c later =>
      by_cases opens : c = '\x7b'
      · subst opens
        simp
      · simp [opens]

theorem namedBrace?_append_brace :
    namedBrace? (text ++ '\x7b' :: rest) =
      (namedBrace? (text ++ ['\x7b'])).map fun (name, body) => (name, body ++ rest) := by
  have stops (rest : List Char) : Stops isWord ('\x7b' :: rest) := stops_cons_iff.mpr rfl
  rw [namedBrace?, namedBrace?, name?, name?, run?_append_of_stops (stops rest),
    run?_append_of_stops (stops [])]
  cases run? isWord text with
  | none => rfl
  | some read =>
      obtain ⟨name, after⟩ := read
      rw [Option.map_some, Option.map_some, Option.bind_some, Option.bind_some]
      dsimp only
      rw [brace?_append_brace]
      simp [Function.comp_def]

/-- Text behind a brace does not matter to a header up to the brace. -/
theorem header?_append_brace :
    header? (text ++ '\x7b' :: rest) =
      (header? (text ++ ['\x7b'])).map fun (kind, name, body) => (kind, name, body ++ rest) := by
  have indented (rest : List Char) :
      (text ++ '\x7b' :: rest).dropWhile (fun c => c == ' ' || c == '\t') =
        (text.dropWhile fun c => c == ' ' || c == '\t') ++ '\x7b' :: rest := by
    rw [List.dropWhile_append]
    split
    · rename_i blank
      rw [List.isEmpty_iff.mp blank]
      rfl
    · rfl
  rw [header?_eq_namedBrace?, header?_eq_namedBrace?, indented, indented, kind?_append_brace,
    kind?_append_brace]
  cases kind? (text.dropWhile fun c => c == ' ' || c == '\t') with
  | none => rfl
  | some read =>
      obtain ⟨kind, after⟩ := read
      rw [Option.map_some, Option.map_some, Option.bind_some, Option.bind_some]
      dsimp only
      rw [blanks?_append_brace, blanks?_append_brace]
      cases blanks? after with
      | none => rfl
      | some after =>
          rw [Option.map_some, Option.map_some, Option.bind_some, Option.bind_some,
            namedBrace?_append_brace]
          simp [Function.comp_def]

/-- The search for a header stops at a brace or goes on behind it. -/
theorem nextHeader?_append_brace (lineStart : Bool) :
    nextHeader? lineStart (text ++ '\x7b' :: rest) =
      ((nextHeader? lineStart (text ++ ['\x7b'])).map fun (kind, name, body) =>
        (kind, name, body ++ rest)).or (nextHeader? false rest) := by
  induction text generalizing lineStart with
  | nil =>
      have noHeader (rest : List Char) : header? ('\x7b' :: rest) = none :=
        header?_cons_of_ne rfl (by decide) (by decide)
      rw [List.nil_append, List.nil_append, nextHeader?_cons_of_none fun _ => noHeader rest,
        nextHeader?_cons_of_none fun _ => noHeader []]
      rfl
  | cons c later ih =>
      have here := header?_append_brace (c :: later) rest
      rw [List.cons_append, List.cons_append] at here ⊢
      rw [nextHeader?, nextHeader?, here]
      cases lineStart with
      | false => exact ih _
      | true =>
          cases header? (c :: (later ++ ['\x7b'])) with
          | none => exact ih _
          | some found => rfl

end Brace

/-! ## The text behind a header -/

theorem exists_brace_of_brace? {text body : List Char} (found : brace? text = some body) :
    '\x7b' :: body <:+ text := by
  rw [brace?] at found
  split at found
  · rename_i opened
    obtain rfl := Option.some.inj found
    exact opened ▸ List.dropWhile_suffix _
  · contradiction

theorem suffix_of_header? {line name body : List Char} {kind : BlockKind}
    (found : header? line = some (kind, name, body)) : '\x7b' :: body <:+ line := by
  rw [header?_eq_namedBrace?] at found
  obtain ⟨⟨_, afterKind⟩, kindFound, rest⟩ := Option.bind_eq_some_iff.mp found
  obtain ⟨⟨_, _⟩, named, same⟩ := Option.map_eq_some_iff.mp rest
  obtain ⟨-, same⟩ := Prod.mk.inj same
  obtain ⟨rfl, rfl⟩ := Prod.mk.inj same
  obtain ⟨afterBlanks, blanks, named⟩ := Option.bind_eq_some_iff.mp named
  obtain ⟨⟨_, afterName⟩, nameFound, brace⟩ := Option.bind_eq_some_iff.mp named
  obtain ⟨_, braceFound, same⟩ := Option.map_eq_some_iff.mp brace
  obtain ⟨rfl, rfl⟩ := Prod.mk.inj same
  have kindSuffix : afterKind <:+ line.dropWhile fun c => c == ' ' || c == '\t' := by
    rw [kind?] at kindFound
    split at kindFound
    · rename_i model
      obtain ⟨-, rfl⟩ := Prod.mk.inj (Option.some.inj kindFound)
      exact ⟨_, (literal?_eq_some_iff.mp model).symm⟩
    · obtain ⟨_, enum, same⟩ := Option.map_eq_some_iff.mp kindFound
      obtain ⟨-, rfl⟩ := Prod.mk.inj same
      exact ⟨_, (literal?_eq_some_iff.mp enum).symm⟩
  have afterNameSuffix := (exists_brace_of_brace? braceFound).trans (suffix_of_run? nameFound)
  have afterKindSuffix := (afterNameSuffix.trans (suffix_of_blanks? blanks)).trans kindSuffix
  exact afterKindSuffix.trans (List.dropWhile_suffix _)

/-- A header that is found ends with its brace. -/
theorem suffix_of_nextHeader? {lineStart : Bool} {text name body : List Char} {kind : BlockKind}
    (found : nextHeader? lineStart text = some (kind, name, body)) : '\x7b' :: body <:+ text := by
  induction text generalizing lineStart with
  | nil => contradiction
  | cons c later ih =>
      simp only [nextHeader?] at found
      split at found
      · rename_i header
        split at header
        · exact suffix_of_header? (header.trans found)
        · contradiction
      · exact (ih found).trans (List.suffix_cons c later)

/-- A header that is found in a text is found whatever follows the text. -/
theorem nextHeader?_append {lineStart : Bool} {text name body : List Char} {kind : BlockKind}
    (found : nextHeader? lineStart text = some (kind, name, body)) (more : List Char) :
    nextHeader? lineStart (text ++ more) = some (kind, name, body ++ more) := by
  obtain ⟨front, rfl⟩ := suffix_of_nextHeader? found
  rw [nextHeader?_append_brace] at found
  rw [List.append_assoc, List.cons_append, nextHeader?_append_brace]
  cases inFront : nextHeader? lineStart (front ++ ['\x7b']) with
  | none =>
      rw [inFront] at found
      exact absurd (length_of_nextHeader? found) (Nat.lt_irrefl _)
  | some parts =>
      rw [inFront] at found
      obtain ⟨_, _, rest⟩ := parts
      obtain ⟨rfl, rfl, same⟩ : _ ∧ _ ∧ _ := by simpa using found
      rw [same]
      rfl

/-- A text that ends with the brace that opens a body, behind certain blocks. -/
inductive Opens : Bool → List Char → List Block → BlockKind → List Char → Prop
  | header {lineStart : Bool} {text name : List Char} {kind : BlockKind}
      (found : nextHeader? lineStart text = some (kind, name, [])) :
      Opens lineStart text [] kind name
  | behind {lineStart : Bool} {text name opened body after openedName : List Char}
      {kind openedKind : BlockKind} {earlier : List Block}
      (found : nextHeader? lineStart text = some (kind, name, opened))
      (closed : splitBody .plain 0 opened = some (body, after))
      (opens : Opens false after earlier openedKind openedName) :
      Opens lineStart text (⟨kind, name, body⟩ :: earlier) openedKind openedName

/-- The body that is opened at the end of a text is read, and reading goes on
behind it. -/
theorem Opens.blocksFrom {lineStart : Bool} {text name : List Char} {kind : BlockKind}
    {earlier : List Block} (opens : Opens lineStart text earlier kind name)
    {opened body after : List Char}
    (closed : splitBody .plain 0 opened = some (body, after)) :
    Dsl.blocksFrom lineStart (text ++ opened) =
      (Dsl.blocksFrom false after).map (earlier ++ ⟨kind, name, body⟩ :: ·) := by
  induction opens with
  | header found => exact blocksFrom_of_some (nextHeader?_append found opened) closed
  | behind found ended _ ih =>
      rw [blocksFrom_of_some (nextHeader?_append found opened) (splitBody_append ended opened), ih]
      cases Dsl.blocksFrom false after <;> rfl

/-- A body ends at its brace, whatever follows. -/
theorem splitBody_closing {mode : Mode} {depth : Nat} {text body after : List Char}
    (closed : splitBody mode depth text = some (body, after)) :
    text = body ++ '\x7d' :: after ∧
      ∀ other, splitBody mode depth (body ++ '\x7d' :: other) = some (body, other) := by
  induction text generalizing mode depth body with
  | nil => contradiction
  | cons c rest ih =>
      rcases splitBody_cons_cases mode depth c with ⟨-, rfl, ends⟩ | ⟨next, goesOn⟩
      · rw [ends] at closed
        obtain ⟨rfl, rfl⟩ := Prod.mk.inj (Option.some.inj closed)
        exact ⟨rfl, ends⟩
      · rw [goesOn] at closed
        obtain ⟨⟨content, later⟩, found, same⟩ := Option.map_eq_some_iff.mp closed
        obtain ⟨rfl, rfl⟩ := Prod.mk.inj same
        obtain ⟨spelled, closes⟩ := ih found
        exact ⟨by rw [spelled]; rfl, fun other => by rw [List.cons_append, goesOn, closes]; rfl⟩

/-- A header is found in the text up to its brace. -/
theorem exists_nextHeader? {lineStart : Bool} {text name opened : List Char} {kind : BlockKind}
    (found : nextHeader? lineStart text = some (kind, name, opened)) :
    ∃ front, text = front ++ opened ∧ nextHeader? lineStart front = some (kind, name, []) := by
  obtain ⟨front, rfl⟩ := suffix_of_nextHeader? found
  refine ⟨front ++ ['\x7b'], by simp, ?_⟩
  rw [nextHeader?_append_brace] at found
  cases inFront : nextHeader? lineStart (front ++ ['\x7b']) with
  | none =>
      rw [inFront] at found
      exact absurd (length_of_nextHeader? found) (Nat.lt_irrefl _)
  | some parts =>
      rw [inFront] at found
      obtain ⟨_, _, rest⟩ := parts
      obtain ⟨rfl, rfl, rfl⟩ : _ ∧ _ ∧ _ := by simpa using found
      rfl

/-- The first of the blocks that are read is found and closed, and the others
are read behind it. -/
theorem blocksFrom_eq_ok_cons {lineStart : Bool} {text : List Char} {block : Block}
    {later : List Block} (read : blocksFrom lineStart text = .ok (block :: later)) :
    ∃ opened after, nextHeader? lineStart text = some (block.kind, block.name, opened) ∧
      splitBody .plain 0 opened = some (block.body, after) ∧
      blocksFrom false after = .ok later := by
  revert read
  fun_cases blocksFrom lineStart text with
  | case1 => exact fun read => absurd (Except.ok.inj read).symm (List.cons_ne_nil _ _)
  | case2 =>
      intro read
      contradiction
  | case3 kind name opened found body after closed others behind =>
      intro read
      obtain ⟨rfl, rfl⟩ := List.cons.inj (Except.ok.inj read)
      exact ⟨opened, after, found, closed, behind⟩
  | case4 =>
      intro read
      contradiction

/-- Every block that is read is opened somewhere, behind the blocks before
it. -/
theorem exists_opens {lineStart : Bool} {text : List Char} {earlier later : List Block}
    {block : Block} (read : blocksFrom lineStart text = .ok (earlier ++ block :: later)) :
    ∃ before after, text = before ++ (block.body ++ '\x7d' :: after) ∧
      Opens lineStart before earlier block.kind block.name ∧
      splitBody .plain 0 (block.body ++ '\x7d' :: after) = some (block.body, after) := by
  induction earlier generalizing lineStart text with
  | nil =>
      obtain ⟨opened, after, found, closed, -⟩ := blocksFrom_eq_ok_cons read
      obtain ⟨before, rfl, header⟩ := exists_nextHeader? found
      obtain ⟨rfl, closes⟩ := splitBody_closing closed
      exact ⟨before, after, rfl, .header header, closes after⟩
  | cons first earlier ih =>
      obtain ⟨opened, after, found, closed, behind⟩ := blocksFrom_eq_ok_cons read
      obtain ⟨before, rfl, header⟩ := exists_nextHeader? found
      obtain ⟨rfl, closes⟩ := splitBody_closing closed
      obtain ⟨further, rest, rfl, opens, ended⟩ := ih behind
      refine ⟨before ++ (first.body ++ '\x7d' :: further), rest, by simp, ?_, ended⟩
      exact .behind (nextHeader?_append header _) (closes further) opens

end Crowsfoot.Dsl
