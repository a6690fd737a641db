import Mathlib.Data.List.TakeWhile
import Crowsfoot.Proofs.Sql.Comments

/-!
# Comments among the tokens of a text

Read from left to right, a text is a sequence of string literals, comments and
other characters.  Stripping knows nothing of literals, and it removes line
comments before it looks for block comments: two hyphens in a literal or in the
last line of a block comment cut it, and a block comment may begin in a literal.
Elsewhere the comments go, and everything else stays.
-/

namespace Crowsfoot.Sql

open Crowsfoot.Text

/-- Two characters are neighbours where the text begins, or later on. -/
theorem pair_infix_cons {a b c : Char} {rest : List Char} :
    [a, b] <:+: c :: rest ↔ (c = a ∧ rest.head? = some b) ∨ [a, b] <:+: rest := by
  rw [List.infix_cons_iff, List.cons_prefix_cons]
  refine or_congr_left (and_congr eq_comm ?_)
  cases rest with
  | nil => simp
  | cons d later => simp [List.cons_prefix_cons, eq_comm]

/-- A token of a text: a literal in single quotes, where two quotes stand for
one, a comment, or another character. -/
inductive Token where
  | literal (inside : List Char)
  | lineComment (inside : List Char)
  | blockComment (inside : List Char)
  | other (c : Char)
  deriving DecidableEq

namespace Token

/-- The spelling of a token. -/
def chars : Token → List Char
  | literal inside => '\x27' :: (inside ++ ['\x27'])
  | lineComment inside => '-' :: '-' :: inside
  | blockComment inside => '/' :: '*' :: (inside ++ ['*', '/'])
  | other c => [c]

/-- The spelling in a text without line comments. -/
def charsOutsideLines : Token → List Char
  | lineComment _ => []
  | token => token.chars

/-- The spelling in a text without comments. -/
def charsOutsideComments : Token → List Char
  | lineComment _ => []
  | blockComment _ => []
  | token => token.chars

end Token

/-- The characters of a literal up to its closing quote, and the text behind
it. -/
def literalInside? : List Char → Option (List Char × List Char)
  | [] => none
  | '\x27' :: '\x27' :: rest =>
      (literalInside? rest).map fun (inside, after) => ('\x27' :: '\x27' :: inside, after)
  | c :: rest =>
      if c == '\x27' then some ([], rest)
      else (literalInside? rest).map fun (inside, after) => (c :: inside, after)

/-- The characters of a block comment up to its end, and the text behind it. -/
def blockInside? : List Char → Option (List Char × List Char)
  | [] => none
  | '*' :: '/' :: rest => some ([], rest)
  | c :: rest => (blockInside? rest).map fun (inside, after) => (c :: inside, after)

theorem literalInside?_spelled {text inside after : List Char}
    (found : literalInside? text = some (inside, after)) : text = inside ++ '\x27' :: after := by
  fun_induction literalInside? text generalizing inside with
  | case1 => contradiction
  | case2 rest ih =>
      obtain ⟨⟨more, later⟩, deeper, made⟩ := Option.map_eq_some_iff.mp found
      obtain ⟨rfl, rfl⟩ := Prod.mk.inj made
      rw [ih deeper]
      rfl
  | case3 c rest _ quote =>
      obtain ⟨rfl, rfl⟩ := Prod.mk.inj (Option.some.inj found)
      rw [eq_of_beq quote]
      rfl
  | case4 c rest _ _ ih =>
      obtain ⟨⟨more, later⟩, deeper, made⟩ := Option.map_eq_some_iff.mp found
      obtain ⟨rfl, rfl⟩ := Prod.mk.inj made
      rw [ih deeper]
      rfl

theorem blockInside?_spelled {text inside after : List Char}
    (found : blockInside? text = some (inside, after)) :
    text = inside ++ '*' :: '/' :: after := by
  fun_induction blockInside? text generalizing inside with
  | case1 => contradiction
  | case2 rest =>
      obtain ⟨rfl, rfl⟩ := Prod.mk.inj (Option.some.inj found)
      rfl
  | case3 c rest _ ih =>
      obtain ⟨⟨more, later⟩, deeper, made⟩ := Option.map_eq_some_iff.mp found
      obtain ⟨rfl, rfl⟩ := Prod.mk.inj made
      rw [ih deeper]
      rfl

/-- The tokens of a text.  A quote or a comment mark that nothing closes is made
of other characters. -/
def tokens : List Char → List Token
  | [] => []
  | '-' :: '-' :: rest =>
      .lineComment (rest.takeWhile (· != '\n')) :: tokens (rest.dropWhile (· != '\n'))
  | '/' :: '*' :: rest =>
      match _ : blockInside? rest with
      | some (inside, after) => .blockComment inside :: tokens after
      | none => .other '/' :: tokens ('*' :: rest)
  | '\x27' :: rest =>
      match _ : literalInside? rest with
      | some (inside, after) => .literal inside :: tokens after
      | none => .other '\x27' :: tokens rest
  | c :: rest => .other c :: tokens rest
termination_by text => text.length
decreasing_by
  · have := length_dropWhile_le (· != '\n') rest
    simp only [List.length_cons]
    omega
  · have := congrArg List.length (blockInside?_spelled ‹_›)
    simp only [List.length_cons, List.length_append] at this ⊢
    omega
  · simp
  · have := congrArg List.length (literalInside?_spelled ‹_›)
    simp only [List.length_cons, List.length_append] at this ⊢
    omega
  · simp
  · simp

/-- The tokens of a text spell it. -/
theorem flatMap_chars_tokens (text : List Char) : (tokens text).flatMap Token.chars = text := by
  fun_induction tokens text with
  | case1 => rfl
  | case2 rest ih =>
      rw [List.flatMap_cons, ih, Token.chars, List.cons_append, List.cons_append,
        List.takeWhile_append_dropWhile]
  | case3 rest inside after found ih =>
      rw [List.flatMap_cons, ih, Token.chars, blockInside?_spelled found]
      simp
  | case4 rest unclosed ih => rw [List.flatMap_cons, ih]; rfl
  | case5 rest inside after found ih =>
      rw [List.flatMap_cons, ih, Token.chars, literalInside?_spelled found]
      simp
  | case6 rest unclosed ih => rw [List.flatMap_cons, ih]; rfl
  | case7 c rest _ _ _ ih => rw [List.flatMap_cons, ih]; rfl

/-- A block comment ends at the first mark that closes it. -/
theorem blockInside?_first {text inside after : List Char}
    (found : blockInside? text = some (inside, after)) : ¬ ['*', '/'] <:+: inside := by
  fun_induction blockInside? text generalizing inside with
  | case1 => contradiction
  | case2 rest =>
      obtain ⟨rfl, rfl⟩ := Prod.mk.inj (Option.some.inj found)
      decide
  | case3 c rest noEnd ih =>
      obtain ⟨⟨more, later⟩, deeper, made⟩ := Option.map_eq_some_iff.mp found
      obtain ⟨rfl, rfl⟩ := Prod.mk.inj made
      rw [pair_infix_cons]
      rintro (⟨rfl, next⟩ | inMore)
      · obtain ⟨further, rfl⟩ := List.head?_eq_some_iff.mp next
        exact noEnd _ rfl (blockInside?_spelled deeper)
      · exact ih deeper inMore

theorem blockInside?_eq_none {text : List Char} (unclosed : blockInside? text = none) :
    ¬ ['*', '/'] <:+: text := by
  fun_induction blockInside? text with
  | case1 => decide
  | case2 rest => contradiction
  | case3 c rest noEnd ih =>
      rw [pair_infix_cons]
      rintro (⟨rfl, next⟩ | later)
      · obtain ⟨further, rfl⟩ := List.head?_eq_some_iff.mp next
        exact noEnd _ rfl rfl
      · exact ih (Option.map_eq_none_iff.mp unclosed) later

/-! ## Line comments -/

theorem dropLineComments_cons {c : Char} {rest : List Char}
    (other : c = '-' → rest.head? ≠ some '-') :
    dropLineComments false (c :: rest) = c :: dropLineComments false rest := by
  have noComment : ¬(c == '-' && rest.head? == some '-') = true := by
    rw [Bool.and_eq_true, beq_iff_eq, beq_iff_eq]
    exact fun comment => other comment.1 comment.2
  rw [dropLineComments, Bool.false_or, if_neg noComment, ite_self]

theorem dropLineComments_true_cons {c : Char} (notFeed : c ≠ '\n') (rest : List Char) :
    dropLineComments true (c :: rest) = dropLineComments true rest := by
  rw [dropLineComments, if_neg (by simpa using notFeed), Bool.true_or, if_pos rfl]

/-- Inside a comment, everything goes up to the end of the line. -/
theorem dropLineComments_true (text : List Char) :
    dropLineComments true text = dropLineComments false (text.dropWhile (· != '\n')) := by
  induction text with
  | nil => rfl
  | cons c rest ih =>
      by_cases feed : c = '\n'
      · subst feed
        rfl
      · rw [dropLineComments_true_cons feed, ih, List.dropWhile_cons_of_pos (by simpa using feed)]

theorem dropLineComments_mark (rest : List Char) :
    dropLineComments false ('-' :: '-' :: rest) = dropLineComments true rest := by
  rfl

/-- Text that shows no mark of a line comment stays. -/
theorem dropLineComments_append {part rest : List Char} (silent : ¬ ['-', '-'] <:+: part)
    (apart : part.getLast? = some '-' → rest.head? ≠ some '-') :
    dropLineComments false (part ++ rest) = part ++ dropLineComments false rest := by
  induction part with
  | nil => rfl
  | cons c more ih =>
      obtain ⟨here, later⟩ := not_or.mp (mt pair_infix_cons.mpr silent)
      rw [List.cons_append, List.cons_append, dropLineComments_cons]
      · refine congrArg _ (ih later fun last => apart ?_)
        rw [List.getLast?_cons, last]
        rfl
      · rintro rfl
        cases more with
        | nil => exact apart rfl
        | cons d further => exact fun next => here ⟨rfl, next⟩

/-- Every two hyphens inside a block comment have the end of their line inside
it as well. -/
def KeepsEnd (inside : List Char) : Prop :=
  ∀ behind, '-' :: '-' :: behind <:+ inside → '\n' ∈ behind

/-- What stands behind the end of such a comment is read on its own. -/
theorem dropLineComments_append_of_keepsEnd {inComment : Bool} {inside rest : List Char}
    (keeps : KeepsEnd inside) (ends : inComment = true → '\n' ∈ inside)
    (apart : rest.head? ≠ some '-') :
    dropLineComments inComment (inside ++ rest) =
      dropLineComments inComment inside ++ dropLineComments false rest := by
  induction inside generalizing inComment with
  | nil =>
      cases inComment with
      | true => exact absurd (ends rfl) List.not_mem_nil
      | false => rfl
  | cons c more ih =>
      have keepsMore : KeepsEnd more :=
        fun behind suffix => keeps behind (suffix.trans (List.suffix_cons c more))
      by_cases feed : c = '\n'
      · subst feed
        exact congrArg _ (ih keepsMore (by simp))
      · have inMore (member : '\n' ∈ c :: more) : '\n' ∈ more :=
          (List.mem_cons.mp member).resolve_left (Ne.symm feed)
        cases inComment with
        | true =>
            rw [List.cons_append, dropLineComments_true_cons feed, dropLineComments_true_cons feed,
              ih keepsMore fun _ => inMore (ends rfl)]
        | false =>
            by_cases mark : c = '-' ∧ more.head? = some '-'
            · obtain ⟨rfl, next⟩ := mark
              obtain ⟨further, rfl⟩ := List.head?_eq_some_iff.mp next
              have later : '\n' ∈ '-' :: further :=
                List.mem_cons_of_mem _ (keeps further (List.suffix_refl _))
              exact @ih true keepsMore fun _ => later
            · have other : c = '-' → more.head? ≠ some '-' := fun hyphen next =>
                mark ⟨hyphen, next⟩
              have otherAppended : c = '-' → (more ++ rest).head? ≠ some '-' := by
                cases more with
                | nil => exact fun _ => apart
                | cons d further => exact other
              rw [List.cons_append, dropLineComments_cons other,
                dropLineComments_cons otherAppended, List.cons_append, ih keepsMore (by simp)]

/-- Of a last line, nothing is left behind two hyphens. -/
theorem dropLineComments_append_mark {inComment : Bool} {front behind : List Char}
    (sameLine : '\n' ∉ behind) :
    dropLineComments inComment (front ++ '-' :: '-' :: behind) =
      dropLineComments inComment (front ++ ['-', '-']) := by
  have gone : dropLineComments true behind = [] := by
    have dropped : behind.dropWhile (· != '\n') = [] := by
      rw [List.dropWhile_eq_nil_iff]
      exact fun c member => by simpa using fun same : c = '\n' => sameLine (same ▸ member)
    rw [dropLineComments_true, dropped]
    rfl
  induction front generalizing inComment with
  | nil =>
      cases inComment with
      | true => exact gone
      | false => exact gone
  | cons c more ih =>
      have sameHead : (more ++ '-' :: '-' :: behind).head? = (more ++ ['-', '-']).head? := by
        cases more <;> rfl
      rw [List.cons_append, List.cons_append, dropLineComments, dropLineComments, sameHead, ih, ih]

theorem head?_dropLineComments {text : List Char} {c : Char} (notFeed : c ≠ '\n') :
    (dropLineComments true text).head? ≠ some c ∧
      ((dropLineComments false text).head? = some c → text.head? = some c) := by
  induction text with
  | nil => exact ⟨by simp [dropLineComments], by simp [dropLineComments]⟩
  | cons d rest ih =>
      by_cases feed : d = '\n'
      · subst feed
        exact ⟨fun same => notFeed (Option.some.inj same).symm, id⟩
      · rw [dropLineComments_true_cons feed]
        refine ⟨ih.1, fun first => ?_⟩
        rw [dropLineComments, if_neg (by simpa using feed), Bool.false_or] at first
        split at first
        · exact absurd first ih.1
        · exact first

/-- Neighbours in what is left were neighbours before, unless a line ends between them. -/
theorem infix_of_dropLineComments {inComment : Bool} {text : List Char} {a b : Char}
    (notFeed : b ≠ '\n') (shown : [a, b] <:+: dropLineComments inComment text) :
    [a, b] <:+: text := by
  induction text generalizing inComment with
  | nil => exact shown
  | cons c rest ih =>
      have kept (shown : [a, b] <:+: c :: dropLineComments false rest) : [a, b] <:+: c :: rest := by
        rw [pair_infix_cons] at shown ⊢
        exact shown.imp (And.imp_right (head?_dropLineComments notFeed).2) ih
      rw [dropLineComments] at shown
      split at shown
      · exact kept shown
      · split at shown
        · exact (ih shown).trans (List.suffix_cons c rest).isInfix
        · exact kept shown

/-- No mark of a line comment is left. -/
theorem not_infix_dropLineComments (inComment : Bool) (text : List Char) :
    ¬ ['-', '-'] <:+: dropLineComments inComment text := by
  induction text generalizing inComment with
  | nil =>
      rw [dropLineComments]
      decide
  | cons c rest ih =>
      rw [dropLineComments]
      split
      · rename_i feed
        rw [eq_of_beq feed, pair_infix_cons]
        rintro (⟨hyphen, -⟩ | later)
        · exact absurd hyphen (by decide)
        · exact ih false later
      · split
        · exact ih true
        · rename_i outside
          rw [Bool.or_eq_true, Bool.and_eq_true, beq_iff_eq, beq_iff_eq, not_or] at outside
          rw [pair_infix_cons]
          rintro (⟨hyphen, next⟩ | later)
          · exact outside.2 ⟨hyphen, (head?_dropLineComments (by decide)).2 next⟩
          · exact ih false later

end Crowsfoot.Sql
