import Mathlib.Data.List.Infix
import Crowsfoot.Proofs.Sql.Tokens

/-!
# Stripping comments token by token

Where no literal shows a mark of a comment, and every block comment keeps its
end, stripping removes the comments of a text and nothing else.
-/

namespace Crowsfoot.Sql

theorem afterBlockComment?_append {inside : List Char} (noEnd : ¬ ['*', '/'] <:+: inside)
    (rest : List Char) : afterBlockComment? (inside ++ '*' :: '/' :: rest) = some rest := by
  induction inside with
  | nil => rfl
  | cons c more ih =>
      obtain ⟨here, later⟩ := not_or.mp (mt pair_infix_cons.mpr noEnd)
      rw [List.cons_append, afterBlockComment?, ih later]
      rintro further rfl spelled
      cases more with
      | nil => exact absurd (List.cons.inj spelled).1 (by decide)
      | cons d others => exact here ⟨rfl, congrArg some (List.cons.inj spelled).1⟩

theorem afterBlockComment?_eq_none_iff {text : List Char} :
    afterBlockComment? text = none ↔ ¬ ['*', '/'] <:+: text := by
  fun_induction afterBlockComment? text with
  | case1 => exact iff_of_true rfl (by decide)
  | case2 rest =>
      exact iff_of_false (by simp) (not_not.mpr (List.prefix_append ['*', '/'] rest).isInfix)
  | case3 c rest noEnd ih =>
      rw [ih, pair_infix_cons, not_or, iff_and_self]
      rintro - ⟨rfl, next⟩
      obtain ⟨further, rfl⟩ := List.head?_eq_some_iff.mp next
      exact noEnd further rfl rfl

theorem dropBlockComments_of_unclosed {text : List Char} (unclosed : ¬ ['*', '/'] <:+: text) :
    dropBlockComments text = text := by
  fun_induction dropBlockComments text with
  | case1 => rfl
  | case2 rest after closed ih =>
      have noEnd : ¬ ['*', '/'] <:+: rest :=
        fun inRest => unclosed (inRest.trans (List.suffix_append ['/', '*'] rest).isInfix)
      rw [afterBlockComment?_eq_none_iff.mpr noEnd] at closed
      contradiction
  | case3 rest _ => rfl
  | case4 c rest _ ih =>
      exact congrArg _ (ih fun later => unclosed (later.trans (List.suffix_cons c rest).isInfix))

theorem dropBlockComments_cons {c : Char} {rest : List Char}
    (unclosed : c = '/' → ∀ behind, rest = '*' :: behind → ¬ ['*', '/'] <:+: behind) :
    dropBlockComments (c :: rest) = c :: dropBlockComments rest := by
  by_cases begins : c = '/' ∧ ∃ behind, rest = '*' :: behind
  · obtain ⟨rfl, behind, rfl⟩ := begins
    have noEnd := unclosed rfl behind rfl
    have kept : dropBlockComments ('*' :: behind) = '*' :: dropBlockComments behind := by
      rw [dropBlockComments]
      simp
    rw [kept, dropBlockComments_of_unclosed noEnd, dropBlockComments]
    split
    · rename_i closed
      rw [afterBlockComment?_eq_none_iff.mpr noEnd] at closed
      contradiction
    · rfl
  · rw [dropBlockComments]
    exact fun behind slash spelled => begins ⟨slash, behind, spelled⟩

/-- Text stays if none of the comments that begin in it is closed. -/
theorem dropBlockComments_append {part rest : List Char}
    (unclosed : ∀ behind, '/' :: '*' :: behind <:+ part → ¬ ['*', '/'] <:+: behind ++ rest)
    (apart : part.getLast? = some '/' → rest.head? ≠ some '*') :
    dropBlockComments (part ++ rest) = part ++ dropBlockComments rest := by
  induction part with
  | nil => rfl
  | cons c more ih =>
      rw [List.cons_append, List.cons_append, dropBlockComments_cons]
      · refine congrArg _ (ih (fun behind suffix => ?_) fun last => apart ?_)
        · exact unclosed behind (suffix.trans (List.suffix_cons c more))
        · rw [List.getLast?_cons, last]
          rfl
      · rintro rfl behind spelled
        cases more with
        | nil =>
            refine absurd ?_ (apart rfl)
            rw [show rest = '*' :: behind from spelled]
            rfl
        | cons d others =>
            obtain ⟨rfl, rfl⟩ := List.cons.inj spelled
            exact unclosed others (List.suffix_refl _)

/-- A text without block comments shows the mark of one only if nothing closes it. -/
theorem not_infix_of_dropBlockComments {text behind : List Char}
    (same : dropBlockComments text = text) (suffix : '/' :: '*' :: behind <:+ text) :
    ¬ ['*', '/'] <:+: behind := by
  intro closing
  fun_induction dropBlockComments text with
  | case1 => exact absurd (List.suffix_nil.mp suffix) (List.cons_ne_nil _ _)
  | case2 rest after closed ih =>
      have shorter := (dropBlockComments_sublist after).length_le
      have less := length_of_afterBlockComment? closed
      rw [same] at shorter
      simp only [List.length_cons] at shorter
      omega
  | case3 rest unclosed =>
      have noEnd := afterBlockComment?_eq_none_iff.mp unclosed
      rcases List.suffix_cons_iff.mp suffix with whole | later
      · obtain rfl : behind = rest := by simpa using whole
        exact noEnd closing
      · rcases List.suffix_cons_iff.mp later with whole | inRest
        · exact absurd (List.cons.inj whole).1 (by decide)
        · have behindMark := List.suffix_append ['/', '*'] behind
          exact noEnd (closing.trans (behindMark.trans inRest).isInfix)
  | case4 c rest noMark ih =>
      rcases List.suffix_cons_iff.mp suffix with whole | later
      · obtain ⟨rfl, rfl⟩ := List.cons.inj whole
        exact noMark behind rfl rfl
      · exact ih (List.cons.inj same).2 later

/-- A line comment goes, up to the end of its line. -/
theorem stripComments_lineComment (rest : List Char) :
    stripComments ('-' :: '-' :: rest) = stripComments (rest.dropWhile (· != '\n')) := by
  rw [stripComments, stripComments, dropLineComments_mark, dropLineComments_true]

/-- A block comment goes if it keeps its end. -/
theorem stripComments_blockComment {inside : List Char} (noEnd : ¬ ['*', '/'] <:+: inside)
    (keeps : KeepsEnd inside) (after : List Char) :
    stripComments ('/' :: '*' :: (inside ++ '*' :: '/' :: after)) = stripComments after := by
  have closing : dropLineComments false ('*' :: '/' :: after) =
      '*' :: '/' :: dropLineComments false after := by
    rw [dropLineComments_cons (by simp), dropLineComments_cons (by simp)]
  have noEndLeft : ¬ ['*', '/'] <:+: dropLineComments false inside :=
    mt (infix_of_dropLineComments (by decide)) noEnd
  have closed := afterBlockComment?_append noEndLeft (dropLineComments false after)
  rw [stripComments, dropLineComments_cons (by simp), dropLineComments_cons (by simp),
    dropLineComments_append_of_keepsEnd keeps (by simp) (by simp), closing, dropBlockComments]
  split
  · rename_i found
    obtain rfl := Option.some.inj (closed.symm.trans found)
    rfl
  · rename_i found
    rw [closed] at found
    contradiction

/-- A block comment that does not keep its end leaves at least its beginning. -/
theorem stripComments_blockComment_ne_nil {inside : List Char}
    (noEnd : ¬ ['*', '/'] <:+: inside) (cut : ¬KeepsEnd inside) :
    stripComments ('/' :: '*' :: (inside ++ ['*', '/'])) ≠ [] := by
  simp only [KeepsEnd, not_forall] at cut
  obtain ⟨behind, ⟨front, rfl⟩, sameLine⟩ := cut
  have sameLineClosed : '\n' ∉ behind ++ ['*', '/'] := by simpa using sameLine
  have left : dropLineComments false (front ++ '-' :: '-' :: behind ++ ['*', '/']) =
      dropLineComments false (front ++ '-' :: '-' :: behind) := by
    rw [List.append_assoc, List.cons_append, List.cons_append,
      dropLineComments_append_mark sameLineClosed, dropLineComments_append_mark sameLine]
  have noEndLeft : ¬ ['*', '/'] <:+: dropLineComments false (front ++ '-' :: '-' :: behind) :=
    mt (infix_of_dropLineComments (by decide)) noEnd
  rw [stripComments, dropLineComments_cons (by simp), dropLineComments_cons (by simp), left,
    dropBlockComments_cons]
  · exact List.cons_ne_nil _ _
  · rintro - behind spelled
    exact (List.cons.inj spelled).2 ▸ noEndLeft

/-- Text in which no comment begins stays. -/
theorem stripComments_append {part rest : List Char} (silent : ¬ ['-', '-'] <:+: part)
    (unclosed : ∀ behind, '/' :: '*' :: behind <:+ part →
      ¬ ['*', '/'] <:+: behind ++ dropLineComments false rest)
    (apart : ∀ c ∈ part.getLast?, c ∉ commentSigns) :
    stripComments (part ++ rest) = part ++ stripComments rest := by
  have noHyphen : part.getLast? = some '-' → rest.head? ≠ some '-' :=
    fun last => absurd (by decide) (apart '-' last)
  have noSlash : part.getLast? = some '/' → (dropLineComments false rest).head? ≠ some '*' :=
    fun last => absurd (by decide) (apart '/' last)
  rw [stripComments, dropLineComments_append silent noHyphen,
    dropBlockComments_append unclosed noSlash, stripComments]

/-- A character that begins no comment stays. -/
theorem stripComments_cons {c : Char} {rest : List Char}
    (noLine : c = '-' → rest.head? ≠ some '-')
    (noBlock : c = '/' → ∀ behind, rest = '*' :: behind → ¬ ['*', '/'] <:+: behind) :
    stripComments (c :: rest) = c :: stripComments rest := by
  rw [stripComments, dropLineComments_cons noLine, dropBlockComments_cons, stripComments]
  rintro slash behind spelled
  have first : (dropLineComments false rest).head? = some '*' := by
    rw [spelled]
    rfl
  obtain ⟨more, rfl⟩ :=
    List.head?_eq_some_iff.mp ((head?_dropLineComments (by decide)).2 first)
  rw [dropLineComments_cons (by simp)] at spelled
  obtain rfl := (List.cons.inj spelled).2
  exact mt (infix_of_dropLineComments (by decide)) (noBlock slash more rfl)

/-! ## Tokens that are told apart -/

/-- The text of some tokens without the line comments among them. -/
def outsideLines (tokens : List Token) : List Char :=
  tokens.flatMap Token.charsOutsideLines

/-- The text of some tokens without the comments among them. -/
def outsideComments (tokens : List Token) : List Char :=
  tokens.flatMap Token.charsOutsideComments

/-- What a token needs in order to be told apart from the text around it.  A
literal shows no line comment and no block comment that is closed behind its
mark, in the literal or in what follows; a block comment keeps its end. -/
def Token.Stands (later : List Token) : Token → Prop
  | literal inside =>
      ¬ ['-', '-'] <:+: (literal inside).chars ∧
        ∀ behind, '/' :: '*' :: behind <:+ (literal inside).chars →
          ¬ ['*', '/'] <:+: behind ++ outsideLines later
  | lineComment _ => True
  | blockComment inside => KeepsEnd inside
  | other _ => True

theorem forall_behind_iff {a b : Char} {text : List Char} {p : List Char → Prop} :
    (∀ behind, a :: b :: behind <:+ text → p behind) ↔
      ∀ suffix ∈ text.tails, [a, b] <+: suffix → p (suffix.drop 2) := by
  refine ⟨fun each suffix member begins => ?_, fun each behind suffix => ?_⟩
  · obtain ⟨behind, rfl⟩ := begins
    exact each behind ((List.mem_tails _ _).mp member)
  · exact each _ ((List.mem_tails _ _).mpr suffix) (List.prefix_append [a, b] behind)

instance (inside : List Char) : Decidable (KeepsEnd inside) :=
  decidable_of_iff' _ forall_behind_iff

instance (later : List Token) : (token : Token) → Decidable (token.Stands later)
  | .literal _ => decidable_of_iff' _ (and_congr_right' forall_behind_iff)
  | .lineComment _ => .isTrue trivial
  | .blockComment inside => inferInstanceAs (Decidable (KeepsEnd inside))
  | .other _ => .isTrue trivial

/-- Whether all tokens are told apart from the text around them. -/
def Strippable : List Token → Prop
  | [] => True
  | token :: later => token.Stands later ∧ Strippable later

instance : (tokens : List Token) → Decidable (Strippable tokens)
  | [] => .isTrue trivial
  | token :: later =>
      have := instDecidableStrippable later
      inferInstanceAs (Decidable (token.Stands later ∧ Strippable later))

/-- Whether no token is a block comment. -/
def WithoutBlocks (tokens : List Token) : Prop :=
  ∀ inside, .blockComment inside ∉ tokens

theorem WithoutBlocks.tail {token : Token} {later : List Token}
    (without : WithoutBlocks (token :: later)) : WithoutBlocks later :=
  fun inside member => without inside (List.mem_cons_of_mem _ member)

theorem withoutBlocks_of_outsideLines {tokens : List Token}
    (noEnd : ¬ ['*', '/'] <:+: outsideLines tokens) : WithoutBlocks tokens := by
  intro inside member
  obtain ⟨front, back, rfl⟩ := List.append_of_mem member
  refine noEnd ⟨outsideLines front ++ '/' :: '*' :: inside, outsideLines back, ?_⟩
  simp [outsideLines, Token.charsOutsideLines, Token.chars]

section Reading

variable {c : Char} {rest inside after : List Char}

theorem literalInside?_chars (found : literalInside? rest = some (inside, after)) :
    '\x27' :: rest = (Token.literal inside).chars ++ after := by
  rw [literalInside?_spelled found, Token.chars, List.cons_append, List.append_assoc]
  rfl

theorem getLast?_literal : (Token.literal inside).chars.getLast? = some '\x27' := by
  rw [Token.chars, List.getLast?_cons, List.getLast?_append]
  rfl

theorem head?_ne_of_noLine (noLine : ∀ further, c = '-' → rest = '-' :: further → False) :
    c = '-' → rest.head? ≠ some '-' := by
  intro hyphen next
  obtain ⟨further, spelled⟩ := List.head?_eq_some_iff.mp next
  exact noLine further hyphen spelled

end Reading

/-- Without block comments, the line comments go and nothing else does. -/
theorem dropLineComments_tokens {text : List Char} (strippable : Strippable (tokens text))
    (without : WithoutBlocks (tokens text)) :
    dropLineComments false text = outsideLines (tokens text) := by
  fun_induction tokens text with
  | case1 => rfl
  | case2 rest ih =>
      rw [dropLineComments_mark, dropLineComments_true, ih strippable.2 without.tail]
      rfl
  | case3 rest inside after found ih => exact absurd List.mem_cons_self (without inside)
  | case4 rest unclosed ih =>
      rw [dropLineComments_cons (by simp), ih strippable.2 without.tail]
      rfl
  | case5 rest inside after found ih =>
      rw [literalInside?_chars found, dropLineComments_append strippable.1.1
        (by simp [getLast?_literal]), ih strippable.2 without.tail]
      rfl
  | case6 rest unclosed ih =>
      rw [dropLineComments_cons (by simp), ih strippable.2 without.tail]
      rfl
  | case7 c rest noLine _ _ ih =>
      rw [dropLineComments_cons (head?_ne_of_noLine noLine), ih strippable.2 without.tail]
      rfl

theorem stripComments_of_strippable {text : List Char} (strippable : Strippable (tokens text)) :
    stripComments text = outsideComments (tokens text) := by
  fun_induction tokens text with
  | case1 => simp [stripComments, dropLineComments, dropBlockComments, outsideComments]
  | case2 rest ih =>
      rw [stripComments_lineComment, ih strippable.2]
      rfl
  | case3 rest inside after found ih =>
      rw [blockInside?_spelled found,
        stripComments_blockComment (blockInside?_first found) strippable.1, ih strippable.2]
      rfl
  | case4 rest unclosed ih =>
      have noEnd := blockInside?_eq_none unclosed
      rw [stripComments_cons (by simp), ih strippable.2]
      · rfl
      · rintro - behind spelled
        exact (List.cons.inj spelled).2 ▸ noEnd
  | case5 rest inside after found ih =>
      obtain ⟨⟨silent, unclosed⟩, strippableLater⟩ := strippable
      have openLeft : ∀ behind, '/' :: '*' :: behind <:+ (Token.literal inside).chars →
          ¬ ['*', '/'] <:+: behind ++ dropLineComments false after := by
        intro behind suffix
        -- a block comment would close the mark, so that there is none behind it
        have noEnd := unclosed behind suffix
        have without := withoutBlocks_of_outsideLines fun later =>
          noEnd (later.trans (List.suffix_append behind _).isInfix)
        rwa [dropLineComments_tokens strippableLater without]
      rw [literalInside?_chars found, stripComments_append silent openLeft
        (by simp [getLast?_literal, commentSigns]), ih strippableLater]
      rfl
  | case6 rest unclosed ih =>
      rw [stripComments_cons (by simp) (by simp), ih strippable.2]
      rfl
  | case7 c rest noLine noBlock _ ih =>
      have kept := stripComments_cons (head?_ne_of_noLine noLine)
        fun slash behind spelled => (noBlock behind slash spelled).elim
      rw [kept, ih strippable.2]
      rfl

theorem outsideLines_eq {tokens : List Token} (without : WithoutBlocks tokens) :
    outsideLines tokens = outsideComments tokens := by
  induction tokens with
  | nil => rfl
  | cons token later ih =>
      have same : token.charsOutsideLines = token.charsOutsideComments := by
        cases token with
        | blockComment inside => exact absurd List.mem_cons_self (without inside)
        | _ => rfl
      rw [outsideLines, outsideComments, List.flatMap_cons, List.flatMap_cons, same]
      exact congrArg _ (ih without.tail)

theorem dropLineComments_append_sublist (part : List Char) {rest left : List Char}
    (ofRest : ∀ inComment, (dropLineComments inComment rest).Sublist left) (inComment : Bool) :
    (dropLineComments inComment (part ++ rest)).Sublist (part ++ left) := by
  induction part generalizing inComment with
  | nil => exact ofRest inComment
  | cons c more ih =>
      rw [List.cons_append, List.cons_append, dropLineComments]
      split
      · exact (ih false).cons_cons c
      · split
        · exact (ih true).cons c
        · exact (ih false).cons_cons c

/-- Whatever literals show, nothing is left of the line comments. -/
theorem dropLineComments_tokens_sublist {text : List Char} (without : WithoutBlocks (tokens text))
    (inComment : Bool) :
    (dropLineComments inComment text).Sublist (outsideComments (tokens text)) := by
  fun_induction tokens text generalizing inComment with
  | case1 => exact List.Sublist.slnil
  | case2 rest ih =>
      have dropped : dropLineComments inComment ('-' :: '-' :: rest) =
          dropLineComments false (rest.dropWhile (· != '\n')) := by
        rw [← dropLineComments_true]
        cases inComment <;> rfl
      rw [dropped]
      exact ih without.tail false
  | case3 rest inside after found ih => exact absurd List.mem_cons_self (without inside)
  | case4 rest unclosed ih =>
      exact dropLineComments_append_sublist ['/'] (ih without.tail) inComment
  | case5 rest inside after found ih =>
      rw [literalInside?_chars found]
      exact dropLineComments_append_sublist _ (ih without.tail) inComment
  | case6 rest unclosed ih =>
      exact dropLineComments_append_sublist ['\x27'] (ih without.tail) inComment
  | case7 c rest _ _ _ ih => exact dropLineComments_append_sublist [c] (ih without.tail) inComment

theorem strippable_of_outsideComments {tokens : List Token} (without : WithoutBlocks tokens)
    (silent : ¬ ['-', '-'] <:+: outsideComments tokens)
    (unclosed : ∀ behind, '/' :: '*' :: behind <:+ outsideComments tokens →
      ¬ ['*', '/'] <:+: behind) : Strippable tokens := by
  induction tokens with
  | nil => trivial
  | cons token later ih =>
      have spelled : outsideComments (token :: later) =
          token.charsOutsideComments ++ outsideComments later := List.flatMap_cons
      rw [spelled] at silent unclosed
      have laterSuffix := List.suffix_append token.charsOutsideComments (outsideComments later)
      refine ⟨?_, ih without.tail (fun shown => silent (shown.trans laterSuffix.isInfix))
        fun behind suffix => unclosed behind (suffix.trans laterSuffix)⟩
      cases token with
      | lineComment inside => trivial
      | blockComment inside => exact absurd List.mem_cons_self (without inside)
      | other c => trivial
      | literal inside =>
          refine ⟨fun shown => silent (shown.trans (List.prefix_append _ _).isInfix), ?_⟩
          rintro behind ⟨front, literal⟩
          rw [outsideLines_eq without.tail]
          refine unclosed _ ⟨front, ?_⟩
          rw [← List.cons_append, ← List.cons_append, ← List.append_assoc, literal]
          rfl

/-- A text without block comments loses more than its comments wherever a token is
not told apart. -/
theorem strippable_of_withoutBlocks {text : List Char} (without : WithoutBlocks (tokens text))
    (same : stripComments text = outsideComments (tokens text)) : Strippable (tokens text) := by
  have fewer : (stripComments text).Sublist (dropLineComments false text) :=
    dropBlockComments_sublist _
  rw [same] at fewer
  have lines : dropLineComments false text = outsideComments (tokens text) :=
    (dropLineComments_tokens_sublist without false).antisymm fewer
  have blocks : dropBlockComments (outsideComments (tokens text)) =
      outsideComments (tokens text) := by
    rw [← lines]
    exact same.trans lines.symm
  refine strippable_of_outsideComments without ?_ fun _ => not_infix_of_dropBlockComments blocks
  rw [← lines]
  exact not_infix_dropLineComments false text

/-! ## Literals that show line comments -/

/-- Two hyphens that are found are found first somewhere. -/
theorem exists_first_hyphens {text : List Char} (shown : ['-', '-'] <:+: text) :
    ∃ front behind, text = front ++ '-' :: '-' :: behind ∧ ¬ ['-', '-'] <:+: front ∧
      front.getLast? ≠ some '-' := by
  induction text with
  | nil => exact absurd (List.infix_nil.mp shown) (List.cons_ne_nil _ _)
  | cons c rest ih =>
      by_cases here : c = '-' ∧ rest.head? = some '-'
      · obtain ⟨rfl, next⟩ := here
        obtain ⟨behind, rfl⟩ := List.head?_eq_some_iff.mp next
        exact ⟨[], behind, rfl, by decide, by simp⟩
      · obtain ⟨front, behind, rfl, silent, last⟩ :=
          ih ((pair_infix_cons.mp shown).resolve_left here)
        refine ⟨c :: front, behind, rfl, ?_, ?_⟩
        · rw [pair_infix_cons, not_or]
          refine ⟨fun first => here ⟨first.1, ?_⟩, silent⟩
          rw [List.head?_append, first.2]
          rfl
        · cases front with
          | nil => exact fun hyphen => here ⟨Option.some.inj hyphen, rfl⟩
          | cons d others => rwa [List.getLast?_cons_cons]

/-- A literal that shows a line comment is cut there. -/
theorem stripComments_literal_ne {inside after left : List Char}
    (shown : ['-', '-'] <:+: (Token.literal inside).chars)
    (noMark : ¬ ['/', '*'] <:+: (Token.literal inside).chars) :
    stripComments ((Token.literal inside).chars ++ after) ≠
      (Token.literal inside).chars ++ left := by
  obtain ⟨front, behind, spelled, silent, last⟩ := exists_first_hyphens shown
  have cut : dropLineComments false (front ++ '-' :: '-' :: (behind ++ after)) =
      front ++ dropLineComments true (behind ++ after) := by
    rw [dropLineComments_append silent fun hyphen => absurd hyphen last, dropLineComments_mark]
  have noHead {c : Char} (notFeed : c ≠ '\n') :
      (dropLineComments true (behind ++ after)).head? ≠ some c :=
    (head?_dropLineComments notFeed).1
  have noMarkFront : ¬ ['/', '*'] <:+: front := fun inFront =>
    noMark (spelled ▸ inFront.trans (List.prefix_append front _).isInfix)
  have kept : stripComments ((Token.literal inside).chars ++ after) =
      front ++ dropBlockComments (dropLineComments true (behind ++ after)) := by
    rw [spelled, List.append_assoc, List.cons_append, List.cons_append, stripComments, cut]
    refine dropBlockComments_append (fun mark suffix => ?_) fun _ => noHead (by decide)
    exact absurd ((List.prefix_append ['/', '*'] mark).isInfix.trans suffix.isInfix) noMarkFront
  rw [kept, spelled, List.append_assoc]
  intro same
  have behindFront := List.append_cancel_left same
  cases line : dropLineComments true (behind ++ after) with
  | nil =>
      rw [line, dropBlockComments] at behindFront
      contradiction
  | cons c more =>
      obtain rfl : c = '\n' := by
        by_contra notFeed
        exact noHead notFeed (by rw [line]; rfl)
      rw [line, dropBlockComments_cons (by simp)] at behindFront
      exact absurd (List.cons.inj behindFront).1 (by decide)

/-- Whether no literal shows a block comment, and every block comment keeps its
end but for one that ends the text. -/
def Unmasked (tokens : List Token) : Prop :=
  (∀ inside, .literal inside ∈ tokens → ¬ ['/', '*'] <:+: (Token.literal inside).chars) ∧
    ∀ inside, .blockComment inside ∈ tokens.dropLast → KeepsEnd inside

theorem Unmasked.tail {token : Token} {later : List Token} (unmasked : Unmasked (token :: later)) :
    Unmasked later := by
  refine ⟨fun inside member => unmasked.1 inside (List.mem_cons_of_mem _ member), ?_⟩
  intro inside member
  have nonempty : later ≠ [] := by
    rintro rfl
    contradiction
  apply unmasked.2 inside
  rw [List.dropLast_cons_of_ne_nil nonempty]
  exact List.mem_cons_of_mem _ member

theorem Unmasked.keepsEnd {inside : List Char} {later : List Token}
    (unmasked : Unmasked (.blockComment inside :: later)) (nonempty : later ≠ []) :
    KeepsEnd inside := by
  apply unmasked.2 inside
  rw [List.dropLast_cons_of_ne_nil nonempty]
  exact List.mem_cons_self

/-- Such a text keeps something of a comment, or loses something of a literal,
wherever a token is not told apart. -/
theorem strippable_of_unmasked {text : List Char} (unmasked : Unmasked (tokens text))
    (same : stripComments text = outsideComments (tokens text)) : Strippable (tokens text) := by
  fun_induction tokens text with
  | case1 => trivial
  | case2 rest ih =>
      rw [stripComments_lineComment] at same
      exact ⟨trivial, ih unmasked.tail same⟩
  | case3 rest inside after found ih =>
      have noEnd := blockInside?_first found
      rw [blockInside?_spelled found] at same
      have keeps : KeepsEnd inside := by
        by_contra cut
        have last : tokens after = [] := by
          by_contra nonempty
          exact cut (unmasked.keepsEnd nonempty)
        have ends := flatMap_chars_tokens after
        rw [last] at same ends
        rw [← ends] at same
        exact stripComments_blockComment_ne_nil noEnd cut same
      rw [stripComments_blockComment noEnd keeps] at same
      exact ⟨keeps, ih unmasked.tail same⟩
  | case4 rest unclosed ih =>
      have noEnd := blockInside?_eq_none unclosed
      rw [stripComments_cons (by simp) fun _ behind spelled =>
        (List.cons.inj spelled).2 ▸ noEnd] at same
      exact ⟨trivial, ih unmasked.tail (List.cons.inj same).2⟩
  | case5 rest inside after found ih =>
      have noMark := unmasked.1 inside List.mem_cons_self
      have noSuffix (behind : List Char) :
          ¬ '/' :: '*' :: behind <:+ (Token.literal inside).chars := fun suffix =>
        noMark ((List.prefix_append ['/', '*'] behind).isInfix.trans suffix.isInfix)
      rw [literalInside?_chars found] at same
      have silent : ¬ ['-', '-'] <:+: (Token.literal inside).chars := fun shown =>
        stripComments_literal_ne shown noMark same
      rw [stripComments_append silent (fun behind suffix => absurd suffix (noSuffix behind))
        (by simp [getLast?_literal, commentSigns])] at same
      exact ⟨⟨silent, fun behind suffix => absurd suffix (noSuffix behind)⟩,
        ih unmasked.tail (List.append_cancel_left same)⟩
  | case6 rest unclosed ih =>
      rw [stripComments_cons (by simp) (by simp)] at same
      exact ⟨trivial, ih unmasked.tail (List.cons.inj same).2⟩
  | case7 c rest noLine noBlock _ ih =>
      rw [stripComments_cons (head?_ne_of_noLine noLine)
        fun slash behind spelled => (noBlock behind slash spelled).elim] at same
      exact ⟨trivial, ih unmasked.tail (List.cons.inj same).2⟩

/-- Where every token is told apart from the text around it, stripping removes
the comments of a text and nothing else.  A text without block comments, or
without marks of them in literals, shows where one is not. -/
theorem stripComments_tokens (text : List Char) :
    (Strippable (tokens text) → stripComments text = outsideComments (tokens text)) ∧
      (WithoutBlocks (tokens text) ∨ Unmasked (tokens text) →
        (stripComments text = outsideComments (tokens text) ↔ Strippable (tokens text))) := by
  refine ⟨stripComments_of_strippable, ?_⟩
  rintro (without | unmasked)
  · exact ⟨strippable_of_withoutBlocks without, stripComments_of_strippable⟩
  · exact ⟨strippable_of_unmasked unmasked, stripComments_of_strippable⟩

/-- A literal, a line comment that shows the mark of a block comment, and a block
comment that shows the mark of a line comment. -/
def remarkedText : String :=
  "'it''s' -- /*\n/* -- two\n*/x"

theorem stripComments_remarkedText : stripComments remarkedText.toList = "'it''s' \nx".toList := by
  have read : tokens remarkedText.toList =
      [.literal "it''s".toList, .other ' ', .lineComment " /*".toList, .other '\n',
        .blockComment " -- two\n".toList, .other 'x'] := by
    cbv
  have stripped := (stripComments_tokens remarkedText.toList).1 (by rw [read]; decide)
  rw [stripped, read]
  rfl

/-- A literal that shows a line comment is cut, two literals that show a block
comment are drawn together, and a block comment with hyphens in its last line
leaves its beginning. -/
theorem stripComments_cutTexts :
    stripComments "'a--b'".toList ≠ outsideComments (tokens "'a--b'".toList) ∧
      stripComments "'/*' '*/'".toList ≠ outsideComments (tokens "'/*' '*/'".toList) ∧
      stripComments "/* -- */".toList ≠ outsideComments (tokens "/* -- */".toList) := by
  refine ⟨?_, ?_, ?_⟩
  all_goals
    cbv
    decide

/-- What one token loses may be made up at others. -/
def restoredText : String :=
  "'/*'/*///*//*/*'/**/"

example :
    stripComments restoredText.toList = outsideComments (tokens restoredText.toList) ∧
      ¬Strippable (tokens restoredText.toList) := by
  have read : tokens restoredText.toList =
      [.literal "/*".toList, .blockComment "///".toList, .blockComment "/*'/*".toList] := by
    cbv
  refine ⟨by cbv, ?_⟩
  rw [read]
  decide

end Crowsfoot.Sql
