import Crowsfoot.Proofs.Dsl.EnclosedDefaults
import Crowsfoot.Proofs.Sql.Balance

/-!
# Enclosing parentheses

The parentheses at the ends of a default are removed if they belong together.
The scan that decides it keeps the account of literals and open parentheses that
the scan for the end of a body keeps, with the first parenthesis counted in: it
stops at the parenthesis that closes the first one.  So balanced text lets it pass,
and a balanced default loses its parentheses exactly if they enclose all of it.
-/

namespace Crowsfoot.Dsl

open Crowsfoot.Sql (Account Balanced)
open Crowsfoot.Text

/-- The scan takes a character as the account does, as long as the character
does not close the first parenthesis. -/
theorem closesEarly_cons {account next : Account} {c : Char} (step : account.next? c = some next)
    (rest : List Char) :
    closesEarly account.quoted (account.depth + 1) (c :: rest) =
      closesEarly next.quoted (next.depth + 1) rest := by
  rcases account with ⟨quoted, depth⟩
  by_cases quote : c = '\x27'
  · subst quote
    obtain rfl := Option.some.inj step
    rfl
  · cases quoted with
    | true =>
        obtain rfl : ⟨true, depth⟩ = next := by simpa [Account.next?, quote] using step
        simp [closesEarly, quote]
    | false =>
        by_cases opening : c = '('
        · subst opening
          obtain rfl := Option.some.inj step
          rfl
        · by_cases closing : c = ')'
          · subst closing
            cases depth with
            | zero => contradiction
            | succ outer =>
                obtain rfl := Option.some.inj step
                rfl
          · obtain rfl : ⟨false, depth⟩ = next := by
              simpa [Account.next?, quote, opening, closing] using step
            simp [closesEarly, quote, opening, closing]

theorem closesEarly_append {account next : Account} {front : List Char}
    (reached : account.behind? front = some next) (back : List Char) :
    closesEarly account.quoted (account.depth + 1) (front ++ back) =
      closesEarly next.quoted (next.depth + 1) back := by
  induction front generalizing account with
  | nil =>
      obtain rfl := Option.some.inj reached
      rfl
  | cons c rest ih =>
      rw [Account.behind?_cons, Option.bind_eq_some_iff] at reached
      obtain ⟨middle, step, later⟩ := reached
      rw [List.cons_append, closesEarly_cons step, ih later]

/-- Balanced text closes no parenthesis around it. -/
theorem KeepsDepth.of_balanced {text : List Char} (balanced : Balanced true text) :
    KeepsDepth text :=
  fun depth rest => closesEarly_append (balanced.behind? depth) rest

/-- A text that goes on behind the parenthesis that closes its first one. -/
theorem closesEarly_of_balanced {first after : List Char} (balanced : Balanced true first)
    (goesOn : after ≠ []) : closesEarly false 0 ('(' :: (first ++ ')' :: after)) = true := by
  have passed : closesEarly false 0 ('(' :: (first ++ ')' :: after)) =
      closesEarly false 1 (')' :: after) :=
    KeepsDepth.of_balanced balanced 0 (')' :: after)
  rw [passed]
  simp [closesEarly, goesOn]

theorem stripParens_of_closesEarly {text : List Char} (early : closesEarly false 0 text = true) :
    stripParens text = text := by
  simp [stripParens, early]

/-- What is left between two parentheses is shorter than the text with them. -/
theorem strip_ne_enclosed (inside : List Char) : strip inside ≠ '(' :: (inside ++ [')']) := by
  intro same
  have shorter := length_trim_le isBlank inside
  have length := congrArg List.length same
  rw [strip] at length
  simp only [List.length_cons, List.length_append, List.length_nil] at length
  omega

/-- A balanced text that changes is what two parentheses enclose. -/
theorem exists_inside_of_stripParens_ne {text : List Char} (balanced : Balanced true text)
    (changed : stripParens text ≠ text) :
    ∃ inside, Balanced true inside ∧ text = '(' :: (inside ++ [')']) := by
  have begins : text.head? = some '(' := by
    by_contra other
    exact changed (by simp [stripParens, hasOuterParens, other])
  cases balanced with
  | nil => contradiction
  | sign plain =>
      obtain rfl := Option.some.inj begins
      contradiction
  | literal => contradiction
  | @group _ inside rest within _ =>
      by_cases goesOn : rest = []
      · subst goesOn
        exact ⟨inside, within, rfl⟩
      · exact absurd (stripParens_of_closesEarly (closesEarly_of_balanced within goesOn)) changed

/-- Parentheses around a balanced text are removed with the blanks inside of them.
If the first one is closed before the last one is opened, nothing changes, whatever
stands between and inside of them.  So a balanced text changes exactly if one pair
of parentheses encloses all of it. -/
theorem stripParens_balanced :
    (∀ inside, Balanced true inside → stripParens ('(' :: (inside ++ [')'])) = strip inside) ∧
      (∀ first between last, Balanced true first →
        stripParens ('(' :: (first ++ ')' :: (between ++ '(' :: (last ++ [')'])))) =
          '(' :: (first ++ ')' :: (between ++ '(' :: (last ++ [')'])))) ∧
      ∀ text, Balanced true text →
        (stripParens text ≠ text ↔
          ∃ inside, Balanced true inside ∧ text = '(' :: (inside ++ [')'])) := by
  refine ⟨fun _ balanced => stripParens_enclosed (KeepsDepth.of_balanced balanced), ?_, ?_⟩
  · intro first between last balanced
    exact stripParens_of_closesEarly (closesEarly_of_balanced balanced (by simp))
  · intro text balanced
    refine ⟨exists_inside_of_stripParens_ne balanced, ?_⟩
    rintro ⟨inside, within, rfl⟩
    rw [stripParens_enclosed (KeepsDepth.of_balanced within)]
    exact strip_ne_enclosed inside

/-- A parenthesis in a literal closes nothing; a sum of two terms in parentheses
stays as it is. -/
theorem stripParens_balanced_sum :
    Balanced true " upper('x)') ".toList ∧
      stripParens "( upper('x)') )".toList = "upper('x)')".toList ∧
      Balanced true "a".toList ∧ stripParens "(a) + (b)".toList = "(a) + (b)".toList ∧
      Balanced true "(a) + (b)".toList ∧
      ¬∃ inside, Balanced true inside ∧ "(a) + (b)".toList = '(' :: (inside ++ [')']) := by
  obtain ⟨removed, kept, changes⟩ := stripParens_balanced
  have call : Balanced true " upper('x)') ".toList := by decide
  have term : Balanced true "a".toList := by decide
  have sum : Balanced true "(a) + (b)".toList := by decide
  have unchanged : stripParens "(a) + (b)".toList = "(a) + (b)".toList :=
    kept "a".toList " + ".toList "b".toList term
  refine ⟨call, removed _ call, term, unchanged, sum, ?_⟩
  rw [← changes _ sum]
  exact not_not_intro unchanged

end Crowsfoot.Dsl
