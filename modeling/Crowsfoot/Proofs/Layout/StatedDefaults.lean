import Crowsfoot.Layout.Export
import Crowsfoot.Proofs.Dsl.WrittenColumns
import Crowsfoot.Proofs.Dsl.DefaultRule
import Crowsfoot.Proofs.Json.Values

/-!
# Defaults of the export layout

A field of the export layout states its default as a value.  Numbers, truth
values and functions are spelled with letters, digits and a few signs, none of
which cuts a line.  A string is written as its literal, so it stays on its line
if it shows no line boundary.
-/

namespace Crowsfoot

open Crowsfoot.Text Crowsfoot.Dsl
open Json (Value)

/-- The letters, digits and signs of numbers, truth values and functions. -/
def isBare (c : Char) : Bool :=
  c.isAlphanum || ['.', '+', '-', '(', ')'].contains c

theorem isBare_of_isDigit {c : Char} (digit : c.isDigit = true) : isBare c = true := by
  simp [isBare, Char.isAlphanum, digit]

theorem isLineBoundary_of_isBare {c : Char} (bare : isBare c = true) :
    isLineBoundary c = false := by
  simp only [isBare, Bool.or_eq_true, List.contains_iff_mem] at bare
  rcases bare with alphanumeric | sign
  · exact isLineBoundary_of_isWord (isWord_of_isAlphanum alphanumeric)
  · have signs : ∀ c ∈ ['.', '+', '-', '(', ')'], isLineBoundary c = false := by decide
    exact signs c sign

theorem bare_toDigits (n : Nat) : ∀ c ∈ Nat.toDigits 10 n, isBare c = true :=
  fun _ member => isBare_of_isDigit (Json.isAsciiDigit_of_mem_toDigits member)

theorem bare_replicate_zero (count : Nat) : ∀ c ∈ List.replicate count '0', isBare c = true := by
  intro c member
  rw [List.eq_of_mem_replicate member]
  rfl

theorem bare_toString (number : Int) : ∀ c ∈ (toString number).toList, isBare c = true := by
  rw [Json.toList_toString_int_eq, List.forall_mem_append]
  refine ⟨?_, bare_toDigits _⟩
  split
  · decide
  · simp

namespace Decimal.Layout

theorem bare_significant (digits : Nat) : ∀ c ∈ significant digits, isBare c = true := by
  unfold significant
  split
  · decide
  · intro c member
    rw [List.mem_reverse] at member
    exact bare_toDigits digits c (List.mem_reverse.mp ((List.dropWhile_sublist _).subset member))

theorem bare_exponentText (layout : Layout) (exponent : Int) :
    ∀ c ∈ layout.exponentText exponent, isBare c = true := by
  simp only [exponentText, List.forall_mem_cons, List.forall_mem_append]
  refine ⟨rfl, ?_, bare_replicate_zero _, bare_toDigits _⟩
  split <;> rfl

theorem bare_digitsText (layout : Layout) (decimal : Digits) :
    ∀ c ∈ layout.digitsText decimal, isBare c = true := by
  have digits := bare_significant decimal.digits
  have dot : isBare '.' = true := rfl
  unfold digitsText
  dsimp only
  split
  · split
    · simp only [List.forall_mem_cons, List.forall_mem_append]
      exact ⟨rfl, dot, bare_replicate_zero _, digits⟩
    · have whole : ∀ c ∈ (significant decimal.digits).take decimal.point.toNat,
          isBare c = true := fun c member => digits c (List.mem_of_mem_take member)
      split
      · simp only [List.forall_mem_append]
        exact ⟨⟨whole, bare_replicate_zero _⟩, by decide⟩
      · simp only [List.forall_mem_append, List.forall_mem_cons]
        exact ⟨whole, dot, fun c member => digits c (List.mem_of_mem_drop member)⟩
  · rw [List.forall_mem_append]
    refine ⟨?_, bare_exponentText layout _⟩
    split
    · rename_i lead next later spelled
      rw [spelled] at digits
      simp only [List.forall_mem_cons] at digits ⊢
      exact ⟨digits.1, dot, digits.2⟩
    · exact digits

theorem bare_write (x : Float) : ∀ c ∈ (plain.write x).toList, isBare c = true := by
  have signed {negative : Bool} {text : List Char} (bare : ∀ c ∈ text, isBare c = true) :
      ∀ c ∈ (String.ofList (if negative then '-' :: text else text)).toList,
        isBare c = true := by
    rw [String.toList_ofList]
    split
    · rw [List.forall_mem_cons]
      exact ⟨rfl, bare⟩
    · exact bare
  unfold write
  cases Parts.ofFloat x with
  | notANumber => decide
  | infinite negative => exact signed (by decide)
  | zero negative => exact signed (by decide)
  | finite negative interval => exact signed (bare_digitsText plain _)

end Decimal.Layout

/-! ## Written forms -/

namespace Dsl

theorem mem_of_mem_bareExpression {expression : String} {c : Char}
    (member : c ∈ bareExpression expression) : c ∈ expression.toList := by
  rw [bareExpression, stripParens] at member
  split at member
  · have inside : c ∈ inner (strip expression.toList) := mem_of_mem_trim member
    exact mem_of_mem_trim (List.mem_of_mem_drop ((List.dropLast_subset _) inside))
  · exact mem_of_mem_trim member

/-- The literal of a bare text stays on one line. -/
theorem quote_oneLine_of_bare {text : List Char} (bare : ∀ c ∈ text, isBare c = true) :
    ∀ c ∈ (Json.quote (String.ofList text)).toList, isLineBoundary c = false := by
  have boundaries : ∀ c ∈ visibleBoundaries, isBare c = false := by decide
  rw [Json.toList_quote, String.toList_ofList]
  refine quoteChars_oneLine fun c member visible => ?_
  exact Bool.false_ne_true ((boundaries c visible).symm.trans (bare c member))

/-- Nothing in a bare text is in quotes. -/
theorem unquote?_of_bare {text : List Char} (bare : ∀ c ∈ text, isBare c = true) :
    unquote? text = none := by
  rw [Option.eq_none_iff_forall_ne_some]
  intro content found
  obtain ⟨mark, quoted⟩ := exists_unquote?_iff.mp ⟨content, found⟩
  have marks : ∀ mark ∈ quoteMarks, isBare mark = false := by decide
  have isBareMark := bare mark (List.mem_of_mem_head? quoted.begins)
  exact Bool.false_ne_true ((marks mark quoted.isMark).symm.trans isBareMark)

/-- A bare expression is written on one line. -/
theorem oneLine_of_bare {expression text : String}
    (bare : ∀ c ∈ expression.toList, isBare c = true)
    (written : defaultArgument? expression = some text) :
    ∀ c ∈ text.toList, isLineBoundary c = false := by
  have bareText : ∀ c ∈ bareExpression expression, isBare c = true :=
    fun c member => bare c (mem_of_mem_bareExpression member)
  have literal := quote_oneLine_of_bare bareText
  have words : ∀ word ∈ defaultWords, ∀ c ∈ word.toList, isLineBoundary c = false := by decide
  have word {one : String} (same : some one = some text) (member : one ∈ defaultWords) :
      ∀ c ∈ text.toList, isLineBoundary c = false :=
    Option.some.inj same ▸ words one member
  unfold defaultArgument? at written
  simp only [unquote?_of_bare bareText] at written
  split at written
  · exact word written (by decide)
  split at written
  · exact word written (by decide)
  split at written
  · exact word written (by decide)
  split at written
  · rename_i boolean
    simp only [Bool.or_eq_true, beq_iff_eq] at boolean
    rcases boolean with same | same
    · exact word (same ▸ written) (by decide)
    · exact word (same ▸ written) (by decide)
  split at written
  · exact absurd written (Option.some_ne_none _).symm
  split at written
  · rw [← Option.some.inj written, String.toList_ofList]
    exact fun c member => isLineBoundary_of_isBare (bareText c member)
  split at written
  · have signs : ∀ sign ∈ ["dbgenerated(", ")"], ∀ c ∈ sign.toList,
        isLineBoundary c = false := by
      decide
    rw [← Option.some.inj written, String.toList_append, String.toList_append,
      List.forall_mem_append, List.forall_mem_append]
    exact ⟨⟨signs _ (by simp), literal⟩, signs _ (by simp)⟩
  · exact Option.some.inj written ▸ literal

end Dsl

namespace Layout.Export

/-- The string that a field states as its default. -/
def statedString? (field : Value) : Option String :=
  match field.get "default" with
  | .string text => some text
  | _ => none

/-- A field states a string, or its default is bare. -/
theorem defaultOf_cases {field : Value} {expression : String}
    (stated : defaultOf field = some expression) :
    (∀ c ∈ expression.toList, isBare c = true) ∨
      ∃ text, statedString? field = some text ∧ expression = Json.quoteAscii text := by
  have functions : ∀ name ∈ defaultFunctions, ∀ c ∈ (name ++ "()").toList, isBare c = true := by
    decide
  have unstated {condition : Bool}
      (keyed : (if condition then some "autoincrement()" else none) = some expression) :
      ∀ c ∈ expression.toList, isBare c = true := by
    split at keyed
    · rw [← Option.some.inj keyed]
      exact functions "autoincrement" (by decide)
    · contradiction
  unfold defaultOf at stated
  unfold statedString?
  cases given : field.get "default" with
  | null => exact .inl (unstated (by simpa only [given] using stated))
  | array items => exact .inl (unstated (by simpa only [given] using stated))
  | bool truth =>
      simp only [given, Option.some.injEq] at stated
      subst stated
      cases truth <;> exact .inl (by decide)
  | int number =>
      simp only [given, Option.some.injEq] at stated
      exact .inl (stated ▸ bare_toString number)
  | float number =>
      simp only [given, Option.some.injEq] at stated
      exact .inl (stated ▸ Decimal.Layout.bare_write number)
  | string text =>
      simp only [given, Option.some.injEq] at stated
      exact .inr ⟨text, rfl, stated.symm⟩
  | object members =>
      simp only [given] at stated
      obtain ⟨name, called⟩ : ∃ name,
          (if defaultFunctions.contains name then some (name ++ "()") else none) =
            some expression := ⟨_, stated⟩
      split at called
      · rename_i known
        rw [← Option.some.inj called]
        exact .inl (functions _ (List.contains_iff_mem.mp known))
      · contradiction

/-- Whether a string that a field states as its default shows no line
boundary. -/
def ShowsNoBoundary (field : Value) : Prop :=
  ∀ text ∈ statedString? field, OneLine text

instance (field : Value) : Decidable (ShowsNoBoundary field) :=
  inferInstanceAs (Decidable (∀ text ∈ statedString? field, OneLine text))

/-- The default of such a field stays on the line of its column. -/
theorem columnDefault?_columnOf_oneLine {field : Value} (shows : ShowsNoBoundary field) :
    ∀ text ∈ columnDefault? SourceFormat.dsl.name (columnOf field),
      ∀ c ∈ text.toList, isLineBoundary c = false := by
  intro text written
  have automatic : ∀ c ∈ "autoincrement()".toList, isLineBoundary c = false := by decide
  unfold columnDefault? at written
  simp only [bne_self_eq_false, Bool.and_false, Bool.false_eq_true, if_false,
    Option.mem_def] at written
  split at written
  · exact Option.some.inj written ▸ automatic
  · unfold declaredDefault? at written
    split at written
    · rename_i expression stated
      split at written
      · exact absurd written (Option.some_ne_none _).symm
      rcases defaultOf_cases stated with bare | ⟨content, isString, rfl⟩
      · exact oneLine_of_bare bare written
      · have quoted := defaultArgument?_expression .json content
        rw [← Option.some.inj (quoted.symm.trans written), Json.toList_quote]
        exact quoteChars_oneLine (shows content isString)
    · exact absurd written (Option.some_ne_none _).symm

end Layout.Export

end Crowsfoot
