import Crowsfoot.Proofs.Dsl.QuotedDefaults

/-!
# Defaults in parentheses

One layer of parentheses around a default is removed, with the blanks inside
and outside of it, if it encloses the whole default.  Single quotes hide
parentheses, so a quoted string is unwrapped whatever it contains: its value is
the same between parentheses, between its own quotes, and as a literal.  A literal
with a lone surrogate has no such value.
-/

namespace Crowsfoot.Dsl

open Crowsfoot.Text

/-- A text inside parentheses that closes none of those around it: the scan for
an early end goes on behind it at the depth at which it came. -/
def KeepsDepth (text : List Char) : Prop :=
  ∀ depth rest, closesEarly false (depth + 1) (text ++ rest) = closesEarly false (depth + 1) rest

theorem KeepsDepth.append {front back : List Char} (first : KeepsDepth front)
    (second : KeepsDepth back) : KeepsDepth (front ++ back) := by
  intro depth rest
  rw [List.append_assoc, first, second]

/-- Text without quotes and parentheses keeps the depth. -/
theorem KeepsDepth.of_plain {text : List Char}
    (plain : ∀ c ∈ text, c ≠ '\x27' ∧ c ≠ '(' ∧ c ≠ ')') : KeepsDepth text := by
  induction text with
  | nil =>
      intro depth rest
      rfl
  | cons c later ih =>
      obtain ⟨notQuote, notOpen, notClose⟩ := plain c List.mem_cons_self
      have behind := ih fun d member => plain d (List.mem_cons_of_mem _ member)
      intro depth rest
      rw [List.cons_append, closesEarly, ← behind depth rest]
      simp [notQuote, notOpen, notClose]

theorem KeepsDepth.of_blank {gap : List Char} (blank : ∀ c ∈ gap, isBlank c = true) :
    KeepsDepth gap := by
  apply KeepsDepth.of_plain
  intro c member
  have isGap := blank c member
  exact ⟨ne_of_class isGap rfl, ne_of_class isGap rfl, ne_of_class isGap rfl⟩

/-- Inside single quotes, text with doubled quotes is passed over. -/
theorem closesEarly_doubled (depth : Nat) (text rest : List Char) :
    closesEarly true depth (doubled text ++ rest) = closesEarly true depth rest := by
  induction text with
  | nil => rfl
  | cons c later ih =>
      rw [doubled, List.flatMap_cons, List.append_assoc, ← ih]
      by_cases quote : c = '\x27'
      · subst c
        rfl
      · have single : (c == '\x27') = false := by simpa using quote
        rw [single]
        change closesEarly true depth (c :: (doubled later ++ rest)) = _
        rw [closesEarly, single]
        rfl

/-- A string in single quotes keeps the depth, whatever its content. -/
theorem KeepsDepth.quoted (text : List Char) :
    KeepsDepth ('\x27' :: (doubled text ++ ['\x27'])) := by
  intro depth rest
  have opened : closesEarly false (depth + 1) ('\x27' :: (doubled text ++ '\x27' :: rest)) =
      closesEarly true (depth + 1) (doubled text ++ '\x27' :: rest) := rfl
  have ended : closesEarly true (depth + 1) ('\x27' :: rest) =
      closesEarly false (depth + 1) rest := rfl
  rw [List.cons_append, List.append_assoc, List.singleton_append, opened, closesEarly_doubled,
    ended]

/-- Parentheses that enclose a whole text are removed. -/
theorem stripParens_enclosed {inside : List Char} (keeps : KeepsDepth inside) :
    stripParens ('(' :: (inside ++ [')'])) = strip inside := by
  have outer : hasOuterParens ('(' :: (inside ++ [')'])) = true := by
    simp [hasOuterParens, List.getLast?_cons]
  have closed : closesEarly false 0 ('(' :: (inside ++ [')'])) = false :=
    (keeps 0 [')']).trans rfl
  have within : inner ('(' :: (inside ++ [')'])) = inside := by
    simp [inner]
  rw [stripParens, outer, closed, within]
  rfl

/-- A solid text is unwrapped from blanks and parentheses. -/
theorem bareExpression_enclosed {text : List Char} (solid : Solid text) (keeps : KeepsDepth text)
    {before opened closed after : List Char} (beforeBlank : ∀ c ∈ before, isBlank c = true)
    (openedBlank : ∀ c ∈ opened, isBlank c = true) (closedBlank : ∀ c ∈ closed, isBlank c = true)
    (afterBlank : ∀ c ∈ after, isBlank c = true) :
    bareExpression (String.ofList
      (before ++ ('(' :: (opened ++ text ++ closed ++ [')']) ++ after))) = text := by
  have enclosed : Solid ('(' :: (opened ++ text ++ closed ++ [')'])) := by
    rw [← List.singleton_append]
    apply Solid.append (stops_cons_iff.mpr rfl) _ (List.cons_ne_nil _ _) (by simp)
    exact stops_reverse_append (stops_cons_iff.mpr rfl) (List.cons_ne_nil _ _) _
  have inside : KeepsDepth (opened ++ text ++ closed) :=
    ((KeepsDepth.of_blank openedBlank).append keeps).append (KeepsDepth.of_blank closedBlank)
  rw [bareExpression, String.toList_ofList, strip_append_of_blank beforeBlank,
    strip_append_blank afterBlank, strip_of_solid enclosed, stripParens_enclosed inside,
    strip_append_blank closedBlank, strip_append_of_blank openedBlank, strip_of_solid solid]

/-- Expressions that are unwrapped alike have the same default. -/
theorem defaultArgument?_congr {expression other : String}
    (same : bareExpression expression = bareExpression other) :
    defaultArgument? expression = defaultArgument? other := by
  unfold defaultArgument?
  rw [same]

/-- A string in single quotes with doubled quotes inside, in parentheses. -/
def parenthesized (before opened content closed after : String) : String :=
  before ++ "(" ++ opened ++ Quoting.sql.expression content ++ closed ++ ")" ++ after

theorem bareExpression_parenthesized (content : String) {before opened closed after : String}
    (blank : ∀ gap ∈ [before, opened, closed, after], ∀ c ∈ gap.toList, isBlank c = true) :
    bareExpression (parenthesized before opened content closed after) =
      bareExpression (Quoting.sql.expression content) := by
  have quoted : InQuotes '\x27' ('\x27' :: (doubled content.toList ++ ['\x27'])) :=
    inQuotes_of_enclosed (by decide) _
  have spelled : parenthesized before opened content closed after =
      String.ofList (before.toList ++ ('(' :: (opened.toList ++
        ('\x27' :: (doubled content.toList ++ ['\x27'])) ++ closed.toList ++ [')']) ++
          after.toList)) := by
    rw [← String.toList_inj]
    simp [parenthesized, Quoting.expression]
  rw [spelled, bareExpression_enclosed quoted.solid (KeepsDepth.quoted content.toList)
    (blank before (by simp)) (blank opened (by simp)) (blank closed (by simp))
    (blank after (by simp))]
  exact (bareExpression_of_sign (by decide) quoted.begins quoted.solid).symm

/-- The default of a string is its literal, whatever stands in the string: in
single quotes, in parentheses around these and with any blanks there, and as a
literal in ASCII. -/
theorem defaultArgument?_spellings (content before opened closed after : String)
    (blank : ∀ gap ∈ [before, opened, closed, after], ∀ c ∈ gap.toList, isBlank c = true) :
    defaultArgument? (Quoting.sql.expression content) = some (Json.quote content) ∧
      defaultArgument? (parenthesized before opened content closed after) =
        some (Json.quote content) ∧
      defaultArgument? (Json.quoteAscii content) = some (Json.quote content) := by
  have quoted := defaultArgument?_expression .sql content
  refine ⟨quoted, ?_, defaultArgument?_expression .json content⟩
  rw [defaultArgument?_congr (bareExpression_parenthesized content blank), quoted]

/-- A string that looks like a call with an open parenthesis stays a string. -/
theorem defaultArgument?_spellings_call :
    (∀ gap ∈ [" ", "\n", "", "\t"], ∀ c ∈ gap.toList, isBlank c = true) ∧
      defaultArgument? " (\n'now(''(')\t" = some "\"now('(\"" := by
  have blank : ∀ gap ∈ [" ", "\n", "", "\t"], ∀ c ∈ gap.toList, isBlank c = true := by
    decide
  obtain ⟨-, read, -⟩ := defaultArgument?_spellings "now('(" " " "\n" "" "\t" blank
  have spelled : parenthesized " " "\n" "now('(" "" "\t" = " (\n'now(''(')\t" := by
    decide +kernel
  have literal : Json.quote "now('(" = "\"now('(\"" := by
    decide +kernel
  rw [spelled, literal] at read
  exact ⟨blank, read⟩

end Crowsfoot.Dsl
