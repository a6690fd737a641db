import Crowsfoot.Proofs.Dsl.Arguments
import Crowsfoot.Proofs.Dsl.BlockScan

/-!
# Literals as arguments

Two scans decide where a string literal ends.  The scan for block ends skips
the character behind a backslash; the scan for arguments looks at the character
before a quote.  They agree on every literal but those of texts that end in a
backslash: there the second scan takes the closing quote for an escaped one,
and the argument runs on.
-/

namespace Crowsfoot.Dsl

open Crowsfoot.Text

/-- A name with one at sign, at its beginning, is not read across a text in
which it does not stand and the at sign behind it. -/
theorem literal?_append_atSign {letters front : List Char} (single : '@' ∉ letters)
    (nonempty : front ≠ []) (absent : ¬('@' :: letters) <:+: front) (back : List Char) :
    literal? ('@' :: letters) (front ++ '@' :: back) = none := by
  obtain ⟨c, rest, rfl⟩ := List.exists_cons_of_ne_nil nonempty
  by_cases sign : c = '@'
  · subst c
    have inside : literal? letters rest = none := by
      rw [Option.eq_none_iff_forall_ne_some]
      intro later read
      apply absent
      rw [literal?_eq_some_iff.mp read]
      exact (List.prefix_append ('@' :: letters) later).isInfix
    rw [List.cons_append, literal?]
    simp [literal?_append_cons single, inside]
  · exact literal?_cons_of_ne sign

/-- The first argument of an attribute stands behind the first place with its
name. -/
theorem find?_openingOf?_append {name : String} {letters : List Char}
    (spelled : name.toList = '@' :: letters) (single : '@' ∉ letters) {front : List Char}
    (absent : ¬name.toList <:+: front) (argument : List Char) :
    find? (openingOf? name) (front ++ (name.toList ++ '(' :: argument)) = some argument := by
  induction front with
  | nil =>
      apply find?_of_some
      rw [List.nil_append, openingOf?, literal?_append]
      rfl
  | cons c rest ih =>
      have passed : openingOf? name ((c :: rest) ++ (name.toList ++ '(' :: argument)) = none := by
        rw [spelled] at absent
        have here := literal?_append_atSign single (List.cons_ne_nil c rest) absent
          (letters ++ '(' :: argument)
        rw [openingOf?, spelled, List.cons_append (a := '@'), here]
        rfl
      rw [List.cons_append] at passed ⊢
      rw [find?_cons_of_none passed]
      apply ih
      intro inside
      exact absent (inside.trans (List.suffix_cons c rest).isInfix)

/-- The quote behind an escaped backslash does not end the string. -/
theorem argumentText_quoteChars_of_backslash {text : List Char}
    (backslash : text.getLast? = some '\\') {before : Char} (nonescaping : before ≠ '\\')
    (depth : Nat) (rest : List Char) :
    argumentText before false depth (Json.quoteChars text ++ rest) =
      Json.quoteChars text ++ argumentText '\x22' true depth rest := by
  obtain ⟨front, rfl⟩ := List.getLast?_eq_some_iff.mp backslash
  obtain ⟨last, -, inside⟩ := argumentText_flatMap_escape front '\x22'
  have escaped : Json.escape '\\' = ['\\', '\\'] := rfl
  have opened (content : List Char) : argumentText before false depth ('\x22' :: content) =
      '\x22' :: argumentText '\x22' true depth content := by
    simp [argumentText, nonescaping]
  have ended (behind : List Char) :
      argumentText last true depth ('\\' :: '\\' :: '\x22' :: behind) =
        '\\' :: '\\' :: '\x22' :: argumentText '\x22' true depth behind := by
    simp [argumentText]
  simp only [Json.quoteChars, List.flatMap_append, List.flatMap_singleton, escaped,
    List.cons_append, List.append_assoc, List.nil_append]
  rw [opened, inside, ended]

/-! ## Reading a literal back -/

/-- An attribute list with a literal as its default. -/
def withLiteral (before content after : String) : String :=
  before ++ "@default(" ++ Json.quote content ++ ")" ++ after

theorem toList_withLiteral (before content after : String) :
    (withLiteral before content after).toList =
      before.toList ++ ("@default".toList ++
        '(' :: (Json.quoteChars content.toList ++ ')' :: after.toList)) := by
  simp [withLiteral]

section Literal

variable {before content : String} (absent : ¬"@default".toList <:+: before.toList)
  (after : String)
include absent

theorem argument?_withLiteral :
    argument? (withLiteral before content after) "@default" =
      some (String.ofList (strip (argumentText '(' false 0
        (Json.quoteChars content.toList ++ ')' :: after.toList)))) := by
  have spelled : "@default".toList = '@' :: "default".toList := by simp
  rw [argument?, argumentChars?, toList_withLiteral,
    find?_openingOf?_append spelled (by decide) absent]
  rfl

theorem argument?_withLiteral_of_closed (closed : content.toList.getLast? ≠ some '\\') :
    argument? (withLiteral before content after) "@default" = some (Json.quote content) := by
  have ended : argumentText '\x22' false 0 (')' :: after.toList) = [] := by
    simp [argumentText]
  have solid : Solid (Json.quoteChars content.toList) := by
    rw [← Json.toList_quote]
    exact (DefaultForm.literal content).solid
  rw [argument?_withLiteral absent, argumentText_quoteChars closed (by decide), ended,
    List.append_nil, strip_of_solid solid]
  rfl

/-- Behind a backslash, the argument goes on with the parenthesis that should
close it. -/
theorem argument?_withLiteral_of_backslash
    (backslash : content.toList.getLast? = some '\\') :
    argument? (withLiteral before content after) "@default" =
      some (Json.quote content ++ ")" ++
        String.ofList (trimEnd isBlank (argumentText ')' true 0 after.toList))) := by
  have goesOn : argumentText '\x22' true 0 (')' :: after.toList) =
      ')' :: argumentText ')' true 0 after.toList := by
    simp [argumentText]
  have kept : trimEnd isBlank (')' :: argumentText ')' true 0 after.toList) =
      ')' :: trimEnd isBlank (argumentText ')' true 0 after.toList) :=
    trimEnd_cons rfl _
  have starts : Stops isBlank
      (Json.quoteChars content.toList ++ ')' :: argumentText ')' true 0 after.toList) :=
    stops_cons_iff.mpr rfl
  have stripped : strip
      (Json.quoteChars content.toList ++ ')' :: argumentText ')' true 0 after.toList) =
        Json.quoteChars content.toList ++
          ')' :: trimEnd isBlank (argumentText ')' true 0 after.toList) := by
    rw [strip, trim, dropWhile_of_stops starts, trimEnd_append (by simp [kept]), kept]
  rw [argument?_withLiteral absent, argumentText_quoteChars_of_backslash backslash (by decide),
    goesOn, stripped, Option.some.injEq, ← String.toList_inj]
  simp

end Literal

/-- The scan for block ends leaves every literal at its closing quote.  The
argument that is read is the literal exactly if its text does not end in a
backslash.  If it does, the argument goes on with the parenthesis and a
beginning of what follows, with all of it where no further quote stands. -/
theorem argument?_quote_iff (before content after : String)
    (absent : ¬"@default".toList <:+: before.toList) :
    Moves .plain (Json.quote content).toList .plain ∧
      (argument? (withLiteral before content after) "@default" = some (Json.quote content) ↔
        content.toList.getLast? ≠ some '\\') ∧
      (content.toList.getLast? = some '\\' →
        ∃ taken, taken <+: after.toList ∧ ('\x22' ∉ after.toList → taken = after.toList) ∧
          argument? (withLiteral before content after) "@default" =
            some (Json.quote content ++ ")" ++ String.ofList (trimEnd isBlank taken))) := by
  refine ⟨Moves.quote content, ⟨?_, argument?_withLiteral_of_closed absent after⟩, ?_⟩
  · intro read backslash
    rw [argument?_withLiteral_of_backslash absent after backslash] at read
    have lengths := congrArg String.length (Option.some.inj read)
    simp only [String.length_append] at lengths
    have parenthesis : ")".length = 1 := rfl
    omega
  · intro backslash
    refine ⟨argumentText ')' true 0 after.toList, argumentText_isPrefix _ _ _ _, ?_,
      argument?_withLiteral_of_backslash absent after backslash⟩
    intro noQuote
    have whole := argumentText_append_of_inString noQuote ')' 0 []
    rw [List.append_nil] at whole
    rw [whole]
    exact List.append_nil _

/-- Escaped quotes and parentheses do not end a literal. -/
theorem argument?_quote_greeting :
    ¬"@default".toList <:+: "@unique ".toList ∧
      argument? (withLiteral "@unique " "say \"hi\" :)" " @map(\"a)\")") "@default" =
        some (Json.quote "say \"hi\" :)") := by
  have absent : ¬"@default".toList <:+: "@unique ".toList := by decide +kernel
  obtain ⟨-, read, -⟩ := argument?_quote_iff "@unique " "say \"hi\" :)" " @map(\"a)\")" absent
  exact ⟨absent, read.mpr (by decide)⟩

/-- The literal of a path that ends in a backslash is read with the
parenthesis behind it. -/
theorem argument?_quote_path :
    argument? (withLiteral "" "C:\\" "") "@default" = some (Json.quote "C:\\" ++ ")") ∧
      argument? (withLiteral "" "C:\\" "") "@default" ≠ some (Json.quote "C:\\") := by
  have read : argument? (withLiteral "" "C:\\" "") "@default" =
      some (Json.quote "C:\\" ++ ")") := by
    decide +kernel
  have longer : Json.quote "C:\\" ++ ")" ≠ Json.quote "C:\\" := by
    decide +kernel
  refine ⟨read, ?_⟩
  rw [read]
  exact fun same => longer (Option.some.inj same)

end Crowsfoot.Dsl
