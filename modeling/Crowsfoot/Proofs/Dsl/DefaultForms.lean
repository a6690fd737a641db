import Crowsfoot.Dsl.Printer
import Crowsfoot.Proofs.Text.Recognizers

/-!
# Forms of written defaults

The argument of a written `@default` attribute is one of a few words, a
number, a string literal, or a string literal handed on to the database.
-/

namespace Crowsfoot.Dsl

open Crowsfoot.Text

/-- The defaults that are written as words. -/
def defaultWords : List String :=
  ["now()", "uuid()", "autoincrement()", "true", "false"]

/-- The forms that the argument of a `@default` attribute is written in.  A
text that is handed on to the database is a call and ends in a parenthesis. -/
inductive DefaultForm : String → Prop
  | word {text : String} (member : text ∈ defaultWords) : DefaultForm text
  | number {text : List Char} (number : isNumber text = true) : DefaultForm (String.ofList text)
  | literal (content : String) : DefaultForm (Json.quote content)
  | call {content : String} (closed : content.toList.getLast? = some ')') :
      DefaultForm ("dbgenerated(" ++ Json.quote content ++ ")")

/-- A call ends in a parenthesis. -/
theorem getLast?_of_isCall {text : List Char} (call : isCall text = true) :
    text.getLast? = some ')' := by
  cases text with
  | nil => simp [isCall] at call
  | cons c rest =>
      simp only [isCall, Bool.and_eq_true] at call
      obtain ⟨-, arguments⟩ := call
      split at arguments
      · rename_i inside opened
        simp only [Bool.and_eq_true, beq_iff_eq] at arguments
        have suffix : '(' :: inside <:+ c :: rest := by
          rw [← opened, skipBlanks]
          apply (List.dropWhile_suffix _).trans
          apply (List.dropWhile_suffix _).trans
          exact List.suffix_cons c rest
        obtain ⟨front, whole⟩ := suffix
        rw [← whole, List.getLast?_append, List.getLast?_cons, arguments.1]
        simp
      · simp at arguments

/-- Every default that is taken from a source expression has one of the
forms. -/
theorem defaultForm_of_defaultArgument? {expression text : String}
    (argument : defaultArgument? expression = some text) : DefaultForm text := by
  unfold defaultArgument? at argument
  simp only at argument
  split at argument
  · exact .word (by simp [defaultWords, ← Option.some.inj argument])
  split at argument
  · exact .word (by simp [defaultWords, ← Option.some.inj argument])
  split at argument
  · exact .word (by simp [defaultWords, ← Option.some.inj argument])
  split at argument
  · rename_i boolean
    simp only [Bool.or_eq_true, beq_iff_eq] at boolean
    rw [← Option.some.inj argument]
    exact .word (by rcases boolean with same | same <;> simp [defaultWords, same])
  split at argument
  · simp at argument
  split at argument
  · rename_i number
    exact Option.some.inj argument ▸ .number number
  split at argument
  · exact Option.some.inj argument ▸ .literal _
  split at argument
  · rename_i call
    rw [← Option.some.inj argument]
    exact .call (by simpa using getLast?_of_isCall call)
  · exact Option.some.inj argument ▸ .literal _

/-- Every default that a column is written with has one of the forms. -/
theorem defaultForm_of_columnDefault? {format text : String} {column : Column}
    (written : columnDefault? format column = some text) : DefaultForm text := by
  have automatic : DefaultForm "autoincrement()" := .word (by simp [defaultWords])
  unfold columnDefault? at written
  simp only at written
  split at written
  · exact Option.some.inj written ▸ automatic
  split at written
  · exact Option.some.inj written ▸ automatic
  · unfold declaredDefault? at written
    split at written
    · split at written
      · simp at written
      · exact defaultForm_of_defaultArgument? written
    · simp at written

end Crowsfoot.Dsl
