/-!
# Comments of SQL

Line comments run from two hyphens up to the end of the line, block comments
from `/*` up to the next `*/`.  Line comments are removed first; a block
comment that is not closed stays.
-/

namespace Crowsfoot.Sql

/-- Remove line comments.  `inComment` tells whether the text begins inside
one. -/
def dropLineComments (inComment : Bool) : List Char → List Char
  | [] => []
  | c :: rest =>
      if c == '\n' then c :: dropLineComments false rest
      else if inComment || (c == '-' && rest.head? == some '-') then dropLineComments true rest
      else c :: dropLineComments false rest

/-- The text after the end of a block comment. -/
def afterBlockComment? : List Char → Option (List Char)
  | [] => none
  | '*' :: '/' :: rest => some rest
  | _ :: rest => afterBlockComment? rest

theorem length_of_afterBlockComment? {text rest : List Char}
    (closed : afterBlockComment? text = some rest) :
    rest.length < text.length := by
  fun_induction afterBlockComment? text with
  | case1 => simp at closed
  | case2 later =>
      simp only [Option.some.injEq] at closed
      subst closed
      simp only [List.length_cons]
      omega
  | case3 _ _ _ ih => exact Nat.lt_succ_of_lt (ih closed)

/-- Remove block comments. -/
def dropBlockComments : List Char → List Char
  | [] => []
  | '/' :: '*' :: rest =>
      match _ : afterBlockComment? rest with
      | some after => dropBlockComments after
      | none => '/' :: '*' :: rest
  | c :: rest => c :: dropBlockComments rest
termination_by text => text.length
decreasing_by
  · have := length_of_afterBlockComment? ‹_›
    simp only [List.length_cons]
    omega
  · simp

/-- A text without comments. -/
def stripComments (text : List Char) : List Char :=
  dropBlockComments (dropLineComments false text)

end Crowsfoot.Sql
