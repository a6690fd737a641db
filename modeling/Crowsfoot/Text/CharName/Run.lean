import Crowsfoot.Text.Split

/-!
# Runs of character names

The names that the Unicode standard gives to neighbouring characters have most
of their words in common.  A *run* lists the names from one code point on: each
entry is a digit and some words, and stands for that many words of the name
before it, followed by its own.  An empty entry is for a code point that has no
name.  Commas separate the entries; where a run takes several lines, each line
begins with an entry.
-/

namespace Crowsfoot.Text

/-- Runs of names, each with its first code point and its lines. -/
abbrev NameRuns := List (Nat × List String)

namespace NameRuns

/-- The words of the name of an entry, after those of the name before it. -/
def wordsOf (before : List (List Char)) : List Char → List (List Char)
  | [] => before
  | count :: rest =>
      before.take (count.toNat - '0'.toNat) ++
        (if rest.isEmpty then [] else pieces (· == ' ') rest)

/-- The code point of a name among entries, of which the first is for
`code`. -/
def findInEntries (name before : List (List Char)) (code : Nat) :
    List (List Char) → Option Nat
  | [] => none
  | entry :: entries =>
      let words := wordsOf before entry
      if !entry.isEmpty && words == name then some code
      else findInEntries name words (code + 1) entries

/-- The code point of a name, given by its words. -/
def find? (runs : NameRuns) (name : List (List Char)) : Option Nat :=
  runs.findSome? fun (first, lines) =>
    findInEntries name [] first (lines.flatMap fun line => pieces (· == ',') line.toList)

end NameRuns

end Crowsfoot.Text
