import Crowsfoot.Text.Alphanumeric
import Crowsfoot.Text.Case
import Crowsfoot.Text.Digit
import Crowsfoot.Text.Split

/-!
# Identifiers of the schema DSL

An identifier is a nonempty run of word characters that does not begin with a
decimal digit.  Names of other notations are turned into identifiers: every
run of other characters becomes one underscore, and a leading digit gets an
underscore in front.
-/

namespace Crowsfoot.Dsl

open Crowsfoot.Text

/-- Whether a text is an identifier. -/
def isIdentifier : List Char → Bool
  | [] => false
  | c :: rest => isWord c && !isDecimal c && rest.all isWord

/-- A text without one line feed at its end. -/
def withoutFinalLineFeed (text : List Char) : List Char :=
  match text.reverse with
  | '\n' :: reversed => reversed.reverse
  | _ => text

/-- Each run of characters that are not word characters becomes one
underscore.  `inRun` tells whether the text continues such a run. -/
def collapse (inRun : Bool) : List Char → List Char
  | [] => []
  | c :: rest =>
      if isWord c then c :: collapse false rest
      else if inRun then collapse true rest
      else '_' :: collapse true rest

/-- Put an underscore before a digit. -/
def guardDigit : List Char → List Char
  | [] => []
  | c :: rest => if isDigit c then '_' :: c :: rest else c :: rest

/-- The identifier made of a name that is none. -/
def sanitize (name : List Char) : List Char :=
  match trim (· == '_') (collapse false name) with
  | [] => ['_']
  | cleaned => guardDigit cleaned

/-- The identifier for a name: the name itself if it is one, even with a line
feed at its end, and its sanitized form otherwise. -/
def identifierChars (name : List Char) : List Char :=
  if isIdentifier (withoutFinalLineFeed name) then name else sanitize name

/-- The identifier for a name. -/
def identifier (name : String) : String :=
  String.ofList (identifierChars name.toList)

/-- Capitalise a word: upper case first, lower case after. -/
def capitalize : List Char → List Char
  | [] => []
  | c :: rest => upperChar c ++ lowerChars rest

/-- Cut a name at separators and join its words, capitalised. -/
def pascal (separators : String) (name : String) : String :=
  let words := pieces (fun c => separators.toList.contains c) name.toList
  String.ofList (words.flatMap capitalize)

end Crowsfoot.Dsl
