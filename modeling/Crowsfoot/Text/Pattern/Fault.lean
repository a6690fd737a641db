import Crowsfoot.Json.Printer
import Crowsfoot.Text.Pattern

/-!
# Faults of patterns

Why a text cannot be read as a pattern, and where.  The wording quotes the part
of the pattern that is at fault; the line is named only if there are several.
-/

namespace Crowsfoot.Text.Pattern

open Crowsfoot.Json (shownText)

/-- A part of a pattern that is not there. -/
inductive Missing
  | brace
  | name (kind : String)
  | nameEnd (mark : Char)
  | commentEnd
  | groupEnd
  | flagsEnd
  | flag
  | colon
  deriving DecidableEq

/-- The wording of a missing part. -/
def Missing.message : Missing → String
  | .brace => "\x7b"
  | .name kind => kind
  | .nameEnd mark => String.singleton mark ++ ", unterminated name"
  | .commentEnd => "), unterminated comment"
  | .groupEnd => "), unterminated subpattern"
  | .flagsEnd => "-, : or )"
  | .flag => "flag"
  | .colon => ":"

/-- What is wrong with the flags of a group. -/
inductive FlagFault
  | locale
  | alphabets
  | globalOn
  | globalOff
  | alphabetOff
  | onAndOff
  deriving DecidableEq

/-- The wording of a fault of flags. -/
def FlagFault.message : FlagFault → String
  | .locale => "cannot use 'L' flag with a str pattern"
  | .alphabets => "flags 'a', 'u' and 'L' are incompatible"
  | .globalOn => "cannot turn on global flag"
  | .globalOff => "cannot turn off global flag"
  | .alphabetOff => "cannot turn off flags 'a', 'u' and 'L'"
  | .onAndOff => "flag turned on and off"

/-- Why a text is not a pattern. -/
inductive Reason
  | escape (text : String)
  | escapeAtEnd
  | incompleteEscape (text : String)
  | octalEscape (text : String)
  | unknownCharacter (name : String)
  | openSet
  | range (first last : String)
  | nothingToRepeat
  | repeatedTwice
  | leastOverMost
  | repeatedTooOften
  | openGroup
  | unknownGroup (number : Nat)
  | lookBehindGroup
  | groupZero
  | groupName (name : String)
  | unknownGroupName (name : String)
  | repeatedGroupName (name : String) (number earlier : Nat)
  | thirdBranch
  | extension (text : String)
  | unexpectedEnd
  | closingParenthesis
  | unknownFlag
  | lateFlags
  | flags (fault : FlagFault)
  | alphabets
  | lookBehindWidth
  | repetition (manner : Manner)
  | missing (part : Missing)
  deriving DecidableEq

/-- The wording of a reason. -/
def Reason.message : Reason → String
  | .escape text => "bad escape " ++ text
  | .escapeAtEnd => "bad escape (end of pattern)"
  | .incompleteEscape text => "incomplete escape " ++ text
  | .octalEscape text => "octal escape value " ++ text ++ " outside of range 0-0o377"
  | .unknownCharacter name => "undefined character name " ++ shownText name
  | .openSet => "unterminated character set"
  | .range first last => "bad character range " ++ first ++ "-" ++ last
  | .nothingToRepeat => "nothing to repeat"
  | .repeatedTwice => "multiple repeat"
  | .leastOverMost => "min repeat greater than max repeat"
  | .repeatedTooOften => "the repetition number is too large"
  | .openGroup => "cannot refer to an open group"
  | .unknownGroup number => "invalid group reference " ++ toString number
  | .lookBehindGroup => "cannot refer to group defined in the same lookbehind subpattern"
  | .groupZero => "bad group number"
  | .groupName name => "bad character in group name " ++ shownText name
  | .unknownGroupName name => "unknown group name " ++ shownText name
  | .repeatedGroupName name number earlier =>
      "redefinition of group name " ++ shownText name ++ " as group " ++ toString number ++
        "; was group " ++ toString earlier
  | .thirdBranch => "conditional backref with more than two branches"
  | .extension text => "unknown extension ?" ++ text
  | .unexpectedEnd => "unexpected end of pattern"
  | .closingParenthesis => "unbalanced parenthesis"
  | .unknownFlag => "unknown flag"
  | .lateFlags => "global flags not at the start of the expression"
  | .flags fault => "bad inline flags: " ++ fault.message
  | .alphabets => "ASCII and UNICODE flags are incompatible"
  | .lookBehindWidth => "look-behind requires fixed-width pattern"
  | .repetition manner =>
      "internal: unsupported template operator " ++ match manner with
        | .greedy => "MAX_REPEAT"
        | .reluctant => "MIN_REPEAT"
        | .possessive => "POSSESSIVE_REPEAT"
  | .missing part => "missing " ++ part.message

/-- Why and where a text is not a pattern.  `offset` counts the characters
before the fault; a fault of the whole pattern has none. -/
structure Fault where
  reason : Reason
  offset : Option Nat
  deriving DecidableEq

/-- The wording of a fault of a text. -/
def Fault.message (fault : Fault) (source : String) : String :=
  match fault.offset with
  | none => fault.reason.message
  | some offset =>
      let before := source.toList.take offset
      let place := fault.reason.message ++ " at position " ++ toString offset
      if source.toList.contains '\n' then
        place ++ " (line " ++ toString (before.count '\n' + 1) ++ ", column " ++
          toString ((before.reverse.takeWhile (· != '\n')).length + 1) ++ ")"
      else place

end Crowsfoot.Text.Pattern
