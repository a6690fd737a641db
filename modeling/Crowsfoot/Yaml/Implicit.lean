import Crowsfoot.Json.Reader
import Crowsfoot.Text.Pattern.Matching
import Crowsfoot.Text.Pattern.Reader
import Crowsfoot.Text.Split

/-!
# Implicit types

An unquoted scalar of YAML 1.1 is a string only if it does not look like a
truth value, a number, a null, a time or a merge mark.  This module holds
those looks, and the values of scalars that have them.
-/

namespace Crowsfoot.Yaml

open Crowsfoot.Json (Value floatOf naturalOf isAsciiDigit)
open Crowsfoot.Text (Pattern)

/-- The patterns that can be read among their notations. -/
def patterns (sources : List String) : List Pattern :=
  sources.filterMap fun source => Pattern.read? ("^(?:" ++ source ++ ")$")

def truthPatterns : List Pattern :=
  patterns ["yes|Yes|YES|no|No|NO|true|True|TRUE|false|False|FALSE|on|On|ON|off|Off|OFF"]

def floatPatterns : List Pattern :=
  patterns
    ["[-+]?[0-9][0-9_]*\\.[0-9_]*(?:[eE][-+][0-9]+)?", "\\.[0-9][0-9_]*(?:[eE][-+][0-9]+)?",
      "[-+]?[0-9][0-9_]*(?::[0-5]?[0-9])+\\.[0-9_]*", "[-+]?\\.(?:inf|Inf|INF)",
      "\\.(?:nan|NaN|NAN)"]

def integerPatterns : List Pattern :=
  patterns
    ["[-+]?0b[0-1_]+", "[-+]?0[0-7_]+", "[-+]?(?:0|[1-9][0-9_]*)", "[-+]?0x[0-9a-fA-F_]+",
      "[-+]?[1-9][0-9_]*(?::[0-5]?[0-9])+"]

def nullPatterns : List Pattern :=
  patterns ["~|null|Null|NULL|"]

def timePatterns : List Pattern :=
  patterns
    ["[0-9][0-9][0-9][0-9]-[0-9][0-9]-[0-9][0-9]",
      "[0-9][0-9][0-9][0-9]-[0-9][0-9]?-[0-9][0-9]?(?:[Tt]|[ \\t]+)[0-9][0-9]?:[0-9][0-9]:" ++
        "[0-9][0-9](?:\\.[0-9]*)?(?:[ \\t]*(?:Z|[-+][0-9][0-9]?(?::[0-9][0-9])?))?"]

/-- The marks that merge mappings and name default values. -/
def markPatterns : List Pattern :=
  patterns ["<<", "="]

/-- Whether a text matches one of several patterns. -/
def looksLike (patterns : List Pattern) (text : String) : Bool :=
  patterns.any (·.occursIn text)

/-- Whether an unquoted text is a string. -/
def isPlainString (text : String) : Bool :=
  !(looksLike truthPatterns text || looksLike floatPatterns text ||
    looksLike integerPatterns text || looksLike nullPatterns text ||
    looksLike timePatterns text || looksLike markPatterns text)

/-- A numeral in a base, from digits that all belong to it. -/
def numeralOf (base : Nat) (digits : List Char) : Nat :=
  digits.foldl (fun number c => base * number + (Json.hexDigit? c).getD 0) 0

/-- A numeral whose digit groups, between colons, count sixty each. -/
def sexagesimalOf (digits : List Char) : Nat :=
  (Text.pieces (· == ':') digits).foldl (fun number group => 60 * number + naturalOf group) 0

/-- The value of an integer without sign and underscores. -/
def unsignedInteger : List Char → Nat
  | '0' :: 'b' :: digits => numeralOf 2 digits
  | '0' :: 'x' :: digits => numeralOf 16 digits
  | '0' :: digits => numeralOf 8 digits
  | digits => if digits.contains ':' then sexagesimalOf digits else naturalOf digits

/-- The sign of a numeral and what follows it. -/
def splitSign : List Char → Bool × List Char
  | '-' :: rest => (true, rest)
  | '+' :: rest => (false, rest)
  | text => (false, text)

/-- The value of an integer. -/
def integerOf (text : List Char) : Int :=
  let (negative, digits) := splitSign (text.filter (· != '_'))
  if negative then -(unsignedInteger digits : Int) else unsignedInteger digits

/-- The value of a floating point number without sign and underscores. -/
def unsignedFloat (negative : Bool) (text : List Char) : Float :=
  let whole := text.takeWhile isAsciiDigit
  let afterPoint := (text.dropWhile isAsciiDigit).drop 1
  let fraction := afterPoint.takeWhile isAsciiDigit
  let (below, size) := splitSign ((afterPoint.dropWhile isAsciiDigit).drop 1)
  let exponent : Int := if below then -(naturalOf size : Int) else naturalOf size
  floatOf negative (whole ++ fraction) (exponent - fraction.length)

/-- The value of a floating point number. -/
def floatValue (text : List Char) : Float :=
  let (negative, digits) := splitSign (text.filter (· != '_'))
  match digits with
  | '.' :: c :: _ =>
      if c == 'i' || c == 'I' then (if negative then -1.0 / 0.0 else 1.0 / 0.0)
      else if c == 'n' || c == 'N' then 0.0 / 0.0
      else unsignedFloat negative digits
  | _ => unsignedFloat negative digits

/-- Words that are true. -/
def trueWords : List String :=
  ["yes", "Yes", "YES", "true", "True", "TRUE", "on", "On", "ON"]

/-- The value of an unquoted scalar. -/
def plainValue (text : String) : Value :=
  if looksLike truthPatterns text then .bool (trueWords.contains text)
  else if looksLike floatPatterns text then .float (floatValue text.toList)
  else if looksLike integerPatterns text then .int (integerOf text.toList)
  else if looksLike nullPatterns text then .null
  else .string text

end Crowsfoot.Yaml
