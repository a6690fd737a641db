import Crowsfoot.Text.CharName
import Crowsfoot.Text.Pattern.Source

/-!
# Reading escapes and sets

A backslash gives a letter or digit a meaning of its own, and takes the
meaning away from any other character.  Characters may also be written by
their name, or by their number in hexadecimal or octal digits.  Inside a set,
`\b` is a character and nothing refers to a group.
-/

namespace Crowsfoot.Text.Pattern

open Crowsfoot.Json (hexDigit?)

/-- Whether a character is an octal digit. -/
def isOctal (c : Char) : Bool :=
  '0' ≤ c && c ≤ '7'

/-- The value of digits in a base. -/
def valueOf (base : Nat) (digits : List Char) : Nat :=
  digits.foldl (fun value c => base * value + (hexDigit? c).getD 0) 0

/-- The characters that have a letter for an escape, beside backspace. -/
def letterEscapes : List (Char × Nat) :=
  [('a', 0x07), ('f', 0x0C), ('n', 0x0A), ('r', 0x0D), ('t', 0x09), ('v', 0x0B)]

/-- The class that a letter after a backslash stands for. -/
def classOf? (ascii : Bool) (c : Char) : Option CharClass :=
  if c == 'w' then some (.category .word ascii false)
  else if c == 'W' then some (.category .word ascii true)
  else if c == 'd' then some (.category .digit ascii false)
  else if c == 'D' then some (.category .digit ascii true)
  else if c == 's' then some (.category .blank ascii false)
  else if c == 'S' then some (.category .blank ascii true)
  else none

/-- The anchor that a letter after a backslash stands for. -/
def anchorOf? (ascii : Bool) (c : Char) : Option Anchor :=
  if c == 'A' then some .textStart
  else if c == 'Z' then some .textEnd
  else if c == 'b' then some (.boundary ascii)
  else if c == 'B' then some (.notBoundary ascii)
  else none

namespace Reader

/-- Whether classes and anchors are those of ASCII. -/
def isAscii : Reader Bool := do
  pure ((← get).flags.contains .ascii)

/-- A character by a number of hexadecimal digits, after the letter that calls
for them. -/
def hexCode (letter : Char) (count : Nat) : Reader Nat := do
  let digits ← takeWhile (fun c => (hexDigit? c).isSome) count
  let written := ['\\', letter] ++ digits
  let code := valueOf 16 digits
  if digits.length != count then
    fault (.incompleteEscape (String.ofList written)) written.length
  else if 0x10FFFF < code then fault (.escape (String.ofList written)) written.length
  else pure code

/-- A character by its name in braces. -/
def namedCode : Reader Nat := do
  if ← accept '\x7b' then
    let name ← nameUpTo '\x7d' "character name"
    match charNamed? name with
    | some code => pure code
    | none => fault (.unknownCharacter name) (name.length + 4)
  else fault (.missing .brace) 0

/-- A character by up to three octal digits, the first of which is read. -/
def octalCode (digits : List Char) : Reader Nat := do
  let code := valueOf 8 digits
  if 0xFF < code then
    fault (.octalEscape (String.ofList ('\\' :: digits))) (digits.length + 1)
  else pure code

/-- The character that a letter or a sign behind a backslash stands for. -/
def escapedCode (c : Char) : Reader Nat := do
  match letterEscapes.lookup c with
  | some code => pure code
  | none =>
      if c == 'x' then hexCode c 2
      else if c == 'u' then hexCode c 4
      else if c == 'U' then hexCode c 8
      else if c == 'N' then namedCode
      else if c.isAlphanum then fault (.escape (String.ofList ['\\', c])) 2
      else pure c.toNat

/-- The text of a group, once more. -/
def groupAgain (number back : Nat) : Reader Pattern := do
  if (← get).groups.length < number then fault (.unknownGroup number) (back - 1)
  else if !(← isClosed number) then fault .openGroup back
  else
    checkLookBehind number
    pure (.again number (← get).flags.folding)

/-- The set of one character. -/
def single (code : Nat) : Reader Pattern := do
  pure (.one ⟨false, (← get).flags.folding, [.range code code]⟩)

/-- What a digit behind a backslash stands for: three octal digits are a
character, and so are those after a zero; one or two digits are a group. -/
def digitEscape (c : Char) : Reader Pattern := do
  if c == '0' then single (valueOf 8 (← takeWhile isOctal 2))
  else
    let digits := c :: (← takeWhile Char.isDigit 1)
    let more ← if digits.length == 2 && digits.all isOctal then takeWhile isOctal 1 else pure []
    if more.isEmpty then groupAgain (valueOf 10 digits) (digits.length + 1)
    else single (← octalCode (digits ++ more))

/-- What a character behind a backslash stands for. -/
def escape (c : Char) : Reader Pattern := do
  let ascii ← isAscii
  match anchorOf? ascii c, classOf? ascii c with
  | some found, _ => pure (.anchor found)
  | none, some found => pure (.one ⟨false, (← get).flags.folding, [found]⟩)
  | none, none => if c.isDigit then digitEscape c else single (← escapedCode c)

/-- The code of an octal digit behind a backslash in a set, and of the digits
after it. -/
def octalMember (c : Char) : Reader Nat := do
  octalCode (c :: (← takeWhile isOctal 2))

/-- A member of a set. -/
def member : Token → Reader CharClass
  | .plain c => pure (.range c.toNat c.toNat)
  | .escaped c => do
      match classOf? (← isAscii) c with
      | some found => pure found
      | none =>
          let code ←
            if c == 'b' then pure 0x08
            else if isOctal c then octalMember c
            else escapedCode c
          pure (.range code code)

/-- The range from one member of a set to another, as they are written. -/
def range (this that : Token) (first last : CharClass) : Reader CharClass := do
  let bad : Reader CharClass :=
    fault (.range (String.ofList this.text) (String.ofList that.text))
      (this.text.length + 1 + that.text.length)
  match first, last with
  | .range low _, .range high _ => if high < low then bad else pure (.range low high)
  | _, _ => bad

/-- The members of a set up to its closing bracket, which is a member where it
comes first.  `start` is where the set begins. -/
def members (start : Nat) (read : List CharClass) : Nat → Reader (List CharClass)
  | 0 => fault .unexpectedEnd 0
  | fuel + 1 => do
      match ← take with
      | none => faultAt start .openSet
      | some this =>
          if this == .plain ']' && !read.isEmpty then pure read
          else
            let first ← member this
            if ← accept '-' then
              match ← take with
              | none => faultAt start .openSet
              | some that =>
                  if that == .plain ']' then
                    pure (read ++ [first, .range '-'.toNat '-'.toNat])
                  else
                    let last ← member that
                    let found ← range this that first last
                    members start (read ++ [found]) fuel
            else members start (read ++ [first]) fuel

/-- A set after its opening bracket. -/
def bracketed : Reader Pattern := do
  let start := (← get).offset - 1
  let negated ← accept '^'
  let classes ← members start [] ((← get).rest.length + 1)
  pure (.one ⟨negated, (← get).flags.folding, classes⟩)

end Reader

end Crowsfoot.Text.Pattern
