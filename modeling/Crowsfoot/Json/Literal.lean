import Crowsfoot.Text.Surrogate

/-!
# JSON string literals

A string literal stands between double quotes.  Quotes, backslashes and
control characters inside it are escaped; a literal restricted to ASCII
escapes every other character as well, and writes a character beyond the basic
plane as two surrogate escapes.

Reading accepts every escape of the format.  A high surrogate is kept until
the next character shows whether it has a partner, and an unpaired surrogate is
read as its stand-in.
-/

namespace Crowsfoot.Json

open Crowsfoot.Text (standIn)

/-- A hexadecimal numeral of `width` digits in small letters. -/
def hexadecimal : (width : Nat) → Nat → List Char
  | 0, _ => []
  | width + 1, number => hexadecimal width (number / 16) ++ [Nat.digitChar (number % 16)]

/-- The escape of one 16-bit unit. -/
def unitEscape (unit : Nat) : List Char :=
  '\\' :: 'u' :: hexadecimal 4 unit

/-- The escape of a character that has to be escaped in every literal. -/
def requiredEscape? (c : Char) : Option (List Char) :=
  if c == '\x22' then some ['\\', '\x22']
  else if c == '\\' then some ['\\', '\\']
  else if c == '\n' then some ['\\', 'n']
  else if c == '\r' then some ['\\', 'r']
  else if c == '\t' then some ['\\', 't']
  else if c == '\x08' then some ['\\', 'b']
  else if c == '\x0C' then some ['\\', 'f']
  else if c.toNat < 0x20 then some (unitEscape c.toNat)
  else none

/-- A character inside a literal. -/
def escape (c : Char) : List Char :=
  (requiredEscape? c).getD [c]

/-- A character inside a literal that is restricted to ASCII. -/
def escapeAscii (c : Char) : List Char :=
  match requiredEscape? c with
  | some escaped => escaped
  | none =>
      let code := c.toNat
      if code < 0x7F then [c]
      else if code < 0x10000 then unitEscape code
      else
        unitEscape (0xD800 + (code - 0x10000) / 0x400) ++
          unitEscape (0xDC00 + (code - 0x10000) % 0x400)

/-- The literal of a text. -/
def quoteChars (text : List Char) : List Char :=
  '\x22' :: (text.flatMap escape ++ ['\x22'])

/-- The literal of a string. -/
def quote (text : String) : String :=
  String.ofList (quoteChars text.toList)

/-- The literal of a string, in ASCII. -/
def quoteAscii (text : String) : String :=
  String.ofList ('\x22' :: (text.toList.flatMap escapeAscii ++ ['\x22']))

/-- What makes a literal unreadable. -/
inductive LiteralFault
  | unterminated
  | controlCharacter
  | escape
  | unicodeEscape
  deriving DecidableEq

/-- The value of a hexadecimal digit. -/
def hexDigit? (c : Char) : Option Nat :=
  if '0' ≤ c ∧ c ≤ '9' then some (c.toNat - 0x30)
  else if 'a' ≤ c ∧ c ≤ 'f' then some (c.toNat - 0x61 + 10)
  else if 'A' ≤ c ∧ c ≤ 'F' then some (c.toNat - 0x41 + 10)
  else none

/-- The value of four hexadecimal digits. -/
def hexUnit? (a b c d : Char) : Option Nat := do
  let a ← hexDigit? a
  let b ← hexDigit? b
  let c ← hexDigit? c
  let d ← hexDigit? d
  pure (((a * 16 + b) * 16 + c) * 16 + d)

/-- The character that a one-letter escape stands for. -/
def simpleEscape? (c : Char) : Option Char :=
  if c == '\x22' || c == '\\' || c == '/' then some c
  else if c == 'b' then some '\x08'
  else if c == 'f' then some '\x0C'
  else if c == 'n' then some '\n'
  else if c == 'r' then some '\r'
  else if c == 't' then some '\t'
  else none

def isHighSurrogate (unit : Nat) : Bool := 0xD800 ≤ unit && unit < 0xDC00

def isLowSurrogate (unit : Nat) : Bool := 0xDC00 ≤ unit && unit < 0xE000

/-- The character written as two surrogates. -/
def joinSurrogates (high low : Nat) : Char :=
  Char.ofNat (0x10000 + (high - 0xD800) * 0x400 + (low - 0xDC00))

/-- What an unpaired high surrogate leaves in the text. -/
def unpaired : Option Nat → List Char
  | none => []
  | some unit => [standIn unit]

/-- Put characters before the text of a literal that was read. -/
def extend (read : List Char) :
    Except (LiteralFault × List Char) (List Char × List Char) →
      Except (LiteralFault × List Char) (List Char × List Char)
  | .error fault => .error fault
  | .ok (text, rest) => .ok (read ++ text, rest)

/-- Read a literal after its opening quote: its text and what follows the
closing quote.  `high` is a high surrogate whose partner may come next.  A
fault comes with the text from the place at fault on; for an unterminated
literal that is the whole literal, `whole`. -/
def readLiteral (whole : List Char) (high : Option Nat) :
    List Char → Except (LiteralFault × List Char) (List Char × List Char)
  | [] => .error (.unterminated, whole)
  | '\\' :: [] => .error (.unterminated, whole)
  | '\\' :: 'u' :: rest =>
      match rest with
      | a :: b :: c :: d :: next :: after =>
          match hexUnit? a b c d with
          | none => .error (.unicodeEscape, 'u' :: rest)
          | some unit =>
              match high with
              | some first =>
                  if isLowSurrogate unit then
                    extend [joinSurrogates first unit] (readLiteral whole none (next :: after))
                  else if isHighSurrogate unit then
                    extend (unpaired high) (readLiteral whole (some unit) (next :: after))
                  else
                    extend (unpaired high ++ [Char.ofNat unit])
                      (readLiteral whole none (next :: after))
              | none =>
                  if isHighSurrogate unit then readLiteral whole (some unit) (next :: after)
                  else if isLowSurrogate unit then
                    extend [standIn unit] (readLiteral whole none (next :: after))
                  else extend [Char.ofNat unit] (readLiteral whole none (next :: after))
      | _ => .error (.unicodeEscape, 'u' :: rest)
  | '\\' :: c :: rest =>
      match simpleEscape? c with
      | some meant => extend (unpaired high ++ [meant]) (readLiteral whole none rest)
      | none => .error (.escape, '\\' :: c :: rest)
  | c :: rest =>
      if c == '\x22' then .ok (unpaired high, rest)
      else if c.toNat < 0x20 then .error (.controlCharacter, c :: rest)
      else extend (unpaired high ++ [c]) (readLiteral whole none rest)

/-- The text of a complete literal. -/
def unquote? : List Char → Option (List Char)
  | [] => none
  | c :: rest =>
      if c != '\x22' then none
      else match readLiteral (c :: rest) none rest with
        | .ok (text, []) => some text
        | _ => none

/-- Whether a text escapes a surrogate without its partner.  `high` holds behind
the escape of a high one. -/
def escapesLone (high : Bool) : List Char → Bool
  | '\\' :: 'u' :: a :: b :: c :: d :: rest =>
      match hexUnit? a b c d with
      | some unit =>
          if isLowSurrogate unit then !high || escapesLone false rest
          else high || escapesLone (isHighSurrogate unit) rest
      | none => high || escapesLone false rest
  | '\\' :: _ :: rest => high || escapesLone false rest
  | _ :: rest => high || escapesLone false rest
  | [] => high

end Crowsfoot.Json
