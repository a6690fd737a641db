/-!
# UTF-8

Decoding bytes to characters.  A fault says which bytes cannot be decoded: a
byte that begins no character, or the bytes of a character that is broken off
by another byte or by the end of the data.  Overlong forms, surrogates and
numbers beyond the last code point are broken off after the first byte.
-/

namespace Crowsfoot.Text

/-- Why bytes are not UTF-8. -/
inductive Utf8Reason
  | startByte
  | continuationByte
  | endOfData
  deriving DecidableEq

/-- The bytes from `offset` on that cannot be decoded: `count` bytes, of which
`first` is the first. -/
structure Utf8Fault where
  reason : Utf8Reason
  offset : Nat
  count : Nat
  first : UInt8
  deriving DecidableEq

/-- What a first byte announces: the number of bytes that follow it, its part
of the code point, and the range of the next byte. -/
def utf8Lead? (byte : Nat) : Option (Nat × Nat × Nat × Nat) :=
  if byte < 0x80 then some (0, byte, 0x80, 0xBF)
  else if byte < 0xC2 then none
  else if byte < 0xE0 then some (1, byte - 0xC0, 0x80, 0xBF)
  else if byte == 0xE0 then some (2, 0, 0xA0, 0xBF)
  else if byte == 0xED then some (2, 0x0D, 0x80, 0x9F)
  else if byte < 0xF0 then some (2, byte - 0xE0, 0x80, 0xBF)
  else if byte == 0xF0 then some (3, 0, 0x90, 0xBF)
  else if byte < 0xF4 then some (3, byte - 0xF0, 0x80, 0xBF)
  else if byte == 0xF4 then some (3, 4, 0x80, 0x8F)
  else none

/-- Where decoding stands inside a character: how many bytes are missing, the
code point so far, the range of the next byte, and the bytes read. -/
structure Utf8State where
  missing : Nat
  code : Nat
  low : Nat
  high : Nat
  read : Nat
  first : UInt8

/-- Decode bytes that begin at `offset`, inside a character if there is a
state. -/
def decodeUtf8From (offset : Nat) (state : Option Utf8State) :
    List UInt8 → Except Utf8Fault (List Char)
  | [] =>
      match state with
      | none => .ok []
      | some inside => .error ⟨.endOfData, offset - inside.read, inside.read, inside.first⟩
  | byte :: rest =>
      match state with
      | none =>
          match utf8Lead? byte.toNat with
          | none => .error ⟨.startByte, offset, 1, byte⟩
          | some (0, code, _, _) =>
              (decodeUtf8From (offset + 1) none rest).map (Char.ofNat code :: ·)
          | some (missing, code, low, high) =>
              decodeUtf8From (offset + 1) (some ⟨missing, code, low, high, 1, byte⟩) rest
      | some inside =>
          let value := byte.toNat
          if inside.low ≤ value && value ≤ inside.high then
            let code := inside.code * 64 + (value - 0x80)
            if inside.missing == 1 then
              (decodeUtf8From (offset + 1) none rest).map (Char.ofNat code :: ·)
            else
              decodeUtf8From (offset + 1)
                (some ⟨inside.missing - 1, code, 0x80, 0xBF, inside.read + 1, inside.first⟩)
                rest
          else
            .error ⟨.continuationByte, offset - inside.read, inside.read, inside.first⟩

/-- Decode bytes. -/
def decodeUtf8 (bytes : List UInt8) : Except Utf8Fault (List Char) :=
  decodeUtf8From 0 none bytes

/-- Replace carriage returns, and carriage returns with line feeds, by line
feeds. -/
def normalizeLineEnds : List Char → List Char
  | [] => []
  | '\r' :: '\n' :: rest => '\n' :: normalizeLineEnds rest
  | c :: rest => (if c == '\r' then '\n' else c) :: normalizeLineEnds rest

end Crowsfoot.Text
