/-!
# Lone surrogates

A character of a text is a Unicode scalar value.  The texts of JSON literals may
hold surrogates without a partner as well; each of them is read as its stand-in,
one of the last characters, which have no meaning of their own.  UTF-8 has no form
for a lone surrogate, so that a text with one cannot be written to a file.

What is written is always a text of characters, so a law for all texts that are
written and read back speaks of texts without lone surrogates.
-/

namespace Crowsfoot.Text

/-- The character that a lone surrogate is read as. -/
def standIn (unit : Nat) : Char :=
  Char.ofNat (0x10F800 + (unit - 0xD800))

/-- The lone surrogate that a character stands for. -/
def surrogate? (c : Char) : Option Nat :=
  if 0x10F800 ≤ c.toNat then some (c.toNat - 0x10F800 + 0xD800) else none

/-- What keeps a text from being encoded: `count` lone surrogates in a row from
`offset` on, of which `unit` is the first. -/
structure EncodeFault where
  offset : Nat
  count : Nat
  unit : Nat
  deriving DecidableEq

/-- The first lone surrogates in a text that begins at `offset`. -/
def encodeFaultFrom? (offset : Nat) : List Char → Option EncodeFault
  | [] => none
  | c :: rest =>
      match surrogate? c with
      | some unit =>
          some ⟨offset, (rest.takeWhile fun c => (surrogate? c).isSome).length + 1, unit⟩
      | none => encodeFaultFrom? (offset + 1) rest

end Crowsfoot.Text
