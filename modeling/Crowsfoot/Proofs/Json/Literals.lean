import Crowsfoot.Json.Literal

/-!
# Reading literals back

A literal is read back as the text it was written from, also if it is
restricted to ASCII.  A character beyond the basic plane is then written as two
surrogates, and no other character is written as one: the texts are those without
lone surrogates, and what is said of literals further on depends on this.
-/

namespace Crowsfoot.Json

theorem hexDigit?_digitChar : ∀ digit < 16, hexDigit? (Nat.digitChar digit) = some digit := by
  decide

/-- Four hexadecimal digits give back their unit. -/
theorem hexUnit?_digits {unit : Nat} (small : unit < 0x10000) :
    hexUnit? (Nat.digitChar (unit / 16 / 16 / 16 % 16)) (Nat.digitChar (unit / 16 / 16 % 16))
      (Nat.digitChar (unit / 16 % 16)) (Nat.digitChar (unit % 16)) = some unit := by
  have digit (number : Nat) : hexDigit? (Nat.digitChar (number % 16)) = some (number % 16) :=
    hexDigit?_digitChar _ (Nat.mod_lt _ (by decide))
  have value : ((unit / 16 / 16 / 16 % 16 * 16 + unit / 16 / 16 % 16) * 16 + unit / 16 % 16) * 16 +
      unit % 16 = unit := by
    omega
  simp only [hexUnit?, digit, Option.bind_eq_bind, Option.bind_some, value]
  rfl

theorem unitEscape_eq (unit : Nat) :
    unitEscape unit =
      ['\\', 'u', Nat.digitChar (unit / 16 / 16 / 16 % 16), Nat.digitChar (unit / 16 / 16 % 16),
        Nat.digitChar (unit / 16 % 16), Nat.digitChar (unit % 16)] := by
  simp [unitEscape, hexadecimal]

section Reading

variable {whole : List Char} {next : Char} {rest : List Char}

/-- A unit that is no surrogate is read as its character. -/
theorem readLiteral_unit {unit : Nat} (small : unit < 0x10000)
    (notHigh : isHighSurrogate unit = false) (notLow : isLowSurrogate unit = false) :
    readLiteral whole none (unitEscape unit ++ next :: rest) =
      extend [Char.ofNat unit] (readLiteral whole none (next :: rest)) := by
  rw [unitEscape_eq]
  simp only [List.cons_append, List.nil_append]
  rw [readLiteral]
  simp [hexUnit?_digits small, notHigh, notLow]

/-- Two surrogates are read as the character that they stand for. -/
theorem readLiteral_pair {high low : Nat} (highSmall : high < 0x10000) (lowSmall : low < 0x10000)
    (isHigh : isHighSurrogate high = true) (isLow : isLowSurrogate low = true) :
    readLiteral whole none (unitEscape high ++ (unitEscape low ++ next :: rest)) =
      extend [joinSurrogates high low] (readLiteral whole none (next :: rest)) := by
  rw [unitEscape_eq, unitEscape_eq]
  simp only [List.cons_append, List.nil_append]
  rw [readLiteral]
  simp only [hexUnit?_digits highSmall, isHigh, if_true]
  rw [readLiteral]
  simp [hexUnit?_digits lowSmall, isLow]

/-! ## Characters -/

/-- A character that stands for itself is read as itself. -/
theorem readLiteral_plain {c : Char} (notQuote : c ≠ '\x22') (notBackslash : c ≠ '\\')
    (visible : 0x20 ≤ c.toNat) :
    readLiteral whole none (c :: next :: rest) =
      extend [c] (readLiteral whole none (next :: rest)) := by
  rw [readLiteral.eq_def]
  split
  · simp_all
  · simp_all
  · simp_all
  · simp_all
  · rename_i same
    obtain ⟨rfl, rfl⟩ := List.cons.inj same
    simp [notQuote, Nat.not_lt.mpr visible, unpaired]

/-- The one-letter escapes are read as the characters they stand for. -/
theorem readLiteral_simple {c meant : Char} (simpleEscape : simpleEscape? c = some meant)
    (notUnit : c ≠ 'u') :
    readLiteral whole none ('\\' :: c :: next :: rest) =
      extend [meant] (readLiteral whole none (next :: rest)) := by
  rw [readLiteral]
  · simp [simpleEscape, unpaired]
  · exact notUnit

/-- A control character is read from its unit. -/
theorem readLiteral_control {c : Char} (hidden : c.toNat < 0x20) :
    readLiteral whole none (unitEscape c.toNat ++ next :: rest) =
      extend [c] (readLiteral whole none (next :: rest)) := by
  rw [readLiteral_unit, Char.ofNat_toNat]
  · omega
  · simp only [isHighSurrogate, Bool.and_eq_false_iff, decide_eq_false_iff_not]
    omega
  · simp only [isLowSurrogate, Bool.and_eq_false_iff, decide_eq_false_iff_not]
    omega

/-- A character of the basic plane is read from its unit. -/
theorem readLiteral_basic {c : Char} (basic : c.toNat < 0x10000) :
    readLiteral whole none (unitEscape c.toNat ++ next :: rest) =
      extend [c] (readLiteral whole none (next :: rest)) := by
  have valid : c.toNat < 0xD800 ∨ 0xDFFF < c.toNat := by
    rcases c.valid with low | ⟨high, -⟩
    · exact .inl low
    · exact .inr high
  rw [readLiteral_unit basic, Char.ofNat_toNat]
  · simp only [isHighSurrogate, Bool.and_eq_false_iff, decide_eq_false_iff_not]
    omega
  · simp only [isLowSurrogate, Bool.and_eq_false_iff, decide_eq_false_iff_not]
    omega

/-- A character beyond the basic plane is read from its surrogates. -/
theorem readLiteral_beyond {c : Char} (beyond : 0x10000 ≤ c.toNat) :
    readLiteral whole none (unitEscape (0xD800 + (c.toNat - 0x10000) / 0x400) ++
        (unitEscape (0xDC00 + (c.toNat - 0x10000) % 0x400) ++ next :: rest)) =
      extend [c] (readLiteral whole none (next :: rest)) := by
  have bound : c.toNat < 0x110000 := by
    rcases c.valid with low | ⟨-, high⟩
    · exact Nat.lt_trans low (by decide)
    · exact high
  have joined : joinSurrogates (0xD800 + (c.toNat - 0x10000) / 0x400)
      (0xDC00 + (c.toNat - 0x10000) % 0x400) = c := by
    have code : 0x10000 + (0xD800 + (c.toNat - 0x10000) / 0x400 - 0xD800) * 0x400 +
        (0xDC00 + (c.toNat - 0x10000) % 0x400 - 0xDC00) = c.toNat := by
      omega
    rw [joinSurrogates, code, Char.ofNat_toNat]
  rw [readLiteral_pair, joined]
  · omega
  · omega
  · simp only [isHighSurrogate, Bool.and_eq_true, decide_eq_true_eq]
    omega
  · simp only [isLowSurrogate, Bool.and_eq_true, decide_eq_true_eq]
    omega

/-- A character that has to be escaped is read back. -/
theorem readLiteral_required {c : Char} {escaped : List Char}
    (required : requiredEscape? c = some escaped) :
    readLiteral whole none (escaped ++ next :: rest) =
      extend [c] (readLiteral whole none (next :: rest)) := by
  have simple {sign letter : Char} (same : (c == sign) = true)
      (stands : simpleEscape? letter = some sign) (notUnit : letter ≠ 'u') :
      readLiteral whole none (['\\', letter] ++ next :: rest) =
        extend [c] (readLiteral whole none (next :: rest)) := by
    rw [beq_iff_eq.mp same]
    exact readLiteral_simple stands notUnit
  unfold requiredEscape? at required
  split at required
  · exact Option.some.inj required ▸ simple ‹_› rfl (by decide)
  split at required
  · exact Option.some.inj required ▸ simple ‹_› rfl (by decide)
  split at required
  · exact Option.some.inj required ▸ simple ‹_› rfl (by decide)
  split at required
  · exact Option.some.inj required ▸ simple ‹_› rfl (by decide)
  split at required
  · exact Option.some.inj required ▸ simple ‹_› rfl (by decide)
  split at required
  · exact Option.some.inj required ▸ simple ‹_› rfl (by decide)
  split at required
  · exact Option.some.inj required ▸ simple ‹_› rfl (by decide)
  split at required
  · exact Option.some.inj required ▸ readLiteral_control ‹_›
  · contradiction

/-- What need not be escaped stands for itself. -/
theorem visible_of_requiredEscape? {c : Char} (free : requiredEscape? c = none) :
    c ≠ '\x22' ∧ c ≠ '\\' ∧ 0x20 ≤ c.toNat := by
  refine ⟨?_, ?_, ?_⟩
  · rintro rfl
    contradiction
  · rintro rfl
    contradiction
  · apply Nat.le_of_not_lt
    intro hidden
    unfold requiredEscape? at free
    repeat
      split at free
      · contradiction
    contradiction

/-- A character of a literal is read back. -/
theorem readLiteral_escape (c : Char) :
    readLiteral whole none (escape c ++ next :: rest) =
      extend [c] (readLiteral whole none (next :: rest)) := by
  unfold escape
  cases required : requiredEscape? c with
  | some escaped => exact readLiteral_required required
  | none =>
      obtain ⟨notQuote, notBackslash, visible⟩ := visible_of_requiredEscape? required
      exact readLiteral_plain notQuote notBackslash visible

/-- A character of a literal in ASCII is read back. -/
theorem readLiteral_escapeAscii (c : Char) :
    readLiteral whole none (escapeAscii c ++ next :: rest) =
      extend [c] (readLiteral whole none (next :: rest)) := by
  unfold escapeAscii
  cases required : requiredEscape? c with
  | some escaped => exact readLiteral_required required
  | none =>
      obtain ⟨notQuote, notBackslash, visible⟩ := visible_of_requiredEscape? required
      dsimp only
      split
      · exact readLiteral_plain notQuote notBackslash visible
      split
      · exact readLiteral_basic ‹_›
      · rw [List.append_assoc]
        exact readLiteral_beyond (Nat.le_of_not_lt ‹_›)

end Reading

/-- Characters that are written so that each is read back are read back in a
row, up to the closing quote. -/
theorem readLiteral_flatMap {write : Char → List Char} (whole : List Char)
    (readsBack : ∀ c next rest, readLiteral whole none (write c ++ next :: rest) =
      extend [c] (readLiteral whole none (next :: rest))) (text rest : List Char) :
    readLiteral whole none (text.flatMap write ++ '\x22' :: rest) = .ok (text, rest) := by
  induction text with
  | nil => simp [readLiteral, unpaired]
  | cons c later ih =>
      obtain ⟨next, more, follows⟩ : ∃ next more,
          later.flatMap write ++ '\x22' :: rest = next :: more := by
        cases later.flatMap write <;> exact ⟨_, _, rfl⟩
      rw [List.flatMap_cons, List.append_assoc, follows, readsBack, ← follows, ih]
      rfl

/-- A literal is read back as its text. -/
theorem unquote?_quote (text : String) : unquote? (quote text).toList = some text.toList := by
  rw [quote, String.toList_ofList, quoteChars, unquote?,
    readLiteral_flatMap _ fun c _ _ => readLiteral_escape c]
  simp

/-- A literal in ASCII is read back as its text. -/
theorem unquote?_quoteAscii (text : String) :
    unquote? (quoteAscii text).toList = some text.toList := by
  rw [quoteAscii, String.toList_ofList, unquote?,
    readLiteral_flatMap _ fun c _ _ => readLiteral_escapeAscii c]
  simp

end Crowsfoot.Json
