import Crowsfoot.Json.Literal
import Crowsfoot.Proofs.Text.CharacterClass

/-!
# The characters of a string literal

How each character stands inside a literal: as itself, after a backslash, or
as a backslash and letters.  An escape brings in no character but ASCII
letters, digits, quotes and backslashes, so a sign or a line boundary inside a
literal was in the text already.
-/

namespace Crowsfoot.Json

/-- The ways in which a character is written inside a literal. -/
inductive EscapeForm (c : Char) : Prop
  | plain (visible : 0x20 ≤ c.toNat) (notQuote : c ≠ '\x22') (notBackslash : c ≠ '\\')
      (form : escape c = [c])
  | quote (same : c = '\x22') (form : escape c = ['\\', '\x22'])
  | backslash (same : c = '\\') (form : escape c = ['\\', '\\'])
  | control (hidden : c.toNat < 0x20) (letter : Char) (letters : List Char)
      (alphanumeric : ∀ d ∈ letter :: letters, d.isAlphanum = true)
      (form : escape c = '\\' :: letter :: letters)

/-- A control character is written as a backslash with letters and digits. -/
theorem escape_control : ∀ code < 0x20,
    escape (Char.ofNat code) =
        '\\' :: (escape (Char.ofNat code)).tail.headD 'u' ::
          (escape (Char.ofNat code)).tail.tail ∧
      ∀ d ∈ (escape (Char.ofNat code)).tail.headD 'u' ::
          (escape (Char.ofNat code)).tail.tail, d.isAlphanum = true := by
  decide

/-- Every character has one of the forms. -/
theorem escapeForm (c : Char) : EscapeForm c := by
  by_cases quote : c = '\x22'
  · subst c
    exact .quote rfl rfl
  by_cases backslash : c = '\\'
  · subst c
    exact .backslash rfl rfl
  by_cases visible : 0x20 ≤ c.toNat
  · have notControl : ∀ sign : Char, sign.toNat < 0x20 → ¬c = sign := by
      rintro sign small rfl
      omega
    apply EscapeForm.plain visible quote backslash
    simp [escape, requiredEscape?, quote, backslash, notControl '\n' (by decide),
      notControl '\r' (by decide), notControl '\t' (by decide), notControl '\x08' (by decide),
      notControl '\x0C' (by decide), Nat.not_lt.mpr visible]
  · have hidden : c.toNat < 0x20 := Nat.lt_of_not_le visible
    obtain ⟨form, alphanumeric⟩ := escape_control c.toNat hidden
    rw [Char.ofNat_toNat] at form alphanumeric
    exact .control hidden _ _ alphanumeric form

/-- A character inside the literal of a character is the character itself, or
one of the characters that escapes are made of. -/
theorem eq_or_of_mem_escape {c d : Char} (member : d ∈ escape c) :
    (d = c ∧ 0x20 ≤ c.toNat) ∨ d = '\\' ∨ d = '\x22' ∨ d.isAlphanum = true := by
  rcases escapeForm c with ⟨visible, -, -, form⟩ | ⟨-, form⟩ | ⟨-, form⟩ |
      ⟨-, letter, letters, alphanumeric, form⟩
  · rw [form, List.mem_singleton] at member
    exact .inl ⟨member, visible⟩
  · rw [form] at member
    simp only [List.mem_cons, List.not_mem_nil, or_false] at member
    rcases member with rfl | rfl
    · exact .inr (.inl rfl)
    · exact .inr (.inr (.inl rfl))
  · rw [form] at member
    simp only [List.mem_cons, List.not_mem_nil, or_false, or_self] at member
    exact .inr (.inl member)
  · rw [form] at member
    rcases List.mem_cons.mp member with rfl | written
    · exact .inr (.inl rfl)
    · exact .inr (.inr (.inr (alphanumeric d written)))

/-- A sign that no escape is made of stands in a literal only where it stood
in the text. -/
theorem mem_of_mem_quoteChars {text : List Char} {sign : Char} (notQuote : sign ≠ '\x22')
    (notBackslash : sign ≠ '\\') (notAlphanumeric : sign.isAlphanum = false)
    (member : sign ∈ quoteChars text) : sign ∈ text ∧ 0x20 ≤ sign.toNat := by
  have inside : sign ∈ text.flatMap escape := by
    simpa [quoteChars, notQuote] using member
  obtain ⟨c, textMember, written⟩ := List.mem_flatMap.mp inside
  rcases eq_or_of_mem_escape written with ⟨rfl, visible⟩ | backslash | quote | alphanumeric
  · exact ⟨textMember, visible⟩
  · exact absurd backslash notBackslash
  · exact absurd quote notQuote
  · rw [notAlphanumeric] at alphanumeric
    contradiction

@[simp]
theorem toList_quote (text : String) : (quote text).toList = quoteChars text.toList := by
  simp [quote]

end Crowsfoot.Json
