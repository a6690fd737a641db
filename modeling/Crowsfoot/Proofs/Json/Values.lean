import Crowsfoot.Json.Printer
import Crowsfoot.Json.Reader
import Crowsfoot.Proofs.Assoc
import Crowsfoot.Proofs.Json.Literals
import Crowsfoot.Proofs.Text.Lines

/-!
# Values read back

A value that is written as JSON text, on one line or over indented lines, in
ASCII or not, is read back as the same value.  Left out are floating point
numbers, integers of more digits than the reader accepts, and objects that hold
a name twice.
-/

namespace Crowsfoot.Json

open Crowsfoot.Text (Stops stops_nil stops_cons_iff takeWhile_append_of_stops
  dropWhile_append_of_stops dropWhile_of_stops ne_of_class isWord_of_isAlphanum
  isAlphanum_of_isDigit isBlank_of_isWord joined toList_joined_cons)

theorem naturalOf_append (digits : List Char) (digit : Char) :
    naturalOf (digits ++ [digit]) = 10 * naturalOf digits + (digit.toNat - 0x30) := by
  simp [naturalOf]

/-- A numeral gives back its number. -/
theorem naturalOf_toDigits (n : Nat) : naturalOf (Nat.toDigits 10 n) = n := by
  induction n using Nat.strongRecOn with
  | ind n ih =>
      have digit {d : Nat} (small : d < 10) : (Nat.digitChar d).toNat - 0x30 = d := by
        rw [Nat.toNat_digitChar_of_lt_ten small]
        omega
      rw [Nat.toDigits_eq_if (by decide)]
      split
      · rename_i small
        change 10 * 0 + ((Nat.digitChar n).toNat - 0x30) = n
        rw [digit small]
        omega
      · rename_i large
        rw [naturalOf_append, ih (n / 10) (by omega), digit (Nat.mod_lt n (by decide))]
        omega

/-- A numeral begins with a zero only if it is the numeral of zero. -/
theorem head?_toDigits {n : Nat} (positive : n ≠ 0) : (Nat.toDigits 10 n).head? ≠ some '0' := by
  induction n using Nat.strongRecOn with
  | ind n ih =>
      rw [Nat.toDigits_eq_if (by decide)]
      split
      · rename_i small
        have others : ∀ d < 10, d ≠ 0 → some (Nat.digitChar d) ≠ some '0' := by decide
        exact others n small positive
      · rename_i large
        have front := ih (n / 10) (by omega) (by omega)
        obtain ⟨first, later, spelled⟩ :=
          List.exists_cons_of_ne_nil (Nat.toDigits_ne_nil (b := 10) (n := n / 10))
        rw [spelled] at front ⊢
        exact front

theorem isAsciiDigit_of_mem_toDigits {n : Nat} {c : Char} (member : c ∈ Nat.toDigits 10 n) :
    isAsciiDigit c = true :=
  Nat.isDigit_of_mem_toDigits (by decide) (by decide) member

/-- Whether a character can continue a number. -/
def continuesNumber (c : Char) : Bool :=
  isAsciiDigit c || c == '.' || c == 'e' || c == 'E'

/-- The integer part of a number is its numeral, if nothing continues it. -/
theorem readWhole_toDigits (n : Nat) {rest : List Char} (ends : Stops continuesNumber rest) :
    readWhole (Nat.toDigits 10 n ++ rest) = some (Nat.toDigits 10 n, rest) := by
  have digitEnds : Stops isAsciiDigit rest := by
    intro c first
    have other := ends c first
    simp only [continuesNumber, Bool.or_eq_false_iff] at other
    exact other.1.1.1
  rcases Nat.eq_zero_or_pos n with rfl | positive
  · rfl
  · have noZero := head?_toDigits (Nat.ne_of_gt positive)
    have digits := fun c => isAsciiDigit_of_mem_toDigits (n := n) (c := c)
    obtain ⟨first, later, spelled⟩ :=
      List.exists_cons_of_ne_nil (Nat.toDigits_ne_nil (b := 10) (n := n))
    rw [spelled] at noZero digits ⊢
    have laterDigits : ∀ c ∈ later, isAsciiDigit c = true :=
      fun c member => digits c (List.mem_cons_of_mem _ member)
    have firstNotZero : (first == '0') = false := by simpa using noZero
    rw [List.cons_append, readWhole, firstNotZero, digits first List.mem_cons_self,
      takeWhile_append_of_stops laterDigits digitEnds,
      dropWhile_append_of_stops laterDigits digitEnds]
    rfl

/-- A number without a fraction and an exponent ends behind its numeral. -/
theorem readFraction_of_stops {rest : List Char} (ends : Stops continuesNumber rest) :
    readFraction rest = ([], rest) ∧ readExponent rest = (none, rest) := by
  cases rest with
  | nil => exact ⟨rfl, rfl⟩
  | cons c later =>
      have other := stops_cons_iff.mp ends
      simp only [continuesNumber, Bool.or_eq_false_iff, beq_eq_false_iff_ne] at other
      obtain ⟨⟨⟨-, notPoint⟩, notSmall⟩, notLarge⟩ := other
      constructor
      · unfold readFraction
        split
        · rename_i begun
          exact absurd (List.cons.inj begun).1 notPoint
        · rfl
      · simp [readExponent, notSmall, notLarge]

/-- The characters of an integer. -/
theorem toList_toString_int_eq (number : Int) :
    (toString number).toList =
      (if number < 0 then ['-'] else []) ++ Nat.toDigits 10 number.natAbs := by
  have natural (n : Nat) : (toString n).toList = Nat.toDigits 10 n := by
    simp [toString, Nat.repr]
  cases number with
  | ofNat n =>
      rw [if_neg (by simp), List.nil_append]
      exact natural n
  | negSucc n =>
      rw [if_pos (Int.negSucc_lt_zero n)]
      exact (String.toList_append ..).trans (congrArg ('-' :: ·) (natural (n + 1)))

/-- An integer is read back, unless it has too many digits or is continued. -/
theorem readNumber_toString {number : Int}
    (short : (Nat.toDigits 10 number.natAbs).length ≤ maxIntegerDigits) {rest : List Char}
    (ends : Stops continuesNumber rest) :
    readNumber ((toString number).toList ++ rest) = some (.ok (.int number, rest)) := by
  have whole := readWhole_toDigits number.natAbs ends
  have value := naturalOf_toDigits number.natAbs
  obtain ⟨fraction, exponent⟩ := readFraction_of_stops ends
  have notLong : ¬maxIntegerDigits < (Nat.toDigits 10 number.natAbs).length := by omega
  rw [toList_toString_int_eq]
  by_cases negative : number < 0
  · have same : -(number.natAbs : Int) = number := by omega
    rw [if_pos negative]
    simp only [readNumber, List.cons_append, List.nil_append, whole, fraction, exponent, value,
      List.isEmpty_nil, if_true, if_neg notLong, same]
  · have same : (number.natAbs : Int) = number := by omega
    have noSign : ∀ later, Nat.toDigits 10 number.natAbs ++ rest ≠ '-' :: later := by
      intro later begun
      rw [begun] at whole
      contradiction
    rw [if_neg negative, List.nil_append, readNumber]
    · simp only [whole, fraction, exponent, value, List.isEmpty_nil, if_true, if_neg notLong,
        Bool.false_eq_true, if_false, same]
    · exact noSign

/-- An integer begins with its sign or with a digit. -/
theorem toString_begins (number : Int) :
    ∃ c later, (toString number).toList = c :: later ∧ (c = '-' ∨ isAsciiDigit c = true) := by
  obtain ⟨first, later, spelled⟩ :=
    List.exists_cons_of_ne_nil (Nat.toDigits_ne_nil (b := 10) (n := number.natAbs))
  have digit : isAsciiDigit first = true :=
    isAsciiDigit_of_mem_toDigits (spelled ▸ List.mem_cons_self)
  rw [toList_toString_int_eq, spelled]
  split
  · exact ⟨'-', _, rfl, .inl rfl⟩
  · exact ⟨first, later, rfl, .inr digit⟩

/-- No integer begins as a word does. -/
theorem readWord_toString (number : Int) (rest : List Char) :
    readWord ((toString number).toList ++ rest) = none := by
  have noWord {c : Char} (digit : isAsciiDigit c = true) :
      c ≠ 'n' ∧ c ≠ 't' ∧ c ≠ 'f' ∧ c ≠ 'N' ∧ c ≠ 'I' ∧ c ≠ '-' := by
    refine ⟨?_, ?_, ?_, ?_, ?_, ?_⟩ <;> exact ne_of_class digit rfl
  obtain ⟨first, later, spelled⟩ :=
    List.exists_cons_of_ne_nil (Nat.toDigits_ne_nil (b := 10) (n := number.natAbs))
  have digit : isAsciiDigit first = true :=
    isAsciiDigit_of_mem_toDigits (spelled ▸ List.mem_cons_self)
  obtain ⟨null, true, false, notANumber, infinity, sign⟩ := noWord digit
  rw [toList_toString_int_eq, spelled]
  split <;> simp [readWord, words, null.symm, true.symm, false.symm, notANumber.symm,
    infinity.symm, sign.symm]

/-- A way to write string literals so that they are read back. -/
def ReadsBack (literal : String → String) : Prop :=
  ∀ text, ∃ content, (literal text).toList = '\x22' :: content ∧
    ∀ rest, readText (content ++ rest) = .ok (text, rest)

theorem readsBack_of_flatMap {literal : String → String} {write : Char → List Char}
    (spelled : ∀ text, (literal text).toList = '\x22' :: (text.toList.flatMap write ++ ['\x22']))
    (readsBack : ∀ whole c next rest, readLiteral whole none (write c ++ next :: rest) =
      extend [c] (readLiteral whole none (next :: rest))) : ReadsBack literal := by
  intro text
  refine ⟨_, spelled text, fun rest => ?_⟩
  rw [List.append_assoc, List.singleton_append, readText, readLiteral_flatMap _ (readsBack _)]
  simp

theorem readsBack_quote : ReadsBack quote :=
  readsBack_of_flatMap (fun _ => String.toList_ofList) fun _ c _ _ => readLiteral_escape c

theorem readsBack_quoteAscii : ReadsBack quoteAscii :=
  readsBack_of_flatMap (fun _ => String.toList_ofList) fun _ c _ _ => readLiteral_escapeAscii c

theorem isSpace_of_mem_break (spread : Spread) {c : Char} (member : c ∈ spread.break.toList) :
    isSpace c = true := by
  cases spread with
  | line => exact absurd member (by simp [Spread.break])
  | lines depth =>
      simp only [Spread.break, String.toList_append, String.toList_ofList,
        List.mem_append] at member
      rcases member with lineFeed | blank
      · have lineFeeds : ∀ c ∈ "\n".toList, isSpace c = true := by decide
        exact lineFeeds c lineFeed
      · rw [List.eq_of_mem_replicate blank]
        rfl

/-- The text of the parts behind a first one, each after a separator. -/
def laterText {α : Type} (write : α → String) (spread : Spread) (later : List α) : List Char :=
  later.flatMap fun part => spread.separator.toList ++ (write part).toList

theorem toList_joined_map {α : Type} (write : α → String) (spread : Spread) (first : α)
    (later : List α) : (joined spread.separator ((first :: later).map write)).toList =
      (write first).toList ++ laterText write spread later := by
  rw [List.map_cons, toList_joined_cons, List.flatMap_map, laterText]

/-- Every later part stands behind a comma and white space. -/
theorem laterText_cons {α : Type} (write : α → String) (spread : Spread) (next : α)
    (later : List α) : ∃ gap, (∀ c ∈ gap, isSpace c = true) ∧
      laterText write spread (next :: later) =
        ',' :: (gap ++ ((write next).toList ++ laterText write spread later)) := by
  have commaFirst : ∃ gap, (∀ c ∈ gap, isSpace c = true) ∧
      spread.separator.toList = ',' :: gap := by
    cases spread with
    | line => exact ⟨[' '], by decide, by simp [Spread.separator]⟩
    | lines depth =>
        exact ⟨_, fun c member => isSpace_of_mem_break (.lines depth) member,
          by simp [Spread.separator]⟩
  obtain ⟨gap, space, separated⟩ := commaFirst
  refine ⟨gap, space, ?_⟩
  rw [laterText, List.flatMap_cons, ← laterText, separated]
  simp

/-- A bracket with its parts, all spelled out. -/
theorem toList_enclose {α : Type} (write : α → String) (spread : Spread)
    (opening closing : String) (first : α) (later : List α) :
    (spread.enclose opening closing ((first :: later).map write)).toList =
      opening.toList ++ (spread.deeper.break.toList ++ ((write first).toList ++
        (laterText write spread.deeper later ++ (spread.break.toList ++ closing.toList)))) := by
  have filled : ((first :: later).map write).isEmpty = false := rfl
  rw [Spread.enclose, filled]
  simp only [Bool.false_eq_true, if_false, String.toList_append, toList_joined_map,
    List.append_assoc]

theorem skipSpace_append {gap : List Char} (space : ∀ c ∈ gap, isSpace c = true)
    {rest : List Char} (begins : Stops isSpace rest) : skipSpace (gap ++ rest) = rest :=
  dropWhile_append_of_stops space begins

/-- White space, a comma and a closing bracket do not continue a number. -/
theorem continuesNumber_of_isSpace {c : Char} (space : isSpace c = true) :
    continuesNumber c = false := by
  simp only [isSpace, Bool.or_eq_true, beq_iff_eq] at space
  rcases space with ((rfl | rfl) | rfl) | rfl <;> rfl

/-- A gap and what follows it continue no number, if the latter does not. -/
theorem stops_gap {gap : List Char} (space : ∀ c ∈ gap, isSpace c = true) {c : Char}
    (ends : continuesNumber c = false) (rest : List Char) :
    Stops continuesNumber (gap ++ c :: rest) := by
  cases gap with
  | nil => exact stops_cons_iff.mpr ends
  | cons d later =>
      exact stops_cons_iff.mpr (continuesNumber_of_isSpace (space d List.mem_cons_self))

/-! ## Values -/

/-- A value that has a text which is read back: its integers are not too long,
and no object has two members with one name. -/
inductive Readable : Value → Prop
  | null : Readable .null
  | bool (truth : Bool) : Readable (.bool truth)
  | int {number : Int} (short : (Nat.toDigits 10 number.natAbs).length ≤ maxIntegerDigits) :
      Readable (.int number)
  | string (text : String) : Readable (.string text)
  | array {items : List Value} (each : ∀ item ∈ items, Readable item) : Readable (.array items)
  | object {members : List (String × Value)} (distinct : (Assoc.keys members).Nodup)
      (each : ∀ member ∈ members, Readable member.2) : Readable (.object members)

section Writing

variable (literal : String → String)

/-- The text of a value is read back by any depth of calls that suffices for
its length. -/
def IsRead (value : Value) : Prop :=
  ∀ spread fuel rest, Stops continuesNumber rest →
    2 * ((value.write literal spread).toList ++ rest).length ≤ fuel →
    readValue fuel ((value.write literal spread).toList ++ rest) = .ok (value, rest)

theorem writeItems_eq_map (spread : Spread) (items : List Value) :
    writeItems literal spread items = items.map (Value.write literal spread) := by
  induction items with
  | nil => rfl
  | cons item later ih => rw [writeItems, ih, List.map_cons]

/-- The text of a member. -/
def memberText (spread : Spread) (member : String × Value) : String :=
  literal member.1 ++ ": " ++ member.2.write literal spread

theorem writeMembers_eq_map (spread : Spread) (members : List (String × Value)) :
    writeMembers literal spread members = members.map (memberText literal spread) := by
  induction members with
  | nil => rfl
  | cons member later ih => rw [writeMembers, ih, List.map_cons, memberText]

variable {literal} (readsBack : ReadsBack literal)
include readsBack

/-- The text of a value begins with a sign of its own. -/
theorem write_begins {value : Value} (readable : Readable value) (spread : Spread) :
    ∃ c later, (value.write literal spread).toList = c :: later ∧ isSpace c = false ∧
      c ≠ ']' ∧ c ≠ '\uFEFF' := by
  have enclosed (opening : Char)
      (own : isSpace opening = false ∧ opening ≠ ']' ∧ opening ≠ '\uFEFF') (closing : String)
      (parts : List String) : ∃ c later,
        (spread.enclose (String.singleton opening) closing parts).toList = c :: later ∧
          isSpace c = false ∧ c ≠ ']' ∧ c ≠ '\uFEFF' := by
    refine ⟨opening, ?_⟩
    unfold Spread.enclose
    split <;> simp [own]
  cases readable with
  | null => exact ⟨'n', "ull".toList, by simp [Value.write], by decide⟩
  | bool truth =>
      cases truth with
      | false => exact ⟨'f', "alse".toList, by simp [Value.write], by decide⟩
      | true => exact ⟨'t', "rue".toList, by simp [Value.write], by decide⟩
  | @int number short =>
      obtain ⟨c, later, spelled, rfl | digit⟩ := toString_begins number
      · exact ⟨'-', later, spelled, by decide⟩
      · refine ⟨c, later, spelled, ?_, ne_of_class digit rfl, ne_of_class digit rfl⟩
        rw [← Bool.not_eq_true]
        intro space
        have other := continuesNumber_of_isSpace space
        rw [continuesNumber, digit] at other
        contradiction
  | string text =>
      obtain ⟨content, spelled, -⟩ := readsBack text
      exact ⟨'\x22', content, spelled, by decide⟩
  | array each => exact enclosed '[' (by decide) _ _
  | object distinct each => exact enclosed '\x7b' (by decide) _ _

omit readsBack in
/-- What follows a part continues no number: a separator, or white space and a
closing bracket. -/
theorem stops_laterText {α : Type} (write : α → String) (spread : Spread) (later : List α)
    {gap : List Char} (space : ∀ c ∈ gap, isSpace c = true) {closing : Char}
    (closes : continuesNumber closing = false) (rest : List Char) :
    Stops continuesNumber (laterText write spread later ++ (gap ++ closing :: rest)) := by
  cases later with
  | nil => exact stops_gap space closes rest
  | cons next more =>
      obtain ⟨separatorGap, -, spelled⟩ := laterText_cons write spread next more
      rw [spelled]
      exact stops_cons_iff.mpr rfl

omit readsBack in
/-- The last item of an array stands before its closing bracket. -/
theorem readItems_last {fuel : Nat} {text tail after : List Char} {item : Value}
    (read : readValue fuel text = .ok (item, tail)) (closed : skipSpace tail = ']' :: after) :
    readItems (fuel + 1) text = .ok ([item], after) := by
  rw [readItems, read]
  simp only [bind, Except.bind, closed]
  rfl

omit readsBack in
/-- Every other item stands before a comma. -/
theorem readItems_more {fuel : Nat} {text tail next after : List Char} {item : Value}
    {items : List Value} (read : readValue fuel text = .ok (item, tail))
    (comma : skipSpace tail = ',' :: next)
    (laterRead : readItems fuel (skipSpace next) = .ok (items, after)) :
    readItems (fuel + 1) text = .ok (item :: items, after) := by
  rw [readItems, read]
  simp only [bind, Except.bind, comma, laterRead]
  rfl

/-- The items of an array are read back up to its closing bracket. -/
theorem readItems_written (spread : Spread) {gap : List Char}
    (space : ∀ c ∈ gap, isSpace c = true) (rest : List Char) {first : Value}
    {later : List Value} (readable : ∀ item ∈ first :: later, Readable item)
    (each : ∀ item ∈ first :: later, IsRead literal item) {fuel : Nat}
    (enough : 2 * ((first.write literal spread).toList ++
      (laterText (Value.write literal spread) spread later ++ (gap ++ ']' :: rest))).length <
        fuel) :
    readItems fuel ((first.write literal spread).toList ++
      (laterText (Value.write literal spread) spread later ++ (gap ++ ']' :: rest))) =
        .ok (first :: later, rest) := by
  induction later generalizing first fuel with
  | nil =>
      obtain ⟨fuel, rfl⟩ : ∃ smaller, fuel = smaller + 1 := ⟨fuel - 1, by omega⟩
      have ends := stops_laterText (Value.write literal spread) spread [] space
        (rfl : continuesNumber ']' = false) rest
      exact readItems_last (each first List.mem_cons_self spread fuel _ ends (by omega))
        (skipSpace_append space (stops_cons_iff.mpr rfl))
  | cons next more ih =>
      obtain ⟨fuel, rfl⟩ : ∃ smaller, fuel = smaller + 1 := ⟨fuel - 1, by omega⟩
      have ends := stops_laterText (Value.write literal spread) spread (next :: more) space
        (rfl : continuesNumber ']' = false) rest
      have firstRead := each first List.mem_cons_self spread fuel _ ends (by omega)
      obtain ⟨separatorGap, separatorSpace, spelled⟩ :=
        laterText_cons (Value.write literal spread) spread next more
      obtain ⟨c, behind, begun, notSpace, -⟩ := write_begins readsBack
        (readable next (List.mem_cons_of_mem _ List.mem_cons_self)) spread
      rw [spelled, List.cons_append, List.append_assoc, List.append_assoc] at firstRead enough ⊢
      refine readItems_more firstRead (rfl : skipSpace (',' :: _) = _) ?_
      rw [skipSpace_append separatorSpace (begun ▸ stops_cons_iff.mpr notSpace)]
      apply ih (fun item member => readable item (List.mem_cons_of_mem _ member))
        (fun item member => each item (List.mem_cons_of_mem _ member))
      simp only [List.length_append, List.length_cons] at enough ⊢
      omega

omit readsBack in
/-- The last member of an object stands before its closing brace. -/
theorem readMembers_last {fuel : Nat} {text afterName tail after : List Char} {name : String}
    {value : Value} (nameRead : readText text = .ok (name, ':' :: ' ' :: afterName))
    (read : readValue fuel (skipSpace afterName) = .ok (value, tail))
    (closed : skipSpace tail = '\x7d' :: after) :
    readMembers (fuel + 1) ('\x22' :: text) = .ok ([(name, value)], after) := by
  have colon : skipSpace (':' :: ' ' :: afterName) = ':' :: ' ' :: afterName := rfl
  have blank : skipSpace (' ' :: afterName) = skipSpace afterName := rfl
  rw [readMembers, nameRead]
  simp only [bind, Except.bind, colon, blank, read, closed]
  rfl

omit readsBack in
/-- Every other member stands before a comma. -/
theorem readMembers_more {fuel : Nat} {text afterName tail next after : List Char} {name : String}
    {value : Value} {members : List (String × Value)}
    (nameRead : readText text = .ok (name, ':' :: ' ' :: afterName))
    (read : readValue fuel (skipSpace afterName) = .ok (value, tail))
    (comma : skipSpace tail = ',' :: next)
    (laterRead : readMembers fuel (skipSpace next) = .ok (members, after)) :
    readMembers (fuel + 1) ('\x22' :: text) = .ok ((name, value) :: members, after) := by
  have colon : skipSpace (':' :: ' ' :: afterName) = ':' :: ' ' :: afterName := rfl
  have blank : skipSpace (' ' :: afterName) = skipSpace afterName := rfl
  rw [readMembers, nameRead]
  simp only [bind, Except.bind, colon, blank, read, comma, laterRead]
  rfl

/-- The text of a member is its literal, a colon and its value, and all of them
are read back. -/
theorem memberText_parts (spread : Spread) {member : String × Value}
    (readable : Readable member.2) (isRead : IsRead literal member.2) {fuel : Nat}
    {tail : List Char} (ends : Stops continuesNumber tail)
    (enough : 2 * ((memberText literal spread member).toList ++ tail).length ≤ fuel) :
    ∃ text afterName, (memberText literal spread member).toList ++ tail = '\x22' :: text ∧
      readText text = .ok (member.1, ':' :: ' ' :: afterName) ∧
      readValue fuel (skipSpace afterName) = .ok (member.2, tail) := by
  obtain ⟨content, spelled, nameRead⟩ := readsBack member.1
  obtain ⟨c, behind, begun, notSpace, -⟩ := write_begins readsBack readable spread
  have starts : Stops isSpace ((member.2.write literal spread).toList ++ tail) := by
    rw [begun]
    exact stops_cons_iff.mpr notSpace
  have whole : (memberText literal spread member).toList ++ tail =
      '\x22' :: (content ++ ':' :: ' ' :: ((member.2.write literal spread).toList ++ tail)) := by
    simp [memberText, spelled]
  refine ⟨_, _, whole, nameRead _, ?_⟩
  rw [skipSpace, dropWhile_of_stops starts]
  apply isRead spread fuel tail ends
  rw [whole] at enough
  simp only [List.length_append, List.length_cons] at enough ⊢
  omega

/-- The members of an object are read back up to its closing brace. -/
theorem readMembers_written (spread : Spread) {gap : List Char}
    (space : ∀ c ∈ gap, isSpace c = true) (rest : List Char) {first : String × Value}
    {later : List (String × Value)}
    (readable : ∀ member ∈ first :: later, Readable member.2)
    (each : ∀ member ∈ first :: later, IsRead literal member.2) {fuel : Nat}
    (enough : 2 * ((memberText literal spread first).toList ++
      (laterText (memberText literal spread) spread later ++ (gap ++ '\x7d' :: rest))).length <
        fuel) :
    readMembers fuel ((memberText literal spread first).toList ++
      (laterText (memberText literal spread) spread later ++ (gap ++ '\x7d' :: rest))) =
        .ok (first :: later, rest) := by
  induction later generalizing first fuel with
  | nil =>
      obtain ⟨fuel, rfl⟩ : ∃ smaller, fuel = smaller + 1 := ⟨fuel - 1, by omega⟩
      have ends := stops_laterText (memberText literal spread) spread [] space
        (rfl : continuesNumber '\x7d' = false) rest
      obtain ⟨text, afterName, spelled, nameRead, valueRead⟩ := memberText_parts readsBack spread
        (readable first List.mem_cons_self) (each first List.mem_cons_self) ends
        (by omega : _ ≤ fuel)
      rw [spelled]
      exact readMembers_last nameRead valueRead
        (skipSpace_append space (stops_cons_iff.mpr rfl))
  | cons next more ih =>
      obtain ⟨fuel, rfl⟩ : ∃ smaller, fuel = smaller + 1 := ⟨fuel - 1, by omega⟩
      have ends := stops_laterText (memberText literal spread) spread (next :: more) space
        (rfl : continuesNumber '\x7d' = false) rest
      obtain ⟨text, afterName, spelled, nameRead, valueRead⟩ := memberText_parts readsBack spread
        (readable first List.mem_cons_self) (each first List.mem_cons_self) ends
        (by omega : _ ≤ fuel)
      obtain ⟨separatorGap, separatorSpace, separated⟩ :=
        laterText_cons (memberText literal spread) spread next more
      obtain ⟨content, begun, -⟩ := readsBack next.1
      have starts (tail : List Char) :
          Stops isSpace ((memberText literal spread next).toList ++ tail) := by
        rw [memberText, String.toList_append, String.toList_append, begun]
        exact stops_cons_iff.mpr rfl
      rw [spelled]
      rw [separated, List.cons_append, List.append_assoc, List.append_assoc] at valueRead enough
      refine readMembers_more nameRead valueRead (rfl : skipSpace (',' :: _) = _) ?_
      rw [skipSpace_append separatorSpace (starts _)]
      apply ih (fun member inMore => readable member (List.mem_cons_of_mem _ inMore))
        (fun member inMore => each member (List.mem_cons_of_mem _ inMore))
      simp only [List.length_append, List.length_cons] at enough ⊢
      omega

/-! ## Texts -/

omit readsBack in
/-- An array is read from its items. -/
theorem readValue_brackets {gap : List Char} (space : ∀ c ∈ gap, isSpace c = true) {c : Char}
    {start later : List Char} (begun : start = c :: later) (notSpace : isSpace c = false)
    (notClosing : c ≠ ']') {fuel : Nat} {after : List Char} {items : List Value}
    (read : readItems fuel start = .ok (items, after)) :
    readValue (fuel + 1) ('[' :: (gap ++ start)) = .ok (.array items, after) := by
  rw [readValue, skipSpace_append space (begun ▸ stops_cons_iff.mpr notSpace), if_neg (by decide),
    if_pos (beq_self_eq_true _)]
  split
  · exact absurd (List.cons.inj begun).1.symm notClosing
  · rw [read]
    rfl

omit readsBack in
/-- An object is read from its members. -/
theorem readValue_braces {gap : List Char} (space : ∀ c ∈ gap, isSpace c = true)
    {start later : List Char} (begun : start = '\x22' :: later) {fuel : Nat} {after : List Char}
    {members : List (String × Value)} (distinct : (Assoc.keys members).Nodup)
    (read : readMembers fuel start = .ok (members, after)) :
    readValue (fuel + 1) ('\x7b' :: (gap ++ start)) = .ok (.object members, after) := by
  rw [readValue, skipSpace_append space (begun ▸ stops_cons_iff.mpr rfl), if_neg (by decide),
    if_neg (by decide), if_pos (beq_self_eq_true _)]
  split
  · exact absurd (List.cons.inj begun).1 (by decide)
  · rw [read]
    simp only [bind, Except.bind, Assoc.ofList_of_nodup distinct]
    rfl

omit readsBack in
/-- A word is read as its value. -/
theorem readValue_word {c : Char} {rest after : List Char} {value : Value}
    (bare : c ≠ '\x22' ∧ c ≠ '[' ∧ c ≠ '\x7b')
    (read : readWord (c :: rest) = some (value, after)) (fuel : Nat) :
    readValue (fuel + 1) (c :: rest) = .ok (value, after) := by
  rw [readValue, read]
  simp [bare]
  rfl

omit readsBack in
/-- Where no word stands, a number is read. -/
theorem readValue_number {c : Char} {rest after : List Char} {value : Value}
    (bare : c ≠ '\x22' ∧ c ≠ '[' ∧ c ≠ '\x7b') (noWord : readWord (c :: rest) = none)
    (read : readNumber (c :: rest) = some (.ok (value, after))) (fuel : Nat) :
    readValue (fuel + 1) (c :: rest) = .ok (value, after) := by
  rw [readValue, noWord, read]
  simp [bare]
  rfl

/-- A text of a readable value is not empty, so that its reading takes a call. -/
theorem isRead_of_succ {value : Value} (readable : Readable value)
    (read : ∀ spread fuel rest, Stops continuesNumber rest →
      2 * ((value.write literal spread).toList ++ rest).length ≤ fuel + 1 →
      readValue (fuel + 1) ((value.write literal spread).toList ++ rest) = .ok (value, rest)) :
    IsRead literal value := by
  intro spread fuel rest ends enough
  obtain ⟨c, behind, begun, -⟩ := write_begins readsBack readable spread
  have positive : 0 < fuel := by
    rw [begun] at enough
    simp only [List.cons_append, List.length_cons] at enough
    omega
  obtain ⟨smaller, rfl⟩ : ∃ smaller, fuel = smaller + 1 := ⟨fuel - 1, by omega⟩
  exact read spread smaller rest ends enough

/-- A value that is written as a word is read back. -/
theorem isRead_of_word {value : Value} (readable : Readable value) (c : Char) (letters : List Char)
    (text : ∀ spread, (value.write literal spread).toList = c :: letters)
    (bare : c ≠ '\x22' ∧ c ≠ '[' ∧ c ≠ '\x7b')
    (read : ∀ rest, readWord (c :: (letters ++ rest)) = some (value, rest)) :
    IsRead literal value := by
  refine isRead_of_succ readsBack readable fun spread fuel rest _ _ => ?_
  rw [text]
  exact readValue_word bare (read rest) fuel

theorem isRead_int {number : Int}
    (short : (Nat.toDigits 10 number.natAbs).length ≤ maxIntegerDigits) :
    IsRead literal (.int number) := by
  refine isRead_of_succ readsBack (.int short) fun spread fuel rest ends _ => ?_
  obtain ⟨c, later, spelled, begins⟩ := toString_begins number
  have bare : c ≠ '\x22' ∧ c ≠ '[' ∧ c ≠ '\x7b' := by
    rcases begins with rfl | digit
    · decide
    · exact ⟨ne_of_class digit rfl, ne_of_class digit rfl, ne_of_class digit rfl⟩
  have noWord := readWord_toString number rest
  have read := readNumber_toString short ends
  rw [Value.write]
  rw [spelled] at noWord read ⊢
  exact readValue_number bare noWord read fuel

theorem isRead_string (text : String) : IsRead literal (.string text) := by
  refine isRead_of_succ readsBack (.string text) fun spread fuel rest _ _ => ?_
  obtain ⟨content, spelled, read⟩ := readsBack text
  rw [Value.write, spelled, List.cons_append, readValue, if_pos (beq_self_eq_true _), read]
  rfl

theorem isRead_array {items : List Value} (readable : ∀ item ∈ items, Readable item)
    (each : ∀ item ∈ items, IsRead literal item) : IsRead literal (.array items) := by
  refine isRead_of_succ readsBack (.array readable) fun spread fuel rest _ enough => ?_
  cases items with
  | nil =>
      have text : ((Value.array []).write literal spread).toList = ['[', ']'] := by
        simp [Value.write, writeItems, Spread.enclose]
      rw [text]
      rfl
  | cons first later =>
      obtain ⟨c, behind, begun, notSpace, notClosing, -⟩ :=
        write_begins readsBack (readable first List.mem_cons_self) spread.deeper
      have text : ((Value.array (first :: later)).write literal spread).toList ++ rest =
          '[' :: (spread.deeper.break.toList ++ ((first.write literal spread.deeper).toList ++
            (laterText (Value.write literal spread.deeper) spread.deeper later ++
              (spread.break.toList ++ ']' :: rest)))) := by
        rw [Value.write, writeItems_eq_map, toList_enclose]
        simp
      rw [text] at enough ⊢
      refine readValue_brackets (fun c => isSpace_of_mem_break _)
        (by rw [begun, List.cons_append]) notSpace notClosing ?_
      apply readItems_written readsBack spread.deeper (fun c => isSpace_of_mem_break _) rest
        readable each
      simp only [List.length_append, List.length_cons] at enough ⊢
      omega

theorem isRead_object {members : List (String × Value)} (distinct : (Assoc.keys members).Nodup)
    (readable : ∀ member ∈ members, Readable member.2)
    (each : ∀ member ∈ members, IsRead literal member.2) : IsRead literal (.object members) := by
  refine isRead_of_succ readsBack (.object distinct readable) fun spread fuel rest _ enough => ?_
  cases members with
  | nil =>
      have text : ((Value.object []).write literal spread).toList = ['\x7b', '\x7d'] := by
        simp [Value.write, writeMembers, Spread.enclose]
      rw [text]
      rfl
  | cons first later =>
      obtain ⟨content, begun, -⟩ := readsBack first.1
      have text : ((Value.object (first :: later)).write literal spread).toList ++ rest =
          '\x7b' :: (spread.deeper.break.toList ++
            ((memberText literal spread.deeper first).toList ++
              (laterText (memberText literal spread.deeper) spread.deeper later ++
                (spread.break.toList ++ '\x7d' :: rest)))) := by
        rw [Value.write, writeMembers_eq_map, toList_enclose]
        simp
      rw [text] at enough ⊢
      refine readValue_braces (fun c => isSpace_of_mem_break _)
        (by rw [memberText, String.toList_append, String.toList_append, begun]; rfl)
        distinct ?_
      apply readMembers_written readsBack spread.deeper (fun c => isSpace_of_mem_break _) rest
        readable each
      simp only [List.length_append, List.length_cons] at enough ⊢
      omega

/-- Every readable value is read back. -/
theorem isRead_of_readable {value : Value} (readable : Readable value) : IsRead literal value := by
  induction readable with
  | null =>
      exact isRead_of_word readsBack .null 'n' ['u', 'l', 'l'] (fun _ => by simp [Value.write])
        (by decide) fun rest => by simp [readWord, words]
  | bool truth =>
      cases truth with
      | false =>
          exact isRead_of_word readsBack (.bool false) 'f' ['a', 'l', 's', 'e']
            (fun _ => by simp [Value.write]) (by decide) fun rest => by simp [readWord, words]
      | true =>
          exact isRead_of_word readsBack (.bool true) 't' ['r', 'u', 'e']
            (fun _ => by simp [Value.write]) (by decide) fun rest => by simp [readWord, words]
  | int short => exact isRead_int readsBack short
  | string text => exact isRead_string readsBack text
  | array readable each => exact isRead_array readsBack readable each
  | object distinct readable each => exact isRead_object readsBack distinct readable each

/-- The text of a readable value is read as this value. -/
theorem read_write {value : Value} (readable : Readable value) (spread : Spread) :
    read (value.write literal spread) = .ok value := by
  obtain ⟨c, behind, begun, notSpace, -, notMark⟩ := write_begins readsBack readable spread
  have starts : Stops isSpace (value.write literal spread).toList := by
    rw [begun]
    exact stops_cons_iff.mpr notSpace
  have noMark : ((value.write literal spread).toList.head? == some '\uFEFF') = false := by
    rw [begun]
    simpa using notMark
  have whole := isRead_of_readable readsBack readable spread
    (2 * (value.write literal spread).toList.length + 2) [] (stops_nil _) (by simp)
  rw [List.append_nil] at whole
  have noRest : skipSpace [] = [] := rfl
  simp only [read, readWhole?, noMark, skipSpace, dropWhile_of_stops starts, whole]
  rfl

end Writing

/-- No value begins with a blank. -/
theorem readValue_of_isBlank {c : Char} (blank : Text.isBlank c = true) (fuel : Nat)
    (rest : List Char) : readValue fuel (c :: rest) = .error (.fault .value (c :: rest)) := by
  have other {sign : Char} (notBlank : Text.isBlank sign = false) : c ≠ sign :=
    ne_of_class blank notBlank
  have noDigit : isAsciiDigit c = false := by
    rw [← Bool.not_eq_true]
    intro digit
    have word := isWord_of_isAlphanum (isAlphanum_of_isDigit digit)
    rw [isBlank_of_isWord word] at blank
    contradiction
  have noWord : readWord (c :: rest) = none := by
    simp [readWord, words, (other (rfl : Text.isBlank 'n' = false)).symm,
      (other (rfl : Text.isBlank 't' = false)).symm, (other (rfl : Text.isBlank 'f' = false)).symm,
      (other (rfl : Text.isBlank 'N' = false)).symm, (other (rfl : Text.isBlank 'I' = false)).symm,
      (other (rfl : Text.isBlank '-' = false)).symm]
  have noNumber : readNumber (c :: rest) = none := by
    have notZero : (c == '0') = false := by simpa using other (rfl : Text.isBlank '0' = false)
    simp [readNumber, readWhole, noDigit, notZero, other (rfl : Text.isBlank '-' = false)]
  cases fuel with
  | zero => rfl
  | succ fuel =>
      rw [readValue, noWord, noNumber]
      simp [other (rfl : Text.isBlank '\x22' = false), other (rfl : Text.isBlank '[' = false),
        other (rfl : Text.isBlank '\x7b' = false)]

/-- A text that is read as a value does not consist of blanks. -/
theorem not_blank_of_read {text : String} {value : Value} (succeeds : read text = .ok value) :
    ¬∀ c ∈ text.toList, Text.isBlank c = true := by
  intro blank
  have fails (fuel : Nat) : ∃ stop, readValue fuel (skipSpace text.toList) = .error stop := by
    cases remaining : skipSpace text.toList with
    | nil => cases fuel <;> exact ⟨_, rfl⟩
    | cons c rest =>
        have member : c ∈ text.toList :=
          (List.dropWhile_suffix _).mem (remaining ▸ List.mem_cons_self)
        exact ⟨_, readValue_of_isBlank (blank c member) fuel rest⟩
  obtain ⟨stop, failed⟩ := fails (2 * text.toList.length + 2)
  have noMark : (text.toList.head? == some '\uFEFF') = false := by
    rw [beq_eq_false_iff_ne]
    intro marked
    exact absurd (blank _ (List.mem_of_head? marked)) (by decide)
  simp only [read, readWhole?, noMark, failed, bind, Except.bind, Bool.false_eq_true,
    if_false] at succeeds
  cases stop <;> contradiction

end Crowsfoot.Json
