import Crowsfoot.Proofs.Dsl.Attributes
import Crowsfoot.Proofs.Dsl.WrittenLines

/-!
# Reading written arguments

The argument of an attribute ends at the parenthesis that closes it; quotes
hide parentheses, and a backslash hides a quote.  The quote that ends a string
literal is therefore seen unless the text of the literal ends in a backslash.
With this one exception every written default is read back.
-/

namespace Crowsfoot.Dsl

open Crowsfoot.Text

/-- A character ends an argument or belongs to it. -/
theorem argumentText_cons_cases (before : Char) (inString : Bool) (depth : Nat) (c : Char) :
    (c = ')' ∧ ∀ rest, argumentText before inString depth (c :: rest) = []) ∨
      ∃ within next, ∀ rest,
        argumentText before inString depth (c :: rest) = c :: argumentText c within next rest := by
  by_cases quote : (c == '\x22' && before != '\\') = true
  · exact .inr ⟨!inString, depth, fun rest => by simp only [argumentText, quote, if_true]⟩
  rw [Bool.not_eq_true] at quote
  cases inString with
  | true =>
      refine .inr ⟨true, depth, fun rest => ?_⟩
      simp only [argumentText, quote, Bool.false_eq_true, if_false, if_true]
  | false =>
      by_cases opens : c = '('
      · subst opens
        exact .inr ⟨false, depth + 1, fun rest => by simp [argumentText]⟩
      by_cases closes : c = ')'
      · subst closes
        cases depth with
        | zero => exact .inl ⟨rfl, fun rest => by simp [argumentText]⟩
        | succ outer => exact .inr ⟨false, outer, fun rest => by simp [argumentText]⟩
      · refine .inr ⟨false, depth, fun rest => ?_⟩
        simp [argumentText, quote, opens, closes]

/-- An argument is the beginning of the text it is taken from. -/
theorem argumentText_isPrefix (before : Char) (inString : Bool) (depth : Nat) (text : List Char) :
    argumentText before inString depth text <+: text := by
  induction text generalizing before inString depth with
  | nil => exact List.prefix_refl []
  | cons c rest ih =>
      rcases argumentText_cons_cases before inString depth c with ⟨-, ends⟩ | ⟨_, _, belongs⟩
      · rw [ends]
        exact List.nil_prefix
      · rw [belongs]
        exact List.cons_prefix_cons.mpr ⟨rfl, ih _ _ _⟩

/-- An argument that ends in a text is the same whatever follows; one that does
not end there goes on. -/
theorem argumentText_append (before : Char) (inString : Bool) (depth : Nat)
    (text tail : List Char) :
    (argumentText before inString depth text ≠ text →
        argumentText before inString depth (text ++ tail) =
          argumentText before inString depth text) ∧
      (argumentText before inString depth text = text → ∃ last within next,
        argumentText before inString depth (text ++ tail) =
          text ++ argumentText last within next tail) := by
  induction text generalizing before inString depth with
  | nil => exact ⟨absurd rfl, fun _ => ⟨before, inString, depth, rfl⟩⟩
  | cons c rest ih =>
      rcases argumentText_cons_cases before inString depth c with
        ⟨-, ends⟩ | ⟨within, next, belongs⟩
      · rw [List.cons_append, ends, ends]
        exact ⟨fun _ => rfl, nofun⟩
      · obtain ⟨closed, isOpen⟩ := ih c within next
        rw [List.cons_append, belongs, belongs]
        refine ⟨fun ends => by rw [closed fun same => ends (by rw [same])], fun same => ?_⟩
        obtain ⟨last, within, next, goesOn⟩ := isOpen (List.cons.inj same).2
        exact ⟨last, within, next, by rw [goesOn, List.cons_append]⟩

/-- Text without quotes and parentheses belongs to an argument. -/
theorem argumentText_append_of_plain {text : List Char}
    (plain : ∀ c ∈ text, c ≠ '\x22' ∧ c ≠ '(' ∧ c ≠ ')') (before : Char) (depth : Nat)
    (rest : List Char) :
    argumentText before false depth (text ++ rest) =
      text ++ argumentText (text.getLastD before) false depth rest := by
  induction text generalizing before with
  | nil => rfl
  | cons c later ih =>
      obtain ⟨notQuote, notOpen, notClose⟩ := plain c List.mem_cons_self
      have tail := ih (fun d member => plain d (List.mem_cons_of_mem _ member)) c
      rw [List.getLastD_cons, List.cons_append, List.cons_append, ← tail]
      simp [argumentText, notQuote, notOpen, notClose]

/-- Inside a string, text without quotes belongs to an argument. -/
theorem argumentText_append_of_inString {text : List Char} (noQuote : '\x22' ∉ text)
    (before : Char) (depth : Nat) (rest : List Char) :
    argumentText before true depth (text ++ rest) =
      text ++ argumentText (text.getLastD before) true depth rest := by
  induction text generalizing before with
  | nil => rfl
  | cons c later ih =>
      have notQuote : c ≠ '\x22' := fun same => noQuote (same ▸ List.mem_cons_self)
      have tail := ih (fun member => noQuote (List.mem_cons_of_mem _ member)) c
      rw [List.getLastD_cons, List.cons_append, List.cons_append, ← tail]
      simp [argumentText, notQuote]

/-- Inside a string, an escaped character belongs to an argument; only an
escaped backslash ends in a backslash. -/
theorem argumentText_escape (c before : Char) :
    ∃ last, (c ≠ '\\' → last ≠ '\\') ∧ ∀ depth rest,
      argumentText before true depth (Json.escape c ++ rest) =
        Json.escape c ++ argumentText last true depth rest := by
  rcases Json.escapeForm c with ⟨-, notQuote, notBackslash, form⟩ | ⟨-, form⟩ | ⟨same, form⟩ |
      ⟨-, letter, letters, alphanumeric, form⟩
  · refine ⟨c, id, fun depth rest => ?_⟩
    rw [form, argumentText_append_of_inString (by simpa using notQuote.symm)]
    rfl
  · refine ⟨'\x22', fun _ => by decide, fun depth rest => ?_⟩
    rw [form]
    simp [argumentText]
  · refine ⟨'\\', fun other => absurd same other, fun depth rest => ?_⟩
    rw [form]
    simp [argumentText]
  · have noQuote : '\x22' ∉ '\\' :: letter :: letters := by
      intro member
      rcases List.mem_cons.mp member with same | inLetters
      · exact absurd same (by decide)
      · exact ne_of_class (alphanumeric _ inLetters) rfl rfl
    refine ⟨(letter :: letters).getLastD '\\', fun _ => ?_, fun depth rest => ?_⟩
    · rw [List.getLastD_eq_getLast?, List.getLast?_eq_some_getLast (by simp), Option.getD_some]
      exact ne_of_class (alphanumeric _ (List.getLast_mem _)) rfl
    · rw [form, argumentText_append_of_inString noQuote]
      rfl

/-- Inside a string, escaped characters belong to an argument; they end in a
backslash only if their text does. -/
theorem argumentText_flatMap_escape (text : List Char) (before : Char) :
    ∃ last,
      (text.getLast? ≠ some '\\' → (text = [] → before ≠ '\\') → last ≠ '\\') ∧
      ∀ depth rest, argumentText before true depth (text.flatMap Json.escape ++ rest) =
        text.flatMap Json.escape ++ argumentText last true depth rest := by
  induction text generalizing before with
  | nil => exact ⟨before, fun _ nonescaping => nonescaping rfl, fun _ _ => rfl⟩
  | cons c later ih =>
      obtain ⟨middle, plainMiddle, first⟩ := argumentText_escape c before
      obtain ⟨last, plainLast, behind⟩ := ih middle
      refine ⟨last, fun notBackslash _ => plainLast ?_ ?_, fun depth rest => ?_⟩
      · cases later with
        | nil => simp
        | cons d more => simpa using notBackslash
      · rintro rfl
        exact plainMiddle (by simpa using notBackslash)
      · rw [List.flatMap_cons, List.append_assoc, first, behind, List.append_assoc]

/-- A string that does not end in a backslash is closed by its quote. -/
theorem argumentText_content {text : List Char} (notBackslash : text.getLast? ≠ some '\\')
    {before : Char} (nonescaping : text = [] → before ≠ '\\') (depth : Nat) (rest : List Char) :
    argumentText before true depth (text.flatMap Json.escape ++ '\x22' :: rest) =
      text.flatMap Json.escape ++ '\x22' :: argumentText '\x22' false depth rest := by
  obtain ⟨last, plain, read⟩ := argumentText_flatMap_escape text before
  rw [read]
  simp [argumentText, plain notBackslash nonescaping]

/-- A string literal belongs to an argument. -/
theorem argumentText_quoteChars {text : List Char} (notBackslash : text.getLast? ≠ some '\\')
    {before : Char} (nonescaping : before ≠ '\\') (depth : Nat) (rest : List Char) :
    argumentText before false depth (Json.quoteChars text ++ rest) =
      Json.quoteChars text ++ argumentText '\x22' false depth rest := by
  have content := argumentText_content notBackslash
    (fun _ => by decide : text = [] → '\x22' ≠ '\\') depth rest
  have opened (inside : List Char) : argumentText before false depth ('\x22' :: inside) =
      '\x22' :: argumentText '\x22' true depth inside := by
    simp [argumentText, nonescaping]
  simp only [Json.quoteChars, List.cons_append, List.append_assoc, List.nil_append]
  rw [opened, content]

/-! ## Defaults -/

/-- A default that is written as a string literal of a text ending in a
backslash.  The quote at its end is taken for an escaped one. -/
def RunsOn (text : String) : Prop :=
  ∃ content : String, text = Json.quote content ∧ content.toList.getLast? = some '\\'

/-- Such a default ends in two backslashes and a quote. -/
theorem RunsOn.suffix {text : String} (runsOn : RunsOn text) :
    ['\\', '\\', '\x22'] <:+ text.toList := by
  obtain ⟨content, rfl, backslash⟩ := runsOn
  obtain ⟨front, spelled⟩ := List.getLast?_eq_some_iff.mp backslash
  have escaped : Json.escape '\\' = ['\\', '\\'] := rfl
  refine ⟨'\x22' :: front.flatMap Json.escape, ?_⟩
  rw [Json.toList_quote, spelled, Json.quoteChars, List.flatMap_append]
  simp [escaped]

theorem isDecimal_quiet {c : Char} (digit : isDecimal c = true ∨ c = '.' ∨ c = '-') :
    (c ≠ '\x22' ∧ c ≠ '(' ∧ c ≠ ')') ∧ isBlank c = false := by
  rcases digit with decimal | rfl | rfl
  · exact ⟨⟨ne_of_class decimal rfl, ne_of_class decimal rfl, ne_of_class decimal rfl⟩,
      isBlank_of_isDecimal decimal⟩
  · decide
  · decide

/-- Written defaults are read back from between their parentheses. -/
theorem DefaultForm.argumentText {text : String} (form : DefaultForm text)
    (closed : ¬RunsOn text) (rest : List Char) :
    Dsl.argumentText '(' false 0 (text.toList ++ ')' :: rest) = text.toList := by
  have ended (before : Char) : Dsl.argumentText before false 0 (')' :: rest) = [] := by
    simp [Dsl.argumentText]
  cases form with
  | word member =>
      have words : ∀ word ∈ defaultWords, ∀ rest : List Char,
          Dsl.argumentText '(' false 0 (word.toList ++ ')' :: rest) = word.toList := by
        intro word member rest
        simp only [defaultWords, List.mem_cons, List.not_mem_nil, or_false] at member
        rcases member with rfl | rfl | rfl | rfl | rfl <;> simp [Dsl.argumentText]
      exact words text member rest
  | number number =>
      rw [String.toList_ofList, argumentText_append_of_plain, ended, List.append_nil]
      exact fun c member => (isDecimal_quiet (isDecimal_of_mem_number number member)).1
  | literal content =>
      have notBackslash : content.toList.getLast? ≠ some '\\' :=
        fun backslash => closed ⟨content, rfl, backslash⟩
      rw [Json.toList_quote, argumentText_quoteChars notBackslash (by decide), ended,
        List.append_nil]
  | @call content ends =>
      have notBackslash : content.toList.getLast? ≠ some '\\' := by
        rw [ends]
        decide
      have opened : ∀ rest : List Char, Dsl.argumentText '(' false 0
          ("dbgenerated(".toList ++ rest) =
            "dbgenerated(".toList ++ Dsl.argumentText '(' false 1 rest := by
        intro rest
        simp [Dsl.argumentText]
      rw [String.toList_append, String.toList_append, Json.toList_quote, List.append_assoc,
        List.append_assoc, opened, argumentText_quoteChars notBackslash (by decide)]
      simp [Dsl.argumentText]

/-- Written defaults neither begin nor end with a blank. -/
theorem DefaultForm.solid {text : String} (form : DefaultForm text) :
    Solid text.toList := by
  cases form with
  | word member =>
      have words : ∀ word ∈ defaultWords, ∀ c ∈ word.toList, isBlank c = false := by decide
      exact solid_of_notBlank (words text member)
  | number number =>
      rw [String.toList_ofList]
      exact solid_of_notBlank fun c member =>
        (isDecimal_quiet (isDecimal_of_mem_number number member)).2
  | literal content =>
      rw [Json.toList_quote]
      constructor
      · exact stops_cons_iff.mpr rfl
      · rw [Json.quoteChars, List.reverse_cons, List.reverse_append]
        exact stops_cons_iff.mpr rfl
  | call ends =>
      rw [String.toList_append, String.toList_append]
      constructor
      · have begun : "dbgenerated(".toList = 'd' :: "bgenerated(".toList := by simp
        rw [begun]
        exact stops_cons_iff.mpr rfl
      · have ended : ")".toList = [')'] := by simp
        rw [ended, List.reverse_append]
        exact stops_cons_iff.mpr rfl

/-- The attributes that are written before the default of a column. -/
def leadingMarks (column : Column) : List String :=
  (if column.primaryKey then ["@id"] else []) ++
    (if column.unique && !column.primaryKey then ["@unique"] else [])

/-- The attributes that are written behind the default of a column. -/
def trailingAttributes (column : Column) (key? : Option ForeignKey) : List String :=
  key?.toList.map relationAttribute ++
    (if identifier column.name != column.name then [mapAttribute "@" column.name] else [])

/-- The text before the default of a column. -/
def leadingChars (column : Column) : List Char :=
  (leadingMarks column).flatMap fun mark => mark.toList ++ [' ']

/-- The text behind the default of a column. -/
def trailingChars (column : Column) (key? : Option ForeignKey) : List Char :=
  (trailingAttributes column key?).flatMap fun part => ' ' :: part.toList

/-- A column is marked as a key, as unique, or not at all. -/
theorem leadingChars_mem (column : Column) :
    leadingChars column ∈ [[], "@id ".toList, "@unique ".toList] := by
  unfold leadingChars leadingMarks
  cases column.primaryKey <;> cases column.unique <;> simp

/-- What stands before the default begins with an at sign, as the default
does. -/
theorem leadingChars_append_default (column : Column) (argument : List Char) :
    ∃ rest, leadingChars column ++ ("@default".toList ++ argument) = '@' :: rest := by
  have marks := leadingChars_mem column
  simp only [List.mem_cons, List.not_mem_nil, or_false] at marks
  rcases marks with leading | leading | leading <;> rw [leading] <;> simp

theorem columnAttributes_eq (format : String) (column : Column) (key? : Option ForeignKey) :
    columnAttributes format column key? =
      leadingMarks column ++
        ((columnDefault? format column).toList.map fun text => "@default(" ++ text ++ ")") ++
          trailingAttributes column key? := by
  simp only [columnAttributes, leadingMarks, trailingAttributes, List.append_assoc]

theorem toList_columnAttributes {format text : String} {column : Column}
    (written : columnDefault? format column = some text) (key? : Option ForeignKey) :
    (joined " " (columnAttributes format column key?)).toList =
      leadingChars column ++
        ("@default".toList ++ '(' :: (text.toList ++ ')' :: trailingChars column key?)) := by
  rw [columnAttributes_eq, written, Option.toList_some, List.map_singleton, List.append_assoc,
    List.singleton_append, toList_joined_append_cons]
  simp [leadingChars, trailingChars]

/-- The search for the default passes every other attribute. -/
theorem passes_of_other {letter : Char} (other : letter ≠ 'd') {rest : List Char}
    (absent : '@' ∉ letter :: rest) :
    Passes (openingOf? "@default") ('@' :: letter :: rest) := by
  apply Passes.cons
  · intro later
    simp [openingOf?, literal?, other]
  · apply Passes.of_notMem _ absent
    intro c later notMark
    simp [openingOf?, literal?, notMark]

theorem passes_blank : Passes (openingOf? "@default") [' '] :=
  Passes.cons (fun later => by simp [openingOf?, literal?]) Passes.nil

theorem passes_leadingMarks {column : Column} {mark : String}
    (member : mark ∈ leadingMarks column) : Passes (openingOf? "@default") mark.toList := by
  rcases List.mem_append.mp member with id | unique
  · split at id
    · rw [List.mem_singleton.mp id]
      exact passes_of_other (by decide) (by decide)
    · contradiction
  · split at unique
    · rw [List.mem_singleton.mp unique]
      exact passes_of_other (by decide) (by decide)
    · contradiction

theorem passes_relationAttribute (key : ForeignKey) :
    Passes (openingOf? "@default") (relationAttribute key).toList := by
  obtain ⟨rest, spelled, absent⟩ := relationAttribute_cons key
  have begun : "@relation".toList = '@' :: 'r' :: "elation".toList := by simp
  rw [spelled, begun, List.cons_append, List.cons_append]
  exact passes_of_other (by decide) (by simpa using absent)

theorem passes_mapAttribute {name : String} (plain : '@' ∉ name.toList) :
    Passes (openingOf? "@default") (mapAttribute "@" name).toList := by
  obtain ⟨rest, spelled, absent⟩ := mapAttribute_cons plain
  have begun : "@map".toList = '@' :: 'm' :: "ap".toList := by simp
  rw [spelled, begun, List.cons_append, List.cons_append]
  exact passes_of_other (by decide) (by simpa using absent)

theorem passes_trailingAttributes {column : Column} (plain : '@' ∉ column.name.toList)
    {key? : Option ForeignKey} {part : String} (member : part ∈ trailingAttributes column key?) :
    Passes (openingOf? "@default") part.toList := by
  rcases List.mem_append.mp member with relation | map
  · obtain ⟨key, -, rfl⟩ := List.mem_map.mp relation
    exact passes_relationAttribute key
  · split at map
    · rw [List.mem_singleton.mp map]
      exact passes_mapAttribute plain
    · contradiction

theorem argument?_of_passes {attributes : String}
    (passes : Passes (openingOf? "@default") attributes.toList) :
    argument? attributes "@default" = none := by
  have whole := passes []
  rw [List.append_nil] at whole
  rw [argument?, argumentChars?, whole]
  rfl

/-- The first argument found is the one that was written. -/
theorem find?_default (column : Column) (argument : List Char) :
    find? (openingOf? "@default")
        (leadingChars column ++ ("@default".toList ++ '(' :: argument)) = some argument := by
  have passed : Passes (openingOf? "@default") (leadingChars column) :=
    Passes.flatMap fun mark member => (passes_leadingMarks member).append passes_blank
  rw [passed]
  apply find?_of_some
  rw [openingOf?, literal?_append]
  rfl

/-- The default of a column is read back as it was written. -/
theorem argument?_columnAttributes {format : String} {column : Column}
    (plain : '@' ∉ column.name.toList)
    (closed : ∀ text ∈ columnDefault? format column, ¬RunsOn text)
    (key? : Option ForeignKey) :
    argument? (joined " " (columnAttributes format column key?)) "@default" =
      columnDefault? format column := by
  cases written : columnDefault? format column with
  | none =>
      have passed : ∀ part ∈ columnAttributes format column key?,
          Passes (openingOf? "@default") part.toList := by
        intro part member
        rw [columnAttributes_eq, written] at member
        rcases List.mem_append.mp member with leading | trailing
        · exact passes_leadingMarks (by simpa using leading)
        · exact passes_trailingAttributes plain trailing
      have blank : Passes (openingOf? "@default") " ".toList := by simpa using passes_blank
      exact argument?_of_passes (Passes.joined blank passed)
  | some text =>
      have form := defaultForm_of_columnDefault? written
      rw [argument?, argumentChars?, toList_columnAttributes written, find?_default,
        Option.map_some, form.argumentText (closed text written), strip_of_solid form.solid,
        Option.map_some, String.ofList_toList]

end Crowsfoot.Dsl
