import Crowsfoot.Proofs.Dsl.Arguments
import Crowsfoot.Proofs.Dsl.Relations
import Crowsfoot.Schema.Classification

/-!
# Remarks behind attributes

Attributes are searched without regard to comments, so a comment on the line of
a field is searched with them.  It stands apart from them: no attribute, no
argument and no list begins in front of its slashes and reaches behind them,
unless it is open there.  What the comment changes can therefore be told from
what is open at the end of the attributes, and from the comment alone.
-/

namespace Crowsfoot.Dsl

open Crowsfoot.Text

/-- A text that begins with a slash, behind blanks, or that is blank. -/
structure Apart (text : List Char) : Prop where
  first : ∀ c ∈ text.head?, isBlank c = true ∨ c = '/'
  behind : ∀ c ∈ (skipBlanks text).head?, c = '/'

theorem apart_of_blank {gap : List Char} (blank : ∀ c ∈ gap, isBlank c = true) : Apart gap where
  first c member := .inl (blank c (List.mem_of_mem_head? member))
  behind c member := by simp [skipBlanks_of_blank blank] at member

theorem apart_append_slash {gap : List Char} (blank : ∀ c ∈ gap, isBlank c = true)
    (rest : List Char) : Apart (gap ++ '/' :: rest) where
  first c member := by
    cases gap with
    | nil => exact .inr (Option.some.inj member).symm
    | cons d later =>
        obtain rfl : d = c := Option.some.inj member
        exact .inl (blank d List.mem_cons_self)
  behind c member := by
    rw [skipBlanks, dropWhile_append_of_stops blank (stops_cons_iff.mpr rfl)] at member
    exact (Option.some.inj member).symm

/-- A recogniser that begins with neither a blank nor a slash, and to which a
text that stands apart does not matter. -/
structure Bounded (recognise : List Char → Option (List Char)) : Prop where
  nothing : recognise [] = none
  begins : ∀ c rest, isBlank c = true ∨ c = '/' → recognise (c :: rest) = none
  continues : ∀ text tail, Apart tail →
    recognise (text ++ tail) = (recognise text).map (· ++ tail)

namespace Bounded

variable {recognise : List Char → Option (List Char)} (bounded : Bounded recognise)
include bounded

theorem find?_append (text : List Char) {tail : List Char} (apart : Apart tail) :
    find? recognise (text ++ tail) =
      ((find? recognise text).map (· ++ tail)).or (find? recognise tail) := by
  induction text with
  | nil => rw [List.nil_append, find?, bounded.nothing, Option.map_none, Option.none_or]
  | cons c later ih =>
      have here := bounded.continues (c :: later) tail apart
      rw [List.cons_append] at here ⊢
      rw [find?, find?, here, ih]
      cases recognise (c :: later) <;> rfl

/-- Blanks and slashes are passed over. -/
theorem passes {text : List Char} (passed : ∀ c ∈ text, isBlank c = true ∨ c = '/') :
    Passes recognise text := by
  induction text with
  | nil => exact Passes.nil
  | cons c later ih =>
      refine Passes.cons (fun rest => bounded.begins c _ (passed c List.mem_cons_self)) ?_
      exact ih fun d member => passed d (List.mem_cons_of_mem _ member)

theorem find?_of_blank {gap : List Char} (blank : ∀ c ∈ gap, isBlank c = true) :
    find? recognise gap = none := by
  have passed := bounded.passes (fun c member => .inl (blank c member)) []
  rwa [List.append_nil, find?, bounded.nothing] at passed

end Bounded

/-- A sign behind blanks. -/
def sign? (sign : Char) (text : List Char) : Option (List Char) :=
  match skipBlanks text with
  | c :: rest => if c == sign then some rest else none
  | [] => none

/-- A sign is found behind blanks only. -/
theorem sign?_eq_some_iff {sign : Char} {text rest : List Char} :
    sign? sign text = some rest ↔ skipBlanks text = sign :: rest := by
  rw [sign?]
  cases skipBlanks text with
  | nil => simp
  | cons c later =>
      dsimp only
      split
      · rename_i same
        simp [beq_iff_eq.mp same]
      · rename_i other
        refine ⟨nofun, fun same => absurd ?_ other⟩
        rw [(List.cons.inj same).1, beq_self_eq_true]

theorem sign?_append {sign : Char} (other : sign ≠ '/') (text : List Char) {tail : List Char}
    (apart : Apart tail) : sign? sign (text ++ tail) = (sign? sign text).map (· ++ tail) := by
  have skipped : skipBlanks (text ++ tail) =
      if (skipBlanks text).isEmpty then skipBlanks tail else skipBlanks text ++ tail :=
    List.dropWhile_append
  rw [sign?, sign?, skipped]
  cases skipBlanks text with
  | nil =>
      rw [List.isEmpty_nil, if_pos rfl]
      cases behind : skipBlanks tail with
      | nil => rfl
      | cons c rest =>
          have slash : c = '/' := apart.behind c (by rw [behind]; rfl)
          simp [slash, other.symm]
  | cons c rest =>
      rw [List.isEmpty_cons, if_neg Bool.false_ne_true]
      dsimp only [List.cons_append]
      split <;> rfl

/-- A literal without blanks and slashes is not read across a gap. -/
theorem literal?_append_apart {expected : List Char}
    (solid : ∀ c ∈ expected, isBlank c = false ∧ c ≠ '/') (text : List Char) {tail : List Char}
    (apart : Apart tail) :
    literal? expected (text ++ tail) = (literal? expected text).map (· ++ tail) := by
  cases tail with
  | nil => simp
  | cons c rest =>
      apply literal?_append_cons
      intro member
      obtain ⟨notBlank, notSlash⟩ := solid c member
      rcases apart.first c rfl with blank | slash
      · rw [notBlank] at blank
        contradiction
      · exact notSlash slash

theorem bounded_of_literal {expected : List Char} {next : List Char → Option (List Char)}
    (nonempty : expected ≠ []) (solid : ∀ c ∈ expected, isBlank c = false ∧ c ≠ '/')
    (continues : ∀ text tail, Apart tail → next (text ++ tail) = (next text).map (· ++ tail)) :
    Bounded fun text => (literal? expected text).bind next := by
  obtain ⟨first, more, rfl⟩ := List.exists_cons_of_ne_nil nonempty
  refine ⟨rfl, fun c rest sign => ?_, fun text tail apart => ?_⟩
  · obtain ⟨notBlank, notSlash⟩ := solid first List.mem_cons_self
    have other : c ≠ first := by
      rintro rfl
      rcases sign with blank | slash
      · rw [notBlank] at blank
        contradiction
      · exact notSlash slash
    simp only [literal?_cons_of_ne other, Option.bind_none]
  · simp only [literal?_append_apart solid text apart]
    cases literal? (first :: more) text with
    | none => rfl
    | some rest => exact continues rest tail apart

theorem bounded_attribute? {name : String} (mark : name ∈ markNames) :
    Bounded (attribute? name) := by
  have solid : ∀ name ∈ markNames, ∀ c ∈ name.toList, isBlank c = false ∧ c ≠ '/' := by decide
  apply bounded_of_literal (nonempty_of_mark mark) (solid name mark)
  intro text tail apart
  have follows : wordFollows (text ++ tail) = wordFollows text := by
    cases text with
    | cons c rest => rfl
    | nil =>
        cases tail with
        | nil => rfl
        | cons c rest =>
            rcases apart.first c rfl with blank | rfl
            · exact isWord_of_isBlank blank
            · rfl
  rw [follows]
  split <;> rfl

/-- A match on the sign behind blanks. -/
theorem bind_sign? {α : Type} {sign : Char} {text : List Char} {next : List Char → Option α}
    {answer : Option α} (read : ∀ rest, skipBlanks text = sign :: rest → answer = next rest)
    (failed : (∀ rest, skipBlanks text ≠ sign :: rest) → answer = none) :
    (sign? sign text).bind next = answer := by
  cases found : sign? sign text with
  | some rest => exact (read rest (sign?_eq_some_iff.mp found)).symm
  | none =>
      refine (failed fun rest same => ?_).symm
      rw [sign?_eq_some_iff.mpr same] at found
      contradiction

theorem openingOf?_eq (name : String) (text : List Char) :
    openingOf? name text = (literal? name.toList text).bind (sign? '(') := by
  rw [openingOf?, Option.bind_eq_bind]
  congr 1
  funext rest
  rw [← Option.bind_fun_some (sign? '(' rest)]
  refine (bind_sign? (fun argument opened => ?_) fun other => ?_).symm
  · simp [opened]
  · split
    · exact absurd ‹_› (other _)
    · rfl

theorem bounded_openingOf? : Bounded (openingOf? "@default") := by
  rw [funext (openingOf?_eq "@default")]
  exact bounded_of_literal (by decide) (by decide) fun text _ => sign?_append (by decide) text

/-! ## Lists -/

/-- The text behind the bracket of `key: […`. -/
def listOf? (key : String) (text : List Char) : Option (List Char) :=
  (literal? key.toList text).bind fun rest => (sign? ':' rest).bind (sign? '[')

theorem bounded_listOf? {key : String} (isKey : key ∈ relationKeys) : Bounded (listOf? key) := by
  have nonempty : ∀ key ∈ relationKeys, key.toList ≠ [] := by decide
  have solid : ∀ key ∈ relationKeys, ∀ c ∈ key.toList, isBlank c = false ∧ c ≠ '/' := by decide
  apply bounded_of_literal (nonempty key isKey) (solid key isKey)
  intro text tail apart
  rw [sign?_append (by decide) text apart]
  cases sign? ':' text with
  | none => rfl
  | some rest => exact sign?_append (by decide) rest apart

/-- The names of a list, whose text is given from the bracket on. -/
def namesIn (names : List Char) : List String :=
  match upTo? ']' names with
  | some (inside, _) => (strippedPieces (· == ',') inside).map String.ofList
  | none => []

theorem bracketed?_eq (key : String) (text : List Char) :
    bracketed? key text = (listOf? key text).bind fun names => (upTo? ']' names).map Prod.fst := by
  rw [bracketed?, listOf?, Option.bind_eq_bind, Option.bind_assoc]
  congr 1
  funext rest
  rw [Option.bind_assoc]
  refine (bind_sign? (fun afterColon colon => ?_) fun other => ?_).symm
  · simp only [colon]
    refine (bind_sign? (fun names opened => ?_) fun other => ?_).symm
    · simp only [opened]
      cases upTo? ']' names <;> rfl
    · split
      · exact absurd ‹_› (other _)
      · rfl
  · split
    · exact absurd ‹_› (other _)
    · rfl

/-- What is no blank and not the sign stands behind the sign. -/
theorem mem_of_sign? {sign c : Char} (other : isBlank c = false ∧ c ≠ sign)
    {text rest : List Char} (found : sign? sign text = some rest) (member : c ∈ text) :
    c ∈ rest := by
  have skipped : text.dropWhile isBlank = sign :: rest := sign?_eq_some_iff.mp found
  have parts : text.takeWhile isBlank ++ text.dropWhile isBlank = text :=
    List.takeWhile_append_dropWhile
  rw [← parts, List.mem_append, skipped] at member
  rcases member with inGap | behind
  · rw [(List.all_eq_true.mp List.all_takeWhile) c inGap] at other
    exact absurd other.1 (by decide)
  · exact (List.mem_cons.mp behind).resolve_left other.2

/-- A closing bracket behind a key stands behind the opening one. -/
theorem closes_of_listOf? {key : String} (isKey : key ∈ relationKeys) {text names : List Char}
    (opened : listOf? key text = some names) (closes : ']' ∈ text) : ']' ∈ names := by
  have noBracket : ∀ key ∈ relationKeys, ']' ∉ key.toList := by decide
  obtain ⟨rest, literal, list⟩ := Option.bind_eq_some_iff.mp opened
  obtain ⟨afterColon, colon, bracket⟩ := Option.bind_eq_some_iff.mp list
  have behindKey : ']' ∈ rest := by
    rw [literal?_eq_some_iff.mp literal, List.mem_append] at closes
    exact closes.resolve_left (noBracket key isKey)
  have behindColon := mem_of_sign? (by decide) colon behindKey
  exact mem_of_sign? (by decide) bracket behindColon

theorem suffix_of_sign? {sign : Char} {text rest : List Char}
    (found : sign? sign text = some rest) : rest <:+ text := by
  have skipped : text.dropWhile isBlank = sign :: rest := sign?_eq_some_iff.mp found
  exact (List.suffix_cons sign rest).trans (skipped ▸ List.dropWhile_suffix _)

theorem suffix_of_listOf? {key : String} {text names : List Char}
    (opened : listOf? key text = some names) : names <:+ text := by
  obtain ⟨rest, literal, list⟩ := Option.bind_eq_some_iff.mp opened
  obtain ⟨afterColon, colon, bracket⟩ := Option.bind_eq_some_iff.mp list
  have behindKey : rest <:+ text := ⟨key.toList, (literal?_eq_some_iff.mp literal).symm⟩
  exact ((suffix_of_sign? bracket).trans (suffix_of_sign? colon)).trans behindKey

/-- Without a closing bracket there is no list. -/
theorem find?_bracketed_of_notMem (key : String) {text : List Char} (absent : ']' ∉ text) :
    find? (bracketed? key) text = none := by
  have here {text : List Char} (absent : ']' ∉ text) : bracketed? key text = none := by
    rw [bracketed?_eq, Option.bind_eq_none_iff]
    intro names opened
    rw [upTo?_eq_none_iff.mpr fun member => absent ((suffix_of_listOf? opened).mem member)]
    rfl
  induction text with
  | nil => exact here absent
  | cons c later ih =>
      rw [find?_cons_of_none (here absent)]
      exact ih fun member => absent (List.mem_cons_of_mem _ member)

/-- The first list that is opened is the first that is closed. -/
theorem find?_bracketed {key : String} (isKey : key ∈ relationKeys) (text : List Char) :
    find? (bracketed? key) text =
      (find? (listOf? key) text).bind fun names => (upTo? ']' names).map Prod.fst := by
  induction text with
  | nil => exact bracketed?_eq key []
  | cons c later ih =>
      rw [find?, find?, bracketed?_eq]
      cases opened : listOf? key (c :: later) with
      | none => exact ih
      | some names =>
          dsimp only [Option.bind_some]
          cases closed : upTo? ']' names with
          | some parts => rfl
          | none =>
              apply find?_bracketed_of_notMem key
              intro member
              have closes := closes_of_listOf? isKey opened (List.mem_cons_of_mem c member)
              exact upTo?_eq_none_iff.mp closed closes

theorem namesOf_eq {key : String} (isKey : key ∈ relationKeys) (text : List Char) :
    namesOf key text = ((find? (listOf? key) text).map namesIn).getD [] := by
  rw [namesOf, find?_bracketed isKey]
  cases find? (listOf? key) text with
  | none => rfl
  | some names =>
      rw [Option.bind_some, Option.map_some, Option.getD_some, namesIn]
      cases upTo? ']' names <;> rfl

/-- Text behind a closing bracket does not matter to a list. -/
theorem namesIn_append {names : List Char} (closed : ']' ∈ names) (tail : List Char) :
    namesIn (names ++ tail) = namesIn names := by
  obtain ⟨inside, after, rfl, absent⟩ := List.eq_append_cons_of_mem closed
  rw [namesIn, namesIn, List.append_assoc, List.cons_append, upTo?_append absent,
    upTo?_append absent]

theorem namesIn_of_notMem {names : List Char} (isOpen : ']' ∉ names) : namesIn names = [] := by
  rw [namesIn, upTo?_eq_none_iff.mpr isOpen]

/-- Blanks behind a list do not matter to it. -/
theorem namesIn_append_of_blank {tail : List Char} (blankTail : ∀ c ∈ tail, isBlank c = true)
    (names : List Char) : namesIn (names ++ tail) = namesIn names := by
  by_cases closed : ']' ∈ names
  · exact namesIn_append closed tail
  · have isOpen : ']' ∉ names ++ tail := by
      intro member
      rcases List.mem_append.mp member with inNames | inTail
      · exact closed inNames
      · exact absurd (blankTail _ inTail) (by decide)
    rw [namesIn_of_notMem closed, namesIn_of_notMem isOpen]

/-- A default with a slash is no function. -/
theorem classifyDefault_of_slash {text : String} (slash : '/' ∈ text.toList) :
    classifyDefault (some text) = (.literal, some text) := by
  have kept : '/' ∈ removeBlanks text.toList := List.mem_filter.mpr ⟨slash, rfl⟩
  have other (name : String) (plain : '/' ∉ name.toList) :
      (String.ofList (removeBlanks text.toList) == name) = false := by
    rw [beq_eq_false_iff_ne]
    rintro rfl
    rw [String.toList_ofList] at plain
    exact plain kept
  have noFunction : defaultFunction? text.toList = none := by
    simp only [defaultFunction?, List.lookup_cons, List.lookup_nil, other "now()" (by decide),
      other "autoincrement()" (by decide), other "uuid()" (by decide)]
  simp only [classifyDefault, noFunction]

/-- A default with a slash is told from every other default. -/
theorem classifyDefault_eq_iff {text : String} (slash : '/' ∈ text.toList)
    (default? : Option String) :
    classifyDefault (some text) = classifyDefault default? ↔ default? = some text := by
  rw [classifyDefault_of_slash slash]
  refine ⟨fun same => ?_, ?_⟩
  · cases default? with
    | none => exact nomatch (Prod.mk.inj same).2
    | some other =>
        rw [classifyDefault] at same
        split at same
        · exact nomatch (Prod.mk.inj same).2
        · rw [(Prod.mk.inj same).2]
  · rintro rfl
    exact (classifyDefault_of_slash slash).symm

/-- Only a field without a default has the default of such a field. -/
theorem classifyDefault_eq_none_iff {default? : Option String} :
    classifyDefault default? = classifyDefault none ↔ default? = none := by
  refine ⟨fun same => ?_, congrArg _⟩
  cases default? with
  | none => rfl
  | some text =>
      have noKind : defaultFunction? text.toList ≠ some .none := by
        intro function
        obtain ⟨before, after, entries, -⟩ := List.lookup_eq_some_iff.mp function
        have member := congrArg (fun entries => DefaultKind.none ∈ entries.map Prod.snd) entries
        simp at member
      simp only [classifyDefault] at same
      split at same
      · rename_i kind function
        rw [(Prod.mk.inj same).1] at function
        exact absurd function noKind
      · exact nomatch (Prod.mk.inj same).2

/-! ## Remarks -/

/-- A comment behind a gap, without the blanks at its end. -/
def remark (gap comment : List Char) : List Char :=
  gap ++ '/' :: '/' :: trimEnd isBlank (' ' :: comment)

/-- Whether a comment leaves the default alone: the argument of the default is
closed, or there is none and none begins in the comment. -/
structure KeepsDefault (attributes comment : List Char) : Prop where
  closed : ∀ argument ∈ find? (openingOf? "@default") attributes,
    argumentText '(' false 0 argument ≠ argument
  absent : find? (openingOf? "@default") attributes = none →
    find? (openingOf? "@default") comment = none

/-- Whether a comment leaves a list alone: the list is closed, or the comment
does not close it; or there is none, and the comment lists no names. -/
structure KeepsList (key : String) (attributes comment : List Char) : Prop where
  closed : ∀ names ∈ find? (listOf? key) attributes, ']' ∈ names ∨ ']' ∉ comment
  absent : find? (listOf? key) attributes = none → namesOf key comment = []

section Remark

variable {gap : List Char} (blank : ∀ c ∈ gap, isBlank c = true) (comment : List Char)
include blank

theorem apart_remark : Apart (remark gap comment) :=
  apart_append_slash blank _

/-- A search reads the same in a comment and in a remark of it, but for blanks
at its end. -/
theorem exists_find?_remark : ∃ tail, (∀ c ∈ tail, isBlank c = true) ∧
    ∀ recognise : List Char → Option (List Char), Bounded recognise →
      find? recognise comment = (find? recognise (remark gap comment)).map (· ++ tail) := by
  obtain ⟨tail, whole, blankTail⟩ := exists_trimEnd_append isBlank (' ' :: comment)
  refine ⟨tail, blankTail, fun recognise bounded => ?_⟩
  have front : ∀ c ∈ gap ++ ['/', '/'], isBlank c = true ∨ c = '/' := by
    intro c member
    rcases List.mem_append.mp member with inGap | slash
    · exact .inl (blank c inGap)
    · exact .inr (by simpa using slash)
  have inRemark := bounded.passes front (trimEnd isBlank (' ' :: comment))
  rw [List.append_assoc, List.cons_append, List.singleton_append] at inRemark
  have inComment := bounded.passes (by decide : ∀ c ∈ [' '], isBlank c = true ∨ c = '/') comment
  rw [List.singleton_append, whole, bounded.find?_append _ (apart_of_blank blankTail),
    bounded.find?_of_blank blankTail, Option.or_none] at inComment
  rw [← inComment, remark, inRemark]

theorem mem_remark_iff {c : Char} (solid : isBlank c = false) (other : c ≠ '/') :
    c ∈ remark gap comment ↔ c ∈ comment := by
  have notInGap : c ∉ gap := by
    intro member
    rw [blank c member] at solid
    contradiction
  have notSpace : c ≠ ' ' := by
    rintro rfl
    contradiction
  simp [remark, mem_trimEnd_iff solid, notInGap, notSpace, other]

/-- A mark is found behind attributes if it stands in the comment. -/
theorem hasAttribute_remark {name : String} (mark : name ∈ markNames) (attributes : List Char) :
    hasAttribute name (attributes ++ remark gap comment) =
      (hasAttribute name attributes || hasAttribute name comment) := by
  obtain ⟨tail, -, same⟩ := exists_find?_remark blank comment
  have bounded := bounded_attribute? mark
  rw [hasAttribute, occurs, bounded.find?_append _ (apart_remark blank comment), hasAttribute,
    occurs, hasAttribute, occurs, same _ bounded, Option.isSome_or, Option.isSome_map,
    Option.isSome_map]

/-- An argument that is open in front of a remark goes on in it. -/
theorem slash_mem_argumentText (before : Char) (inString : Bool) (depth : Nat)
    (rest : List Char) :
    '/' ∈ argumentText before inString depth (gap ++ '/' :: rest) := by
  induction gap generalizing before inString depth with
  | nil =>
      rcases argumentText_cons_cases before inString depth '/' with ⟨closes, -⟩ | ⟨_, _, belongs⟩
      · contradiction
      · rw [List.nil_append, belongs]
        exact List.mem_cons_self
  | cons c later ih =>
      rcases argumentText_cons_cases before inString depth c with ⟨rfl, -⟩ | ⟨_, _, belongs⟩
      · exact absurd (blank ')' List.mem_cons_self) (by decide)
      · rw [List.cons_append, belongs]
        exact List.mem_cons_of_mem _ (ih (fun d member => blank d (List.mem_cons_of_mem _ member))
          _ _ _)

/-- An open argument that goes on in a remark is another default. -/
theorem classifyDefault_remark_ne {argument : List Char}
    (isOpen : argumentText '(' false 0 argument = argument) :
    classifyDefault (some (String.ofList
        (strip (argumentText '(' false 0 (argument ++ remark gap comment))))) ≠
      classifyDefault (some (String.ofList (strip (argumentText '(' false 0 argument)))) := by
  intro unchanged
  obtain ⟨last, within, next, goesOn⟩ :=
    (argumentText_append '(' false 0 argument (remark gap comment)).2 isOpen
  have slash : '/' ∈ argumentText last within next (remark gap comment) :=
    slash_mem_argumentText blank last within next _
  rw [isOpen, goesOn] at unchanged
  have longer : (strip argument).count '/' <
      (strip (argument ++ argumentText last within next (remark gap comment))).count '/' := by
    rw [count_strip rfl, count_strip rfl, List.count_append]
    exact Nat.lt_add_of_pos_right (List.count_pos_iff.mpr slash)
  have inDefault := List.count_pos_iff.mp (Nat.zero_lt_of_lt longer)
  rw [classifyDefault_eq_iff (by rwa [String.toList_ofList])] at unchanged
  have texts := String.ofList_injective (Option.some.inj unchanged)
  rw [texts] at longer
  exact Nat.lt_irrefl _ longer

theorem classifyDefault_remark_iff (attributes : List Char) :
    classifyDefault (argument? (String.ofList (attributes ++ remark gap comment)) "@default") =
        classifyDefault (argument? (String.ofList attributes) "@default") ↔
      KeepsDefault attributes comment := by
  obtain ⟨tail, -, same⟩ := exists_find?_remark blank comment
  have whole := bounded_openingOf?.find?_append attributes (apart_remark blank comment)
  simp only [argument?, argumentChars?, String.toList_ofList, whole]
  cases found : find? (openingOf? "@default") attributes with
  | none =>
      rw [Option.map_none, Option.none_or, Option.map_none, Option.map_none,
        classifyDefault_eq_none_iff, Option.map_eq_none_iff, Option.map_eq_none_iff]
      have inComment := same _ bounded_openingOf?
      refine ⟨fun none => ⟨by simp [found], fun _ => by rw [inComment, none]; rfl⟩, fun keeps => ?_⟩
      rw [keeps.absent found] at inComment
      exact Option.map_eq_none_iff.mp inComment.symm
  | some argument =>
      rw [Option.map_some, Option.some_or, Option.map_some, Option.map_some, Option.map_some,
        Option.map_some]
      by_cases isOpen : argumentText '(' false 0 argument = argument
      · refine iff_of_false (classifyDefault_remark_ne blank comment isOpen) fun keeps => ?_
        exact keeps.closed argument found isOpen
      · rw [(argumentText_append '(' false 0 argument (remark gap comment)).1 isOpen]
        refine iff_of_true rfl ⟨fun other member => ?_, by simp [found]⟩
        obtain rfl : argument = other := Option.some.inj (found.symm.trans member)
        exact isOpen

/-- A list that is closed in a remark has names. -/
theorem namesIn_remark_ne_nil {names : List Char} (isOpen : ']' ∉ names)
    (closed : ']' ∈ comment) : namesIn (names ++ remark gap comment) ≠ [] := by
  have shownEnd : ']' ∈ trimEnd isBlank (' ' :: comment) :=
    (mem_trimEnd_iff rfl).mpr (List.mem_cons_of_mem _ closed)
  obtain ⟨inside, after, spelled, absent⟩ := List.eq_append_cons_of_mem shownEnd
  have shown : names ++ remark gap comment =
      (names ++ gap ++ '/' :: '/' :: inside) ++ ']' :: after := by
    simp [remark, spelled]
  have notShown : ']' ∉ names ++ gap ++ '/' :: '/' :: inside := by
    have notInGap : ']' ∉ gap := fun member => absurd (blank _ member) (by decide)
    simp [isOpen, notInGap, absent]
  rw [namesIn, shown, upTo?_append notShown]
  dsimp only
  rw [ne_eq, List.map_eq_nil_iff]
  exact strippedPieces_ne_nil (c := '/') (by simp) rfl rfl

theorem namesOf_remark_iff {key : String} (isKey : key ∈ relationKeys)
    (attributes : List Char) :
    namesOf key (attributes ++ remark gap comment) = namesOf key attributes ↔
      KeepsList key attributes comment := by
  obtain ⟨tail, blankTail, same⟩ := exists_find?_remark blank comment
  have bounded := bounded_listOf? isKey
  have whole := bounded.find?_append attributes (apart_remark blank comment)
  rw [namesOf_eq isKey, namesOf_eq isKey, whole]
  cases found : find? (listOf? key) attributes with
  | none =>
      have inComment : namesOf key comment =
          ((find? (listOf? key) (remark gap comment)).map namesIn).getD [] := by
        rw [namesOf_eq isKey, same _ bounded, Option.map_map]
        simp only [Function.comp_def, namesIn_append_of_blank blankTail]
      rw [Option.map_none, Option.none_or, ← inComment, Option.map_none, Option.getD_none]
      exact ⟨fun none => ⟨by simp [found], fun _ => none⟩, fun keeps => keeps.absent found⟩
  | some names =>
      rw [Option.map_some, Option.some_or, Option.map_some, Option.getD_some, Option.map_some,
        Option.getD_some]
      have inRemark : ']' ∈ remark gap comment ↔ ']' ∈ comment :=
        mem_remark_iff blank comment rfl (by decide)
      by_cases closed : ']' ∈ names
      · refine iff_of_true (namesIn_append closed _) ⟨fun other member => ?_, by simp [found]⟩
        obtain rfl : names = other := Option.some.inj (found.symm.trans member)
        exact .inl closed
      · rw [namesIn_of_notMem closed]
        by_cases closes : ']' ∈ comment
        · refine iff_of_false (namesIn_remark_ne_nil blank comment closed closes) fun keeps => ?_
          exact (keeps.closed names found).elim closed (absurd closes)
        · refine iff_of_true (namesIn_of_notMem ?_) ⟨fun _ _ => .inr closes, by simp [found]⟩
          simp [closed, inRemark, closes]

end Remark

end Crowsfoot.Dsl
