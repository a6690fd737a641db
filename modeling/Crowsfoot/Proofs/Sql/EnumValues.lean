import Crowsfoot.Proofs.Dsl.QuotedDefaults
import Crowsfoot.Proofs.Sql.Balance
import Crowsfoot.Proofs.Sql.Comments
import Crowsfoot.Proofs.Sql.Remainders

/-!
# The values of enums

The values of an enum are literals in a list.  The list is taken to end at the
first closing parenthesis, also in a literal, and a literal loses the quotes at
its ends but keeps the doubled ones inside.  The search for table statements
looks into literals.  So values are read back exactly if they show neither
quotes nor closing parentheses, and no table statement begins in them.
-/

namespace Crowsfoot

open Crowsfoot.Text
open Crowsfoot.Sql
open Crowsfoot.Dsl (Quoting doubled inQuotes_of_enclosed)

namespace Sql

theorem doubled_quote (rest : List Char) :
    doubled ('\x27' :: rest) = '\x27' :: '\x27' :: doubled rest :=
  rfl

theorem doubled_cons {c : Char} (other : c ≠ '\x27') (rest : List Char) :
    doubled (c :: rest) = c :: doubled rest := by
  simp [doubled, other]

theorem doubled_eq_self {text : List Char} (unquoted : '\x27' ∉ text) : doubled text = text := by
  induction text with
  | nil => rfl
  | cons c rest ih =>
      rw [List.mem_cons, not_or] at unquoted
      rw [doubled_cons (Ne.symm unquoted.1), ih unquoted.2]

theorem count_doubled (text : List Char) : (doubled text).count '\x27' = 2 * text.count '\x27' := by
  induction text with
  | nil => rfl
  | cons c rest ih =>
      by_cases quote : c = '\x27'
      · subst quote
        simp only [doubled_quote, List.count_cons_self, ih]
        omega
      · rw [doubled_cons quote, List.count_cons_of_ne quote, List.count_cons_of_ne quote, ih]

theorem mem_doubled_iff {c : Char} {text : List Char} : c ∈ doubled text ↔ c ∈ text := by
  simp only [doubled, List.mem_flatMap]
  constructor
  · rintro ⟨d, member, same⟩
    split at same <;> simp_all
  · intro member
    refine ⟨c, member, ?_⟩
    split <;> simp_all

/-- A text with doubled quotes has no quote at its ends if the text has none there. -/
theorem stops_doubled {text : List Char} (stops : Stops (· == '\x27') text) :
    Stops (· == '\x27') (doubled text) := by
  cases text with
  | nil => exact stops
  | cons c rest =>
      have other : c ≠ '\x27' := by simpa using stops_cons_iff.mp stops
      rw [doubled_cons other]
      exact stops

theorem reverse_doubled (text : List Char) : (doubled text).reverse = doubled text.reverse := by
  rw [doubled, doubled, List.reverse_flatMap]
  refine List.flatMap_congr fun c _ => ?_
  dsimp only [Function.comp]
  split <;> rfl

/-- Trimming the quotes gives the text back exactly if there are none in it. -/
theorem trim_doubled_iff {text : List Char} :
    trim (· == '\x27') (doubled text) = text ↔ '\x27' ∉ text := by
  constructor
  · intro same
    -- What is trimmed has no quotes at its ends, so that nothing was trimmed.
    obtain ⟨first, last⟩ := stops_trim (· == '\x27') (doubled text)
    rw [same] at first last
    have lastDoubled : Stops (· == '\x27') (doubled text).reverse := by
      rw [reverse_doubled]
      exact stops_doubled last
    rw [trim_of_stops (stops_doubled first) lastDoubled] at same
    have counts := count_doubled text
    rw [same] at counts
    rw [← List.count_eq_zero]
    omega
  · intro unquoted
    have stops {text : List Char} (unquoted : '\x27' ∉ text) : Stops (· == '\x27') text := by
      intro c member
      rw [beq_eq_false_iff_ne]
      rintro rfl
      exact unquoted (List.mem_of_mem_head? member)
    rw [doubled_eq_self unquoted]
    exact trim_of_stops (stops unquoted) (stops (by simpa using unquoted))

/-- The quotes around a literal are trimmed with those at the ends of its content. -/
theorem trim_enclosed (content : List Char) :
    trim (· == '\x27') ('\x27' :: (content ++ ['\x27'])) = trim (· == '\x27') content := by
  have last (text : List Char) :
      trimEnd (· == '\x27') (text ++ ['\x27']) = trimEnd (· == '\x27') text := by
    simp [trimEnd]
  rw [trim, trim, List.dropWhile_cons_of_pos rfl, List.dropWhile_append]
  split
  · rename_i all
    rw [List.isEmpty_iff.mp all]
    rfl
  · exact last _

/-- The commas of a literal cut no list. -/
theorem isWhole_literal (text : List Char) : IsWhole ('\x27' :: (doubled text ++ ['\x27'])) := by
  let inside : Nesting := ⟨true, false, 0⟩
  have opens (rest : List Char) : topLevelPieces .top ('\x27' :: rest) =
      prependTo ['\x27'] (topLevelPieces inside rest) :=
    topLevelPieces_cons _ _ _
  have closes (rest : List Char) : topLevelPieces inside ('\x27' :: rest) =
      prependTo ['\x27'] (topLevelPieces .top rest) :=
    topLevelPieces_cons _ _ _
  have content (rest : List Char) : topLevelPieces inside (doubled text ++ rest) =
      prependTo (doubled text) (topLevelPieces inside rest) := by
    induction text with
    | nil => exact (prependTo_nil (topLevelPieces_ne_nil _ _)).symm
    | cons c later ih =>
        by_cases quote : c = '\x27'
        · subst quote
          rw [doubled_quote, List.cons_append, List.cons_append, closes, opens, ih,
            ← prependTo_append, ← prependTo_append]
          rfl
        · have still : ∀ d ∈ [c], inside.separates d = false ∧ inside.next d = inside := by
            simp [inside, Nesting.separates, Nesting.next, quote]
          rw [doubled_cons quote, ← List.singleton_append, List.append_assoc,
            topLevelPieces_still still, ih, ← prependTo_append]
  intro rest
  rw [List.cons_append, List.append_assoc, List.singleton_append, opens, content, closes,
    ← prependTo_append, ← prependTo_append]
  rfl

/-- A mark without quotes does not stand in a literal if it does not stand in the text. -/
theorem literal?_doubled {expected text : List Char} (noQuote : '\x27' ∉ expected)
    (absent : literal? expected text = none) (rest : List Char) :
    literal? expected (doubled text ++ '\x27' :: rest) = none := by
  induction expected generalizing text with
  | nil => contradiction
  | cons first more ih =>
      rw [List.mem_cons, not_or] at noQuote
      cases text with
      | nil => exact literal?_cons_of_ne noQuote.1
      | cons c later =>
          by_cases quote : c = '\x27'
          · subst quote
            exact literal?_cons_of_ne noQuote.1
          · rw [doubled_cons quote, List.cons_append, literal?]
            rw [literal?] at absent
            split
            · rename_i same
              rw [if_pos same] at absent
              exact ih noQuote.2 absent
            · rfl

theorem passes_doubled {expected text : List Char} (nonempty : expected ≠ [])
    (noQuote : '\x27' ∉ expected) (silent : contains expected text = false) :
    Passes (literal? expected) (doubled text ++ ['\x27']) := by
  obtain ⟨first, more, rfl⟩ := List.exists_cons_of_ne_nil nonempty
  have quotes (rest : List Char) : literal? (first :: more) ('\x27' :: rest) = none :=
    literal?_cons_of_ne (fun same => noQuote (same ▸ List.mem_cons_self))
  induction text with
  | nil => exact Passes.cons (fun rest => quotes _) Passes.nil
  | cons c later ih =>
      rw [contains, occurs_cons, Bool.or_eq_false_iff, Option.isSome_eq_false_iff,
        Option.isNone_iff_eq_none] at silent
      have behind := ih silent.2
      by_cases quote : c = '\x27'
      · subst quote
        exact Passes.cons (fun rest => quotes _) (Passes.cons (fun rest => quotes _) behind)
      · have here (rest : List Char) := literal?_doubled noQuote silent.1 rest
        rw [doubled_cons quote] at here ⊢
        apply Passes.cons (fun rest => ?_) behind
        simpa using here rest

/-! ## Statements for enums -/

/-- What a table statement goes on with behind its first word. -/
def tableBehind? (text : List Char) : Option (List Char × List Char) := do
  let rest := skipKeywords [["temporary"], ["temp"]] text
  let rest ← keyword? "table" rest
  let rest ← blanks? rest
  let (name, rest) ← qualifiedName? (skipKeywords [["if", "not", "exists"]] rest)
  match skipBlanks rest with
  | '(' :: body => pure (name, body)
  | _ => none

theorem readsAfter_tableStatement? : ReadsAfter "create" tableBehind? tableStatement? := by
  intro text
  rw [spacedKeywords?_singleton, tableStatement?]
  simp only [Option.bind_eq_bind, Option.bind_assoc]
  rfl

theorem enumerations_of_none {text : List Char} (absent : find? enumStatement? text = none) :
    enumerations text = [] := by
  rw [enumerations]
  split
  · rfl
  · rename_i found
    rw [absent] at found
    contradiction

theorem enumerations_of_some {text name values after : List Char}
    (found : find? enumStatement? text = some ((name, values), after)) :
    enumerations text = enumerationOf name values :: enumerations after := by
  rw [enumerations]
  split
  · rename_i absent
    rw [found] at absent
    contradiction
  · rename_i here
    rw [found] at here
    obtain ⟨⟨rfl, rfl⟩, rfl⟩ : (_ ∧ _) ∧ _ := by simpa using here
    rfl

/-- A statement for an enum, whose values show no mark of a comment. -/
structure EnumStatement where
  name : PlainName
  values : List String
  uncommented : ∀ value ∈ values, ∀ mark ∈ commentMarks,
    contains mark.toList value.toList = false

namespace EnumStatement

variable (statement : EnumStatement)

/-- The literals of the values, with commas between them. -/
def listed (values : List String) : List Char :=
  (joined ", " (values.map Quoting.sql.expression)).toList

def text : String :=
  "CREATE TYPE " ++ statement.name.name ++ " AS ENUM (" ++
    joined ", " (statement.values.map Quoting.sql.expression) ++ ")"

/-- The enum that is declared. -/
def enumeration : Enumeration where
  name := statement.name.name
  values := statement.values

/-- The statement is read as its enum, with just its values. -/
def ReadsBack : Prop :=
  ∃ document, Document.ofSql statement.text = .ok document ∧
    document.enums = [statement.enumeration]

theorem toList_text : statement.text.toList = "CREATE TYPE ".toList ++
    (statement.name.name.toList ++ (" AS ENUM (".toList ++
      (listed statement.values ++ [')']))) := by
  have spelled : statement.text = "CREATE TYPE " ++ statement.name.name ++ " AS ENUM (" ++
      joined ", " (statement.values.map Quoting.sql.expression) ++ ")" := rfl
  rw [spelled]
  simp only [String.toList_append, List.append_assoc]
  rfl

theorem toList_expression (value : String) : (Quoting.sql.expression value).toList =
    '\x27' :: (doubled value.toList ++ ['\x27']) := by
  rw [Quoting.expression, String.toList_ofList]

/-- An enum statement is read up to the first parenthesis that closes something. -/
theorem enumStatement?_opening (name : PlainName) (opened : List Char) :
    enumStatement? ("CREATE TYPE ".toList ++ (name.name.toList ++
      (" AS ENUM (".toList ++ opened))) =
      (upTo? ')' opened).map fun (values, after) => ((name.name.toList, values), after) := by
  have run := name.run
  have create (text : List Char) : keywords? ["create", "type"] ("CREATE TYPE ".toList ++ text) =
      some (' ' :: text) := rfl
  have blank (text : List Char) : blanks? (' ' :: (name.name.toList ++ text)) =
      some (name.name.toList ++ text) :=
    blanks?_cons rfl (run.stops_isBlank _)
  have ends : namePart? (" AS ENUM (".toList ++ opened) = none := rfl
  have gap : blanks? (" AS ENUM (".toList ++ opened) = some ("AS ENUM (".toList ++ opened) := rfl
  have words : keywords? ["as", "enum"] ("AS ENUM (".toList ++ opened) =
      some (" (".toList ++ opened) := rfl
  have list : parenthesizedList? (" (".toList ++ opened) = upTo? ')' opened := rfl
  rw [enumStatement?, create]
  simp only [Option.bind_eq_bind, Option.bind_some, blank, run.qualifiedName? ends, gap, words,
    list]
  cases upTo? ')' opened <;> rfl

/-- No table statement begins in front of the values. -/
theorem find?_tableStatement?_text : find? tableStatement? statement.text.toList =
    find? tableStatement? (listed statement.values ++ [')']) := by
  have reads := readsAfter_tableStatement?
  have keyword : IsKeyword "create" := by decide
  have stops (rest : List Char) : Stops isWord (' ' :: rest) := stops_cons_iff.mpr rfl
  have create (rest : List Char) : find? tableStatement? ("CREATE TYPE ".toList ++ rest) =
      find? tableStatement? rest :=
    calc find? tableStatement? ("CREATE".toList ++ ' ' :: ("TYPE".toList ++ ' ' :: rest))
      _ = find? tableStatement? (' ' :: ("TYPE".toList ++ ' ' :: rest)) :=
          reads.find?_unless keyword (by decide) (stops _) rfl
      _ = find? tableStatement? ("TYPE".toList ++ ' ' :: rest) := reads.find?_cons keyword rfl _
      _ = find? tableStatement? (' ' :: rest) :=
          reads.find?_other keyword (by decide) (stops _) (by decide)
      _ = find? tableStatement? rest := reads.find?_cons keyword rfl _
  have name (rest : List Char) : find? tableStatement? (statement.name.name.toList ++
      (" AS ENUM (".toList ++ rest)) = find? tableStatement? (" AS ENUM (".toList ++ rest) :=
    reads.find?_unless keyword statement.name.run.word (stops _) rfl
  have absent : occurs (spacedKeywords? ["create"]) " AS ENUM ".toList = false := by decide
  have opening : Passes tableStatement? (" AS ENUM ".toList ++ ['(']) :=
    reads.passes_of_absent keyword absent rfl rfl
  rw [toList_text, create, name]
  exact opening _

/-- No comment is cut out of the statement. -/
theorem stripComments_text : stripComments statement.text.toList = statement.text.toList := by
  apply stripComments_of_passes
  intro mark member
  have type : Passes (literal? mark.toList) "CREATE TYPE ".toList :=
    passes_plain member (by decide)
  have list : Passes (literal? mark.toList) " AS ENUM (".toList := passes_plain member (by decide)
  have closing : Passes (literal? mark.toList) [')'] := passes_plain member (by decide)
  have quote : Passes (literal? mark.toList) ['\x27'] := passes_plain member (by decide)
  obtain ⟨sign, -, next, spelled, -, noQuote⟩ := cons_of_commentMark member
  have values : Passes (literal? mark.toList) (listed statement.values) := by
    apply Passes.joined (passes_plain member (by decide))
    rw [List.forall_mem_map]
    intro value inValues
    have literal := passes_doubled (by simp [spelled]) noQuote
      (statement.uncommented value inValues mark member)
    rw [toList_expression]
    exact quote.append literal
  rw [toList_text]
  exact type.append ((passes_name member statement.name).append (list.append
    (values.append closing)))

/-- The values of a list that no parenthesis cuts off are the trimmed literals. -/
theorem enumValues_listed (values : List String) : enumValues (listed values) =
    values.map fun value => trim (· == '\x27') (doubled value.toList) := by
  have whole (value : String) : IsWhole (Quoting.sql.expression value).toList := by
    rw [toList_expression]
    exact isWhole_literal value.toList
  have solid (value : String) : Solid (Quoting.sql.expression value).toList ∧
      (Quoting.sql.expression value).toList ≠ [] := by
    rw [toList_expression]
    exact ⟨(inQuotes_of_enclosed (by decide) _).solid, List.cons_ne_nil _ _⟩
  rw [enumValues, listed, definitions_solid values whole solid, List.map_map]
  refine List.map_congr_left fun value _ => ?_
  rw [Function.comp_apply, strip_of_solid (solid value).1, toList_expression, trim_enclosed]

/-- Every character of a value that is read stands in the list. -/
theorem mem_of_mem_enumValues {listed value : List Char} (member : value ∈ enumValues listed)
    {c : Char} (inValue : c ∈ value) : c ∈ listed := by
  obtain ⟨literal, inDefinitions, rfl⟩ := List.mem_map.mp member
  have inStrip : c ∈ strip literal := (trim_sublist _ _).subset inValue
  have inLiteral : c ∈ literal := (strip_sublist literal).subset inStrip
  have inAll := List.mem_flatten_of_mem inDefinitions inLiteral
  exact (flatten_definitions_sublist listed).subset inAll

theorem notMem_listed {sign : Char} (other : sign ∉ [',', ' ', '\x27']) {values : List String}
    (absent : ∀ value ∈ values, sign ∉ value.toList) : sign ∉ listed values := by
  simp only [List.mem_cons, List.not_mem_nil, or_false, not_or] at other
  intro member
  rcases mem_of_mem_joined member with inSeparator | ⟨text, inTexts, inText⟩
  · simp [other] at inSeparator
  · obtain ⟨value, inValues, rfl⟩ := List.mem_map.mp inTexts
    rw [toList_expression] at inText
    simp only [List.mem_cons, List.mem_append, mem_doubled_iff, List.not_mem_nil, or_false, other,
      false_or] at inText
    exact absent value inValues inText

/-- What is read depends on the first closing parenthesis only. -/
theorem exists_enumerations_text : ∃ values after,
    upTo? ')' (listed statement.values ++ [')']) = some (values, after) ∧
      enumerations statement.text.toList =
        enumerationOf statement.name.name.toList values :: enumerations after := by
  cases read : upTo? ')' (listed statement.values ++ [')']) with
  | none =>
      have absent := upTo?_eq_none_iff.mp read
      simp at absent
  | some parts =>
      obtain ⟨values, after⟩ := parts
      have found := enumStatement?_opening statement.name (listed statement.values ++ [')'])
      rw [← toList_text, read] at found
      exact ⟨values, after, rfl, enumerations_of_some (find?_of_some found)⟩

/-- The trimmed literals are the values exactly if these show no quotes. -/
theorem enumValues_listed_iff (values : List String) :
    (enumValues (listed values)).map String.ofList = values ↔
      ∀ value ∈ values, '\x27' ∉ value.toList := by
  have each (value : String) : String.ofList (trim (· == '\x27') (doubled value.toList)) = value ↔
      '\x27' ∉ value.toList := by
    rw [← trim_doubled_iff, ← String.toList_inj, String.toList_ofList]
  rw [enumValues_listed, List.map_map]
  constructor
  · intro same value member
    have all := List.map_inj_left.mp (same.trans (List.map_id values).symm)
    exact (each value).mp (all value member)
  · intro unquoted
    have all := List.map_congr_left fun value member => (each value).mpr (unquoted value member)
    exact all.trans (List.map_id values)

/-- The enum is read as it is declared exactly if no value shows a quote or a closing
parenthesis. -/
theorem enumerations_text_iff :
    enumerations statement.text.toList = [statement.enumeration] ↔
      ∀ value ∈ statement.values, '\x27' ∉ value.toList ∧ ')' ∉ value.toList := by
  obtain ⟨values, after, list, read⟩ := statement.exists_enumerations_text
  obtain ⟨-, absent⟩ := upTo?_eq_some_iff.mp list
  -- Without closing parentheses in the values, the list is read up to its end.
  have whole (unclosed : ∀ value ∈ statement.values, ')' ∉ value.toList) :
      listed statement.values = values ∧ [] = after := by
    rw [upTo?_append (notMem_listed (by decide) unclosed) [], Option.some.injEq,
      Prod.mk.injEq] at list
    exact list
  constructor
  · intro same
    obtain ⟨first, -⟩ := List.cons.inj (read.symm.trans same)
    have decoded : (enumValues values).map String.ofList = statement.values :=
      congrArg Enumeration.values first
    have unclosed : ∀ value ∈ statement.values, ')' ∉ value.toList := by
      rw [← decoded, List.forall_mem_map]
      intro value member inValue
      rw [String.toList_ofList] at inValue
      exact absent (mem_of_mem_enumValues member inValue)
    rw [← (whole unclosed).1, enumValues_listed_iff] at decoded
    exact fun value member => ⟨decoded value member, unclosed value member⟩
  · intro plain
    obtain ⟨rfl, rfl⟩ := whole fun value member => (plain value member).2
    have decoded := (enumValues_listed_iff statement.values).mpr fun value member =>
      (plain value member).1
    rw [read, enumerations_of_none rfl, enumerationOf, decoded, statement.name.run.unqualified,
      String.ofList_toList]
    rfl

/-! ## Table statements in values -/

theorem even_count_flatMap {α : Type} {sign : Char} {parts : List α} {chars : α → List Char}
    (each : ∀ part ∈ parts, (chars part).count sign % 2 = 0) :
    (parts.flatMap chars).count sign % 2 = 0 := by
  induction parts with
  | nil => rfl
  | cons part later ih =>
      rw [List.forall_mem_cons] at each
      have behind := ih each.2
      rw [List.flatMap_cons, List.count_append]
      omega

/-- Behind an opening parenthesis in a value stands an odd number of quotes. -/
theorem odd_count_behind_opening {values : List String}
    (unquoted : ∀ value ∈ values, '\x27' ∉ value.toList) {begun opened : List Char}
    (cut : listed values ++ [')'] = begun ++ '(' :: opened) :
    opened.count '\x27' % 2 = 1 := by
  rcases append_eq_append_cons cut with ⟨rest, inList, rfl⟩ | ⟨later, -, behind⟩
  · obtain ⟨before, text, after, front, back, parts, inText, -, rfl⟩ :=
      exists_of_joined_eq (by decide) inList
    obtain ⟨earlier, others, rfl, -, isCut⟩ := List.map_eq_append_iff.mp parts
    obtain ⟨value, later, rfl, rfl, rfl⟩ := List.map_eq_cons_iff.mp isCut
    have plain : '\x27' ∉ value.toList := unquoted value (by simp)
    rw [toList_expression, doubled_eq_self plain] at inText
    have one : back.count '\x27' = 1 := by
      cases front with
      | nil => exact absurd (List.cons.inj inText).1 (by decide)
      | cons c more =>
          rcases append_eq_append_cons (List.cons.inj inText).2 with
            ⟨content, inValue, rfl⟩ | ⟨_, -, behind⟩
          · have absent : '\x27' ∉ content := by
              intro member
              exact plain (inValue ▸ List.mem_append_right _ (List.mem_cons_of_mem _ member))
            rw [List.count_append, List.count_eq_zero.mpr absent]
            rfl
          · have absent : '(' ∉ ['\x27'] := by decide
            rw [behind] at absent
            simp at absent
    have even : (later.flatMap fun value =>
        ", ".toList ++ (Quoting.sql.expression value).toList).count '\x27' % 2 = 0 := by
      apply even_count_flatMap
      intro value _
      rw [toList_expression]
      simp [count_doubled]
      omega
    have none : [')'].count '\x27' = 0 := rfl
    rw [List.flatMap_map, List.count_append, List.count_append, one, none]
    omega
  · have absent : '(' ∉ [')'] := by decide
    rw [behind] at absent
    simp at absent

/-- A table statement begins in the values only. -/
theorem exists_opening_of_occurs
    (begins : occurs tableStatement? statement.text.toList = true) :
    ∃ qualified begun opened,
      find? tableStatement? statement.text.toList = some (qualified, opened) ∧
        listed statement.values ++ [')'] = begun ++ '(' :: opened := by
  obtain ⟨⟨qualified, opened⟩, found⟩ := Option.isSome_iff_exists.mp begins
  have inValues := found
  rw [find?_tableStatement?_text] at inValues
  obtain ⟨part, isEnd, read⟩ := exists_of_find? inValues
  obtain ⟨begun, cut⟩ := (opening_suffix_of_tableStatement? read).trans isEnd
  exact ⟨qualified, begun, opened, found, cut.symm⟩

/-- A table statement that begins in the values is not closed. -/
theorem exists_error_of_occurs
    (plain : ∀ value ∈ statement.values, '\x27' ∉ value.toList ∧ ')' ∉ value.toList)
    (begins : occurs tableStatement? statement.text.toList = true) :
    ∃ cause, tables statement.text.toList = .error cause := by
  obtain ⟨qualified, begun, opened, found, cut⟩ := statement.exists_opening_of_occurs begins
  have odd := odd_count_behind_opening (fun value member => (plain value member).1) cut
  have unclosed : splitBody false 0 opened = none := by
    by_contra closed
    obtain ⟨⟨body, after⟩, split⟩ := Option.ne_none_iff_exists'.mp closed
    obtain ⟨balanced, rfl⟩ := splitBody_eq_some_iff.mp split
    have even := balanced.even_count_quotes
    have absent : ')' ∉ listed statement.values :=
      notMem_listed (by decide) fun value member => (plain value member).2
    rw [← List.cons_append, ← List.append_assoc] at cut
    -- The only closing parenthesis ends the statement.
    rcases append_eq_append_cons cut with ⟨rest, inList, -⟩ | ⟨later, -, behind⟩
    · rw [inList] at absent
      simp at absent
    · cases later with
      | nil =>
          obtain ⟨-, rfl⟩ := List.cons.inj behind
          rw [List.count_append, List.count_cons_of_ne (by decide), List.count_nil] at odd
          omega
      | cons c more =>
          have nothing := (List.cons.inj behind).2
          simp at nothing
  exact ⟨_, tables_of_open found unclosed⟩

theorem ofSql_of_silent (enums : enumerations statement.text.toList = [statement.enumeration])
    (silent : occurs tableStatement? statement.text.toList = false) :
    Document.ofSql statement.text =
      .ok { format := SourceFormat.sql.name, tables := [], enums := [statement.enumeration] } := by
  rw [occurs, Option.isSome_eq_false_iff, Option.isNone_iff_eq_none] at silent
  rw [ofSql_eq_ok_iff statement.stripComments_text, enums]
  exact ⟨[], tables_of_none silent, rfl⟩

/-- A statement is read back exactly if its values show neither quotes nor closing
parentheses, and no table statement begins in them. -/
theorem readsBack_iff_plain : statement.ReadsBack ↔
    (∀ value ∈ statement.values, '\x27' ∉ value.toList ∧ ')' ∉ value.toList) ∧
      occurs tableStatement? statement.text.toList = false := by
  rw [← enumerations_text_iff]
  constructor
  · rintro ⟨document, read, enums⟩
    obtain ⟨declared, found, rfl⟩ := (ofSql_eq_ok_iff statement.stripComments_text).mp read
    refine ⟨enums, ?_⟩
    by_contra begins
    rw [Bool.not_eq_false] at begins
    obtain ⟨cause, error⟩ :=
      statement.exists_error_of_occurs (statement.enumerations_text_iff.mp enums) begins
    rw [error] at found
    contradiction
  · rintro ⟨enums, silent⟩
    exact ⟨_, statement.ofSql_of_silent enums silent, rfl⟩

end EnumStatement

/-- The values of an enum are read back exactly if they show neither quotes nor closing
parentheses, and no table statement begins in them; then nothing else is read.  Values
without quotes and parentheses are read back. -/
theorem readsBack_enumValues (statement : EnumStatement) :
    (statement.ReadsBack ↔
      (∀ value ∈ statement.values, '\x27' ∉ value.toList ∧ ')' ∉ value.toList) ∧
        occurs tableStatement? statement.text.toList = false) ∧
    (statement.ReadsBack → Document.ofSql statement.text =
      .ok { format := SourceFormat.sql.name, tables := [], enums := [statement.enumeration] }) ∧
    ((∀ value ∈ statement.values, ∀ c ∈ value.toList, isNestingSign c = false) →
      statement.ReadsBack) := by
  have plainIff := statement.readsBack_iff_plain
  refine ⟨plainIff, ?_, ?_⟩
  · intro back
    obtain ⟨plain, silent⟩ := plainIff.mp back
    exact statement.ofSql_of_silent (statement.enumerations_text_iff.mpr plain) silent
  · intro noSigns
    have absent {sign : Char} (isSign : isNestingSign sign = true) :
        ∀ value ∈ statement.values, sign ∉ value.toList := by
      intro value inValues member
      rw [noSigns value inValues sign member] at isSign
      contradiction
    apply plainIff.mpr
    constructor
    · exact fun value member => ⟨absent rfl value member, absent rfl value member⟩
    · by_contra begins
      rw [Bool.not_eq_false] at begins
      obtain ⟨qualified, begun, opened, -, cut⟩ := statement.exists_opening_of_occurs begins
      have noOpening : '(' ∉ EnumStatement.listed statement.values ++ [')'] := by
        rw [List.mem_append, not_or]
        exact ⟨EnumStatement.notMem_listed (by decide) (absent rfl), by decide⟩
      rw [cut] at noOpening
      simp at noOpening

/-- The states of an order, with signs and blanks in their names. -/
def stateStatement : EnumStatement where
  name := ⟨"order_state", by decide⟩
  values := ["new", "sent, part (1", " on \"hold\" ", ""]
  uncommented := by decide

/-- The sizes of a shirt. -/
def sizeStatement : EnumStatement where
  name := ⟨"size", by decide⟩
  values := ["S, XS", "M; L"]
  uncommented := by decide

/-- Commas, blanks, double quotes and opening parentheses do no harm. -/
theorem readsBack_stateStatement :
    stateStatement.ReadsBack ∧ sizeStatement.ReadsBack ∧
      Document.ofSql stateStatement.text =
        .ok { format := "sql", tables := [], enums := [stateStatement.enumeration] } := by
  obtain ⟨plainIff, reads, -⟩ := readsBack_enumValues stateStatement
  obtain ⟨-, -, readsPlain⟩ := readsBack_enumValues sizeStatement
  have back : stateStatement.ReadsBack := plainIff.mpr ⟨by decide, by decide +kernel⟩
  exact ⟨back, readsPlain (by decide), reads back⟩

/-- A statement with a single value. -/
def EnumStatement.single (name : PlainName) (value : String)
    (uncommented : ∀ mark ∈ commentMarks, contains mark.toList value.toList = false) :
    EnumStatement where
  name := name
  values := [value]
  uncommented := by simpa using uncommented

/-- A quote, a closing parenthesis and a table statement are not read as parts of a
value. -/
theorem not_readsBack_values :
    ¬(EnumStatement.single ⟨"t", by decide⟩ "it's" (by decide)).ReadsBack ∧
      ¬(EnumStatement.single ⟨"t", by decide⟩ "a)" (by decide)).ReadsBack ∧
      ¬(EnumStatement.single ⟨"t", by decide⟩ "create table x (" (by decide)).ReadsBack := by
  simp only [EnumStatement.readsBack_iff_plain]
  refine ⟨?_, ?_, ?_⟩
  all_goals decide +kernel

end Sql

end Crowsfoot
