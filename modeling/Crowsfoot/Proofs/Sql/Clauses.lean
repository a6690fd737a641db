import Crowsfoot.Proofs.Sql.Keywords
import Crowsfoot.Proofs.Sql.Names

/-!
# Clauses of columns

The text of a clause is a keyword with something after it, and what follows the
clause is the end of the definition or a blank and a further clause.  A search
for a keyword passes over a clause that begins with another keyword, unless its
literal or the name it refers to holds the keyword.
-/

namespace Crowsfoot.Sql

open Crowsfoot.Text

/-- Clauses with a blank before each. -/
def tailText (clauses : List Clause) : List Char :=
  clauses.flatMap fun clause => ' ' :: clause.text.toList

theorem tailText_cons (clause : Clause) (later : List Clause) :
    tailText (clause :: later) = ' ' :: (clause.text.toList ++ tailText later) :=
  List.flatMap_cons

/-- The words that clauses begin with. -/
def clauseWords : List String :=
  ["NOT", "PRIMARY", "UNIQUE", "DEFAULT", "REFERENCES"]

theorem Clause.keyword_mem (clause : Clause) : clause.keyword ∈ clauseWords := by
  cases clause <;> simp [keyword, clauseWords]

theorem run_of_clauseWord : ∀ word ∈ clauseWords, IsRun word.toList := by
  decide

theorem Clause.run_keyword (clause : Clause) : IsRun clause.keyword.toList :=
  run_of_clauseWord _ clause.keyword_mem

theorem Clause.toList_text (clause : Clause) :
    clause.text.toList = clause.keyword.toList ++ clause.operand.toList :=
  String.toList_append ..

/-- The end of a definition, or a blank and a further word. -/
def IsSpaced (rest : List Char) : Prop :=
  rest = [] ∨ ∃ c later, rest = ' ' :: c :: later ∧ isWord c = true

namespace IsSpaced

variable {rest : List Char} (spaced : IsSpaced rest)

include spaced

/-- A run ends there if blanks are not of its class. -/
theorem stops {takes : Char → Bool} (blank : takes ' ' = false) : Stops takes rest := by
  rcases spaced with rfl | ⟨c, later, rfl, -⟩
  · exact stops_nil _
  · exact stops_cons_iff.mpr blank

theorem stops_isWord : Stops isWord rest :=
  spaced.stops rfl

theorem namePart?_eq_none : namePart? rest = none := by
  rcases spaced with rfl | ⟨c, later, rfl, -⟩ <;> rfl

/-- No parenthesis opens there. -/
theorem parenFollows_eq_false : parenFollows rest = false := by
  rcases spaced with rfl | ⟨c, later, rfl, word⟩
  · rfl
  · have skipped : skipBlanks (' ' :: c :: later) = c :: later :=
      skipBlanks_of_stops (stops_cons_iff.mpr (isBlank_of_isWord word))
    rw [parenFollows, skipped]
    simpa using ne_of_class word rfl

theorem parenthesizedList?_eq_none : parenthesizedList? rest = none := by
  have closed := spaced.parenFollows_eq_false
  rw [parenFollows] at closed
  rw [parenthesizedList?]
  split
  · rename_i opened
    rw [opened] at closed
    contradiction
  · rfl

end IsSpaced

/-- The end of a definition, or a further clause. -/
def IsTail (rest : List Char) : Prop :=
  rest = [] ∨ ∃ word ∈ clauseWords, ∃ later, rest = ' ' :: (word.toList ++ later)

theorem isTail_tailText (clauses : List Clause) : IsTail (tailText clauses) := by
  cases clauses with
  | nil => exact .inl rfl
  | cons clause later =>
      refine .inr ⟨_, clause.keyword_mem, clause.operand.toList ++ tailText later, ?_⟩
      rw [tailText, List.flatMap_cons, clause.toList_text, List.cons_append, List.append_assoc]
      rfl

namespace IsTail

variable {rest : List Char} (tail : IsTail rest)

include tail

theorem isSpaced : IsSpaced rest := by
  rcases tail with rfl | ⟨word, member, later, rfl⟩
  · exact .inl rfl
  · obtain ⟨c, more, spelled, isWord⟩ := (run_of_clauseWord word member).exists_cons
    rw [spelled]
    exact .inr ⟨c, more ++ later, rfl, isWord⟩

/-- No tail begins with the second word of a phrase. -/
theorem unread {second : String} (phrase : second ∈ ["key", "null"]) :
    (blanks? rest).bind (keyword? second) = none := by
  rcases tail with rfl | ⟨word, member, later, rfl⟩
  · rfl
  · rw [blanks?_cons rfl ((run_of_clauseWord word member).stops_isBlank later), Option.bind_some]
    simp only [clauseWords, List.mem_cons, List.not_mem_nil, or_false] at member phrase
    rcases phrase with rfl | rfl <;>
      rcases member with rfl | rfl | rfl | rfl | rfl <;> rfl

end IsTail

theorem toList_listText (texts : List String) :
    (listText texts).toList = '(' :: ((joined ", " texts).toList ++ [')']) := by
  simp [listText]

theorem DefaultValue.toList_literal {content : String} (unquoted : '\x27' ∉ content.toList) :
    (literal content unquoted).text.toList = '\x27' :: (content.toList ++ ['\x27']) := by
  simp [text]

/-- A default value neither begins nor ends with a blank. -/
theorem DefaultValue.solid (value : DefaultValue) :
    Solid value.text.toList ∧ value.text.toList ≠ [] := by
  cases value with
  | integer number =>
      obtain ⟨n, unsigned | signed⟩ := toList_toString_int number
      · rw [text, unsigned]
        exact ⟨(run_toString n).solid, (run_toString n).nonempty⟩
      · rw [text, signed]
        refine ⟨solid_of_notBlank ?_, List.cons_ne_nil _ _⟩
        rw [List.forall_mem_cons]
        exact ⟨rfl, (run_toString n).notBlank⟩
  | literal content unquoted =>
      rw [toList_literal unquoted, ← List.cons_append]
      have closing : ['\x27'] ≠ [] := List.cons_ne_nil _ _
      exact ⟨Solid.append (stops_cons_iff.mpr rfl) (stops_cons_iff.mpr rfl)
        (List.cons_ne_nil _ _) closing, List.cons_ne_nil _ _⟩

/-- A run ends at a list that may be left out, if it ends behind it. -/
theorem stops_optionalListText {takes : Char → Bool} (paren : takes '(' = false)
    {rest : List Char} (stops : Stops takes rest) (texts : List String) :
    Stops takes ((optionalListText texts).toList ++ rest) := by
  rw [optionalListText]
  split
  · exact stops
  · rw [toList_listText]
    exact stops_cons_iff.mpr paren

theorem solid_listText (texts : List String) :
    Solid (listText texts).toList ∧ (listText texts).toList ≠ [] := by
  rw [toList_listText]
  rw [← List.singleton_append]
  refine ⟨Solid.append ?_ ?_ (List.cons_ne_nil _ _) (by simp), List.cons_ne_nil _ _⟩
  · exact stops_cons_iff.mpr rfl
  · exact stops_reverse_append (stops_cons_iff.mpr rfl) (List.cons_ne_nil _ _) _

theorem solid_optionalListText {text : List Char} (solid : Solid text) (nonempty : text ≠ [])
    (texts : List String) : Solid (text ++ (optionalListText texts).toList) := by
  rw [optionalListText]
  split
  · rwa [String.toList_empty, List.append_nil]
  · obtain ⟨list, listNonempty⟩ := solid_listText texts
    exact Solid.append solid.first list.last nonempty listNonempty

theorem Clause.toList_default (value : DefaultValue) :
    (default value).text.toList = "DEFAULT".toList ++ ' ' :: value.text.toList := by
  simp [text, keyword, operand]

theorem Clause.toList_references (table : PlainName) (columns : List PlainName) :
    (references table columns).text.toList =
      "REFERENCES".toList ++ ' ' ::
        (table.name.toList ++ (optionalListText (columns.map PlainName.name)).toList) := by
  simp [text, keyword, operand]

/-- A clause neither begins nor ends with a blank. -/
theorem Clause.solid (clause : Clause) : Solid clause.text.toList := by
  cases clause with
  | notNull => exact ⟨stops_cons_iff.mpr rfl, stops_cons_iff.mpr rfl⟩
  | primaryKey => exact ⟨stops_cons_iff.mpr rfl, stops_cons_iff.mpr rfl⟩
  | unique => exact ⟨stops_cons_iff.mpr rfl, stops_cons_iff.mpr rfl⟩
  | default value =>
      rw [toList_default]
      have last := stops_reverse_append value.solid.1.last value.solid.2 [' ']
      exact Solid.append (stops_cons_iff.mpr rfl) last (by simp) (by simp)
  | references table columns =>
      rw [toList_references]
      have target := solid_optionalListText table.run.solid table.run.nonempty
        (columns.map PlainName.name)
      have last := stops_reverse_append target.last (by simp [table.run.nonempty]) [' ']
      exact Solid.append (stops_cons_iff.mpr rfl) last (by simp) (by simp)

theorem Clause.nonempty (clause : Clause) : clause.text.toList ≠ [] := by
  simp [clause.toList_text, clause.run_keyword.nonempty]

theorem Clause.stops_isBlank (clause : Clause) (rest : List Char) :
    Stops isBlank (clause.text.toList ++ rest) :=
  clause.solid.first.append clause.nonempty rest

/-! ## Texts of definitions -/

theorem ColumnDefinition.toList_text (column : ColumnDefinition) :
    column.text.toList =
      column.name.name.toList ++ ' ' :: (column.type.text.toList ++ tailText column.clauses) := by
  rw [text, toList_joined_cons, List.flatMap_cons, List.flatMap_map, tailText,
    List.append_assoc]
  rfl

theorem Declaration.toList_foreignKey (name? : Option PlainName) (columns : List PlainName)
    (table : PlainName) (refColumns : List PlainName) :
    (foreignKey name? columns table refColumns).text.toList =
      (constraintText name?).toList ++ ("FOREIGN KEY ".toList ++
        ((listText (columns.map PlainName.name)).toList ++
          ' ' :: (Clause.references table refColumns).text.toList)) := by
  simp [text]

/-- Whether a keyword before a blank stands in what follows the keyword of a
clause. -/
def Clause.holds (word : String) : Clause → Bool
  | default (.literal content _) => occurs (spacedKeywords? [word]) content.toList
  | references table [] => endsIn word table.name.toList
  | _ => false

section Search

variable {α : Type} {word : String} {next recognise : List Char → Option α}
  (keyword : IsKeyword word) (reads : ReadsAfter word next recognise)

include keyword reads

/-- Lists of names are passed over. -/
theorem ReadsAfter.passes_listed {first : String} {later : List String}
    (runs : ∀ text ∈ first :: later, IsRun text.toList) :
    Passes recognise ((joined ", " (first :: later)).toList ++ [')']) := by
  induction later generalizing first with
  | nil => exact reads.passes_run keyword (runs first List.mem_cons_self).word rfl rfl
  | cons following more ih =>
      rw [List.forall_mem_cons] at runs
      have split : (joined ", " (first :: following :: more)).toList ++ [')'] =
          (first.toList ++ [',']) ++ ([' '] ++
            ((joined ", " (following :: more)).toList ++ [')'])) := by
        simp [joined]
      rw [split]
      exact (reads.passes_run keyword runs.1.word rfl rfl).append
        ((reads.passes_sign keyword rfl).append (ih runs.2))

theorem ReadsAfter.passes_listText {texts : List String}
    (runs : ∀ text ∈ texts, IsRun text.toList) :
    Passes recognise (listText texts).toList := by
  rw [toList_listText, ← List.singleton_append]
  apply Passes.append (reads.passes_sign keyword rfl)
  cases texts with
  | nil => exact reads.passes_sign keyword rfl
  | cons first later => exact reads.passes_listed keyword runs

/-- A run with a list behind it is passed over, and so is the run alone if the
search passes it. -/
theorem ReadsAfter.find?_target {text : List Char} (run : IsRun text) {texts : List String}
    (runs : ∀ text ∈ texts, IsRun text.toList) {rest : List Char}
    (bare : texts = [] → find? recognise (text ++ rest) = find? recognise rest) :
    find? recognise (text ++ ((optionalListText texts).toList ++ rest)) =
      find? recognise rest := by
  cases texts with
  | nil => exact bare rfl
  | cons first later =>
      have listed := reads.passes_listText keyword runs rest
      have spelled := toList_listText (first :: later)
      change find? recognise (text ++ ((listText (first :: later)).toList ++ rest)) = _
      rw [reads.find?_unless keyword run.word, listed]
      · rw [spelled]
        exact stops_cons_iff.mpr rfl
      · rw [spelled]
        rfl

/-- A number is passed over. -/
theorem ReadsAfter.find?_number (value : Int) {rest : List Char} (stops : Stops isWord rest) :
    find? recognise ((toString value).toList ++ rest) = find? recognise rest := by
  have unsigned : ∀ n : Nat,
      find? recognise ((toString n).toList ++ rest) = find? recognise rest := fun n =>
    reads.find?_other keyword (run_toString n).word stops
      (endsIn_of_isDigit keyword fun _ => isDigit_of_mem_toString)
  obtain ⟨n, same | signed⟩ := toList_toString_int value
  · rw [same, unsigned]
  · rw [signed, List.cons_append, reads.find?_cons keyword rfl, unsigned]

/-- A clause is passed over if its keyword does not end in the word that is
searched for and the rest of the clause does not hold it. -/
theorem ReadsAfter.find?_clause {clause : Clause}
    (closing : endsIn word "NULL".toList = false ∧ endsIn word "KEY".toList = false)
    (other : endsIn word clause.keyword.toList = false) (absent : clause.holds word = false)
    {rest : List Char} (tail : IsTail rest) :
    find? recognise (clause.text.toList ++ rest) = find? recognise rest := by
  have stops := tail.isSpaced.stops_isWord
  have passKeyword : ∀ later, find? recognise (clause.keyword.toList ++ ' ' :: later) =
      find? recognise later := by
    intro later
    rw [reads.find?_other keyword clause.run_keyword.word (stops_cons_iff.mpr rfl) other,
      reads.find?_cons keyword rfl]
  cases clause with
  | notNull =>
      exact (passKeyword ("NULL".toList ++ rest)).trans
        (reads.find?_other keyword (by decide) stops closing.1)
  | primaryKey =>
      exact (passKeyword ("KEY".toList ++ rest)).trans
        (reads.find?_other keyword (by decide) stops closing.2)
  | unique =>
      exact reads.find?_other keyword (by decide) stops other
  | default value =>
      rw [Clause.toList_default, List.append_assoc]
      refine (passKeyword (value.text.toList ++ rest)).trans ?_
      cases value with
      | integer number => exact reads.find?_number keyword number stops
      | literal content unquoted =>
          rw [DefaultValue.toList_literal, List.cons_append, reads.find?_cons keyword rfl]
          exact reads.passes_of_absent keyword absent rfl rfl rest
  | references table columns =>
      rw [Clause.toList_references, List.append_assoc, List.cons_append, List.append_assoc]
      refine (passKeyword _).trans
        (reads.find?_target keyword table.run (runs_names columns) fun bare => ?_)
      obtain rfl := List.map_eq_nil_iff.mp bare
      exact reads.find?_other keyword table.run.word stops absent

end Search

end Crowsfoot.Sql
