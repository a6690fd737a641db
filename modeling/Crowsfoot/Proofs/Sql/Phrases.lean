import Crowsfoot.Proofs.Sql.Clauses

/-!
# Phrases and whole words in clauses

The reader takes `primary key`, `not null`, `foreign key` and `unique` for
clauses wherever they stand.  Clauses show such a phrase exactly if one of them
says it or a literal shows it; the word `unique` may also be a name that a
clause refers to.
-/

namespace Crowsfoot.Sql

open Crowsfoot.Text

/-- The phrases that are searched for in definitions. -/
def phrases : List (String × String) :=
  [("primary", "key"), ("not", "null"), ("foreign", "key")]

/-- Whether a clause is a phrase with a certain first word. -/
def Clause.states (first : String) : Clause → Bool
  | notNull => first == "not"
  | primaryKey => first == "primary"
  | _ => false

section Phrase

variable {first second : String} (phrase : (first, second) ∈ phrases)

include phrase

theorem keywords_of_phrase : IsKeyword first ∧ IsKeyword second := by
  have all : ∀ pair ∈ phrases, IsKeyword pair.1 ∧ IsKeyword pair.2 := by decide
  exact all (first, second) phrase

theorem second_of_phrase : second ∈ ["key", "null"] := by
  have all : ∀ pair ∈ phrases, pair.2 ∈ ["key", "null"] := by decide
  exact all (first, second) phrase

/-- No clause word ends in the first word of a phrase, but for those that say
it. -/
theorem endsIn_clauseWord_of_phrase : endsIn first "DEFAULT".toList = false ∧
    endsIn first "REFERENCES".toList = false := by
  have all : ∀ pair ∈ phrases, endsIn pair.1 "DEFAULT".toList = false ∧
      endsIn pair.1 "REFERENCES".toList = false := by decide
  exact all (first, second) phrase

/-- A clause shows a phrase exactly if it says it or its literal shows it. -/
theorem Clause.occurs_phrase (clause : Clause) :
    occurs (keywords? [first, second]) clause.text.toList =
      (clause.states first ||
        clause.literal?.any fun content => occurs (keywords? [first, second]) content.toList) := by
  have reads := readsAfter_keywords? first second
  obtain ⟨firstKeyword, secondKeyword⟩ := keywords_of_phrase phrase
  obtain ⟨defaultOther, referencesOther⟩ := endsIn_clauseWord_of_phrase phrase
  have closed (clause : Clause) (word : clause ∈ [notNull, primaryKey, unique]) :
      occurs (keywords? [first, second]) clause.text.toList = clause.states first := by
    simp only [phrases, List.mem_cons, Prod.mk.injEq, List.not_mem_nil, or_false] at phrase word
    rcases phrase with ⟨rfl, rfl⟩ | ⟨rfl, rfl⟩ | ⟨rfl, rfl⟩ <;>
      rcases word with rfl | rfl | rfl <;> decide
  cases clause with
  | notNull => simp [closed notNull, literal?]
  | primaryKey => simp [closed primaryKey, literal?]
  | unique => simp [closed unique, literal?]
  | default value =>
      rw [toList_default]
      have plain : ∀ c ∈ "DEFAULT".toList, isWord c = true := by decide
      rw [occurs, reads.find?_other firstKeyword plain (stops_cons_iff.mpr rfl) defaultOther,
        reads.find?_cons firstKeyword rfl]
      cases value with
      | integer number =>
          have passed := reads.find?_number firstKeyword number (stops_nil _)
          rw [List.append_nil, reads.find?_nil firstKeyword] at passed
          rw [DefaultValue.text, passed]
          rfl
      | literal content unquoted =>
          have parts := occurs_keywords?_append_cons firstKeyword secondKeyword
            (rfl : isWord '\x27' = false) rfl content.toList []
          rw [DefaultValue.toList_literal, reads.find?_cons firstKeyword rfl]
          rw [occurs, occurs, occurs, reads.find?_nil firstKeyword] at parts
          simpa [states, literal?, occurs] using parts
  | references table columns =>
      have plain : ∀ c ∈ "REFERENCES".toList, isWord c = true := by decide
      have bare : find? (keywords? [first, second]) (table.name.toList ++ []) =
          find? (keywords? [first, second]) [] :=
        reads.find?_unless firstKeyword table.run.word (stops_nil _) rfl
      have passed := reads.find?_target firstKeyword table.run (runs_names columns) fun _ => bare
      rw [List.append_nil, reads.find?_nil firstKeyword] at passed
      rw [toList_references, occurs,
        reads.find?_other firstKeyword plain (stops_cons_iff.mpr rfl) referencesOther,
        reads.find?_cons firstKeyword rfl, passed]
      rfl

end Phrase

/-- What is said by a clause or shown by its literal, over all clauses. -/
theorem any_or_literal (said : Clause → Bool) (shows : String → Bool) (clauses : List Clause) :
    (clauses.any fun clause => said clause || clause.literal?.any shows) =
      (clauses.any said || (literals clauses).any shows) := by
  induction clauses with
  | nil => rfl
  | cons clause later ih =>
      have split : (literals (clause :: later)).any shows =
          (clause.literal?.any shows || (literals later).any shows) := by
        rw [literals, List.filterMap_cons]
        cases clause.literal? <;> rfl
      rw [List.any_cons, ih, List.any_cons, split]
      ac_rfl

/-- Clauses show a phrase exactly if one of them says it or a literal shows
it. -/
theorem occurs_phrase_tailText {first second : String} (phrase : (first, second) ∈ phrases)
    (clauses : List Clause) :
    occurs (keywords? [first, second]) (tailText clauses) =
      (clauses.any (Clause.states first) || (literals clauses).any fun content =>
        occurs (keywords? [first, second]) content.toList) := by
  have reads := readsAfter_keywords? first second
  obtain ⟨firstKeyword, secondKeyword⟩ := keywords_of_phrase phrase
  rw [← any_or_literal]
  induction clauses with
  | nil => exact congrArg Option.isSome (reads.find?_nil firstKeyword)
  | cons clause later ih =>
      have tail := isTail_tailText later
      rw [List.any_cons, ← ih, ← clause.occurs_phrase phrase, tailText_cons,
        ← occurs_keywords?_append firstKeyword secondKeyword tail.isSpaced.stops_isWord
          (tail.unread (second_of_phrase phrase)) clause.solid.last]
      exact congrArg Option.isSome (reads.find?_cons firstKeyword rfl _)

/-! ## Searches for a whole word -/

/-- Whether a clause is the word `unique`. -/
def Clause.isUnique (clause : Clause) : Bool :=
  decide (clause = .unique)

theorem isKeyword_unique : IsKeyword "unique" := by
  decide

theorem hasUnique_listed {first : String} {later : List String}
    (runs : ∀ text ∈ first :: later, IsRun text.toList) :
    hasWholeKeyword "unique" false ((joined ", " (first :: later)).toList ++ [')']) =
      (first :: later).any fun text => spells "unique" text.toList := by
  induction later generalizing first with
  | nil =>
      rw [joined, hasWholeKeyword_append_cons isKeyword_unique rfl,
        hasWholeKeyword_run isKeyword_unique (runs first List.mem_cons_self).word]
      simp [hasWholeKeyword]
  | cons following more ih =>
      rw [List.forall_mem_cons] at runs
      have split : (joined ", " (first :: following :: more)).toList ++ [')'] =
          first.toList ++ ',' :: (' ' :: ((joined ", " (following :: more)).toList ++ [')'])) := by
        simp [joined]
      rw [split, hasWholeKeyword_append_cons isKeyword_unique rfl,
        hasWholeKeyword_cons isKeyword_unique rfl,
        hasWholeKeyword_run isKeyword_unique runs.1.word, ih runs.2]
      rfl

theorem hasUnique_number (value : Int) :
    hasWholeKeyword "unique" false (toString value).toList = false := by
  have unsigned : ∀ n : Nat, hasWholeKeyword "unique" false (toString n).toList = false := by
    intro n
    rw [hasWholeKeyword_run isKeyword_unique (run_toString n).word]
    exact spells_of_endsIn isKeyword_unique
      (endsIn_of_isDigit isKeyword_unique fun _ => isDigit_of_mem_toString)
  obtain ⟨n, same | signed⟩ := toList_toString_int value
  · rw [same, unsigned]
  · rw [signed, hasWholeKeyword_cons isKeyword_unique rfl, unsigned]

/-- A clause shows the word `unique` exactly if it is this word, its literal
shows it, or a name in it is spelled like it. -/
theorem Clause.hasUnique_text (clause : Clause) :
    hasWholeKeyword "unique" false clause.text.toList =
      ((clause.isUnique || clause.names.any fun name => spells "unique" name.name.toList) ||
        clause.literal?.any fun content => hasWholeKeyword "unique" false content.toList) := by
  cases clause with
  | notNull => decide
  | primaryKey => decide
  | unique => decide
  | default value =>
      have word : hasWholeKeyword "unique" false "DEFAULT".toList = false := by decide
      rw [toList_default, hasWholeKeyword_append_cons isKeyword_unique rfl, word, Bool.false_or]
      cases value with
      | integer number =>
          rw [DefaultValue.text, hasUnique_number]
          simp [isUnique, names, literal?]
      | literal content unquoted =>
          rw [DefaultValue.toList_literal, hasWholeKeyword_cons isKeyword_unique rfl,
            hasWholeKeyword_append_cons isKeyword_unique rfl]
          simp [isUnique, names, literal?, hasWholeKeyword]
  | references table columns =>
      have word : hasWholeKeyword "unique" false "REFERENCES".toList = false := by decide
      rw [toList_references, hasWholeKeyword_append_cons isKeyword_unique rfl, word,
        Bool.false_or]
      cases columns with
      | nil =>
          simp [optionalListText, hasWholeKeyword_run isKeyword_unique table.run.word, isUnique,
            names, literal?]
      | cons column later =>
          have runs := runs_names (column :: later)
          change hasWholeKeyword "unique" false (table.name.toList ++
            (listText ((column :: later).map PlainName.name)).toList) = _
          rw [toList_listText, hasWholeKeyword_append_cons isKeyword_unique rfl,
            hasWholeKeyword_run isKeyword_unique table.run.word]
          rw [List.map_cons] at runs ⊢
          rw [hasUnique_listed runs, ← List.map_cons, List.any_map]
          simp [isUnique, names, literal?, Function.comp_def]

theorem hasUnique_append_tail (text : List Char) {rest : List Char} (tail : IsTail rest) :
    hasWholeKeyword "unique" false (text ++ rest) =
      (hasWholeKeyword "unique" false text || hasWholeKeyword "unique" false rest) := by
  rcases tail with rfl | ⟨word, -, later, rfl⟩
  · simp [hasWholeKeyword]
  · rw [hasWholeKeyword_append_cons isKeyword_unique rfl,
      hasWholeKeyword_cons isKeyword_unique rfl]

/-- Clauses show the word `unique` exactly if it is one of them, a literal
shows it, or a name in them is spelled like it. -/
theorem hasUnique_tailText (clauses : List Clause) :
    hasWholeKeyword "unique" false (tailText clauses) =
      ((clauses.any Clause.isUnique ||
        (referencedNames clauses).any fun name => spells "unique" name.name.toList) ||
        (literals clauses).any fun content => hasWholeKeyword "unique" false content.toList) := by
  have said : (clauses.any fun clause => clause.isUnique ||
      clause.names.any fun name => spells "unique" name.name.toList) =
        (clauses.any Clause.isUnique ||
          (referencedNames clauses).any fun name => spells "unique" name.name.toList) := by
    rw [referencedNames, List.any_flatMap]
    induction clauses with
    | nil => rfl
    | cons clause later ih =>
        rw [List.any_cons, ih, List.any_cons, List.any_cons]
        ac_rfl
  rw [← said, ← any_or_literal]
  clear said
  induction clauses with
  | nil => rfl
  | cons clause later ih =>
      rw [tailText_cons, hasWholeKeyword_cons isKeyword_unique rfl,
        hasUnique_append_tail _ (isTail_tailText later), clause.hasUnique_text, ih,
        List.any_cons]

end Crowsfoot.Sql
