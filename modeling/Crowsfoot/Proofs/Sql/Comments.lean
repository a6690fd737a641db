import Crowsfoot.Proofs.Sql.Remainders
import Crowsfoot.Proofs.Sql.Tables

/-!
# Comments in scripts

A comment takes a hyphen or a slash away with it.  These signs occur in a
script only in the clauses of its columns, and a script holds a comment only if
a literal shows its beginning.
-/

namespace Crowsfoot.Sql

open Crowsfoot.Text

theorem dropLineComments_sublist (inComment : Bool) (text : List Char) :
    (dropLineComments inComment text).Sublist text := by
  induction text generalizing inComment with
  | nil => exact List.Sublist.slnil
  | cons c rest ih =>
      rw [dropLineComments]
      split
      · exact (ih false).cons_cons c
      · split
        · exact (ih true).cons c
        · exact (ih false).cons_cons c

/-- A text without line comments stays, and every other text loses hyphens. -/
theorem dropLineComments_cases (text : List Char) :
    dropLineComments false text = text ∨
      (dropLineComments false text).count '-' < text.count '-' := by
  induction text with
  | nil => exact .inl rfl
  | cons c rest ih =>
      have keeps : dropLineComments false (c :: rest) = c :: dropLineComments false rest →
          dropLineComments false (c :: rest) = c :: rest ∨
            (dropLineComments false (c :: rest)).count '-' < (c :: rest).count '-' := by
        intro kept
        rw [kept]
        rcases ih with same | fewer
        · exact .inl (congrArg _ same)
        · right
          rw [List.count_cons, List.count_cons]
          omega
      by_cases comment : (c == '-' && rest.head? == some '-') = true
      · right
        obtain rfl : c = '-' := by
          rw [Bool.and_eq_true, beq_iff_eq] at comment
          exact comment.1
        have dropped : dropLineComments false ('-' :: rest) = dropLineComments true rest := by
          rw [dropLineComments, if_neg (by decide), if_pos (by simpa using comment)]
        have fewer := (dropLineComments_sublist true rest).count_le '-'
        rw [dropped, List.count_cons_self]
        omega
      · apply keeps
        rw [dropLineComments]
        split
        · rfl
        · rw [if_neg (by simpa using comment)]

theorem suffix_of_afterBlockComment? {text rest : List Char}
    (closed : afterBlockComment? text = some rest) : rest <:+ text := by
  fun_induction afterBlockComment? text with
  | case1 => contradiction
  | case2 later => exact Option.some.inj closed ▸ List.suffix_append ['*', '/'] later
  | case3 c later _ ih => exact (ih closed).trans (List.suffix_cons c later)

theorem dropBlockComments_sublist (text : List Char) : (dropBlockComments text).Sublist text := by
  fun_induction dropBlockComments text with
  | case1 => exact List.Sublist.slnil
  | case2 rest after closed ih =>
      exact ih.trans ((suffix_of_afterBlockComment? closed).trans
        (List.suffix_append ['/', '*'] rest)).sublist
  | case3 rest _ => exact List.Sublist.refl _
  | case4 c rest _ ih => exact ih.cons_cons c

/-- A text without block comments stays, and every other text loses slashes. -/
theorem dropBlockComments_cases (text : List Char) :
    dropBlockComments text = text ∨ (dropBlockComments text).count '/' < text.count '/' := by
  fun_induction dropBlockComments text with
  | case1 => exact .inl rfl
  | case2 rest after closed ih =>
      right
      have fewer := ((dropBlockComments_sublist after).trans
        (suffix_of_afterBlockComment? closed).sublist).count_le '/'
      rw [List.count_cons_self, List.count_cons]
      omega
  | case3 rest _ => exact .inl rfl
  | case4 c rest _ ih =>
      rcases ih with same | fewer
      · exact .inl (congrArg _ same)
      · right
        rw [List.count_cons, List.count_cons]
        omega

/-- The signs that every comment takes away one of. -/
def commentSigns : List Char :=
  ['-', '/']

theorem stripComments_cases (text : List Char) :
    stripComments text = text ∨
      ∃ sign ∈ commentSigns, (stripComments text).count sign < text.count sign := by
  rcases dropLineComments_cases text with same | fewer
  · rw [stripComments, same]
    rcases dropBlockComments_cases text with same | fewer
    · exact .inl same
    · exact .inr ⟨'/', by simp [commentSigns], fewer⟩
  · have further := (dropBlockComments_sublist (dropLineComments false text)).count_le '-'
    exact .inr ⟨'-', by simp [commentSigns], Nat.lt_of_le_of_lt further fewer⟩

/-- What comments begin with. -/
def commentMarks : List String :=
  ["--", "/*"]

theorem dropLineComments_eq_self {text : List Char} (silent : contains "--".toList text = false) :
    dropLineComments false text = text := by
  induction text with
  | nil => rfl
  | cons c rest ih =>
      rw [contains, occurs_cons, Bool.or_eq_false_iff] at silent
      obtain ⟨here, later⟩ := silent
      have noComment : ¬(c == '-' && rest.head? == some '-') = true := by
        intro comment
        rw [Bool.and_eq_true, beq_iff_eq, beq_iff_eq] at comment
        obtain ⟨rfl, next⟩ := comment
        obtain ⟨further, rfl⟩ := List.head?_eq_some_iff.mp next
        rw [show '-' :: '-' :: further = "--".toList ++ further from rfl, literal?_append] at here
        contradiction
      rw [dropLineComments, Bool.false_or, if_neg noComment, ih later, ite_self]

theorem dropBlockComments_eq_self {text : List Char}
    (silent : contains "/*".toList text = false) : dropBlockComments text = text := by
  fun_induction dropBlockComments text with
  | case1 => rfl
  | case2 rest after closed ih =>
      rw [contains, occurs_cons, Bool.or_eq_false_iff] at silent
      obtain ⟨here, -⟩ := silent
      rw [show '/' :: '*' :: rest = "/*".toList ++ rest from rfl, literal?_append] at here
      contradiction
  | case3 rest _ => rfl
  | case4 c rest _ ih =>
      rw [contains, occurs_cons, Bool.or_eq_false_iff] at silent
      exact congrArg _ (ih silent.2)

theorem stripComments_eq_self {text : List Char}
    (silent : ∀ mark ∈ commentMarks, contains mark.toList text = false) :
    stripComments text = text := by
  rw [stripComments, dropLineComments_eq_self (silent "--" (by decide)),
    dropBlockComments_eq_self (silent "/*" (by decide))]

/-! ## Signs of comments in scripts -/

section Signs

variable {sign : Char} (member : sign ∈ commentSigns)

include member

theorem isWord_commentSign : isWord sign = false := by
  have each : ∀ sign ∈ commentSigns, isWord sign = false := by decide
  exact each sign member

theorem commentSign_notMem {text : List Char} (plain : ∀ c ∈ text, c ∉ commentSigns) :
    sign ∉ text :=
  fun inText => plain sign inText member

theorem commentSign_notMem_listText {texts : List String}
    (runs : ∀ text ∈ texts, IsRun text.toList) : sign ∉ (listText texts).toList := by
  have notWord := isWord_commentSign member
  have apart : sign ∉ ['('] ∧ sign ∉ [')'] ∧ sign ∉ ", ".toList :=
    ⟨commentSign_notMem member (by decide), commentSign_notMem member (by decide),
      commentSign_notMem member (by decide)⟩
  rw [toList_listText, List.mem_cons, List.mem_append]
  rintro (opening | inside | closing)
  · exact apart.1 (List.mem_singleton.mpr opening)
  · rcases mem_of_mem_joined inside with inSeparator | ⟨text, textMember, inText⟩
    · exact apart.2.2 inSeparator
    · exact (runs text textMember).notMem notWord inText
  · exact apart.2.1 closing

theorem commentSign_notMem_optionalListText {texts : List String}
    (runs : ∀ text ∈ texts, IsRun text.toList) : sign ∉ (optionalListText texts).toList := by
  rw [optionalListText]
  split
  · exact List.not_mem_nil
  · exact commentSign_notMem_listText member runs

theorem commentSign_notMem_type (type : TypeName) : sign ∉ type.text.toList := by
  rw [type.toList_text, List.mem_append, not_or]
  exact ⟨type.run_word.notMem (isWord_commentSign member),
    commentSign_notMem_optionalListText member type.runs_parameters⟩

theorem commentSign_notMem_references (table : PlainName) (columns : List PlainName) :
    sign ∉ (Clause.references table columns).text.toList := by
  rw [Clause.toList_references, List.mem_append, List.mem_cons, List.mem_append]
  rintro (word | rfl | name | list)
  · exact commentSign_notMem member (by decide) word
  · exact absurd member (by decide)
  · exact table.run.notMem (isWord_commentSign member) name
  · exact commentSign_notMem_optionalListText member (runs_names columns) list

theorem commentSign_notMem_constraintText (name? : Option PlainName) :
    sign ∉ (Declaration.constraintText name?).toList := by
  cases name? with
  | none => exact List.not_mem_nil
  | some name =>
      rw [Declaration.constraintText, String.toList_append, String.toList_append,
        List.mem_append, List.mem_append]
      rintro ((word | inName) | blank)
      · exact commentSign_notMem member (by decide) word
      · exact name.run.notMem (isWord_commentSign member) inName
      · exact commentSign_notMem member (by decide) blank

/-- Only columns hold the signs of comments. -/
theorem commentSign_notMem_declaration {declaration : Declaration}
    (noColumn : declaration.column? = none) : sign ∉ declaration.text.toList := by
  cases declaration with
  | column definition => contradiction
  | foreignKey name? columns table refColumns =>
      rw [Declaration.toList_foreignKey, List.mem_append, List.mem_append, List.mem_append,
        List.mem_cons]
      rintro (constraint | words | list | rfl | reference)
      · exact commentSign_notMem_constraintText member name? constraint
      · exact commentSign_notMem member (by decide) words
      · exact commentSign_notMem_listText member (runs_names columns) list
      · exact absurd member (by decide)
      · exact commentSign_notMem_references member table refColumns reference
  | primaryKey columns =>
      rw [Declaration.text, String.toList_append, List.mem_append, not_or]
      exact ⟨commentSign_notMem member (by decide),
        commentSign_notMem_listText member (runs_names columns)⟩
  | unique columns =>
      rw [Declaration.text, String.toList_append, List.mem_append, not_or]
      exact ⟨commentSign_notMem member (by decide),
        commentSign_notMem_listText member (runs_names columns)⟩

end Signs

theorem Declaration.eq_column {declaration : Declaration} {column : ColumnDefinition}
    (kind : declaration.column? = some column) : declaration = .column column := by
  cases declaration with
  | column definition => exact congrArg _ (Option.some.inj kind)
  | _ => contradiction

theorem count_joined {sign : Char} {separator : String} (absent : sign ∉ separator.toList)
    (texts : List String) :
    (joined separator texts).toList.count sign =
      (texts.flatMap String.toList).count sign := by
  cases texts with
  | nil => rfl
  | cons first later =>
      rw [toList_joined_cons, List.flatMap_cons, List.count_append, List.count_append]
      congr 1
      induction later with
      | nil => rfl
      | cons next more ih =>
          rw [List.flatMap_cons, List.flatMap_cons, List.count_append, List.count_append, ih,
            List.count_append, List.count_eq_zero.mpr absent, Nat.zero_add]

section Counts

variable {sign : Char} (member : sign ∈ commentSigns)

include member

/-- The signs in a column are those in its clauses. -/
theorem count_column (column : ColumnDefinition) :
    column.text.toList.count sign = column.declared.constraints.toList.count sign := by
  have name : sign ∉ column.name.name.toList :=
    column.name.run.notMem (isWord_commentSign member)
  have blank : sign ∉ [' '] := commentSign_notMem member (by decide)
  have clauses : (tailText column.clauses).count sign =
      column.declared.constraints.toList.count sign := by
    rcases tailText_cases column.clauses with same | spaced
    · rw [same]
      rfl
    · rw [spaced, ← List.singleton_append, List.count_append, List.count_eq_zero.mpr blank,
        Nat.zero_add]
      rfl
  have split : column.text.toList = column.name.name.toList ++ ([' '] ++
      (column.type.text.toList ++ tailText column.clauses)) := column.toList_text
  rw [split, List.count_append, List.count_append, List.count_append,
    List.count_eq_zero.mpr name, List.count_eq_zero.mpr blank,
    List.count_eq_zero.mpr (commentSign_notMem_type member column.type), clauses]
  omega

/-- The signs in a definition are those in the clauses of its column, if it
declares one. -/
theorem count_declaration (declaration : Declaration) :
    declaration.text.toList.count sign =
      (clausesText (declaration.column?.map ColumnDefinition.declared).toList).count sign := by
  cases kind : declaration.column? with
  | some column =>
      obtain rfl := Declaration.eq_column kind
      refine (count_column member column).trans ?_
      simp [clausesText]
  | none =>
      rw [List.count_eq_zero.mpr (commentSign_notMem_declaration member kind)]
      rfl

theorem count_statement (statement : TableStatement) :
    statement.text.toList.count sign = (clausesText statement.table.columns).count sign := by
  have fixed (text : List Char) (plain : ∀ c ∈ text, c ∉ commentSigns) : text.count sign = 0 :=
    List.count_eq_zero.mpr (commentSign_notMem member plain)
  have name : statement.name.name.toList.count sign = 0 :=
    List.count_eq_zero.mpr (statement.name.run.notMem (isWord_commentSign member))
  have columns : clausesText statement.table.columns =
      statement.declarations.flatMap fun declaration =>
        clausesText (declaration.column?.map ColumnDefinition.declared).toList := by
    rw [TableStatement.table, TableStatement.columns, List.map_filterMap,
      List.filterMap_eq_flatMap_toList, clausesText, List.flatMap_assoc]
    rfl
  have body : statement.body.count sign = (clausesText statement.table.columns).count sign := by
    rw [TableStatement.body, count_joined (commentSign_notMem member (by decide)), columns,
      List.flatMap_map, List.count_flatMap, List.count_flatMap]
    congr 1
    exact List.map_congr_left fun declaration _ => count_declaration member declaration
  rw [statement.toList_text, List.count_append, List.count_append, List.count_append,
    List.count_append, fixed "CREATE TABLE ".toList (by decide), name,
    fixed " (".toList (by decide), body, fixed ");".toList (by decide)]
  omega

/-- The signs in a script are those in the clauses of the declared columns. -/
theorem count_script (statements : List TableStatement) :
    (script statements).toList.count sign =
      ((statements.map TableStatement.table).flatMap fun table =>
        clausesText table.columns).count sign := by
  have absent : sign ∉ "\n".toList := commentSign_notMem member (by decide)
  rw [script, count_joined absent, List.flatMap_map, List.flatMap_map, List.count_flatMap,
    List.count_flatMap]
  congr 1
  exact List.map_congr_left fun statement _ => count_statement member statement

end Counts

/-! ## Scripts without comments -/

section Marks

variable {mark : String} (member : mark ∈ commentMarks)

include member

/-- The mark of a comment is a sign with a further character that is neither a
digit nor a quote. -/
theorem cons_of_commentMark : ∃ sign ∈ commentSigns, ∃ next, mark.toList = [sign, next] ∧
    isWord next = false ∧ '\x27' ∉ mark.toList := by
  simp only [commentMarks, List.mem_cons, List.not_mem_nil, or_false] at member
  rcases member with rfl | rfl
  · exact ⟨'-', by decide, '-', rfl, rfl, by decide⟩
  · exact ⟨'/', by decide, '*', rfl, rfl, by decide⟩

theorem passes_plain {text : List Char} (absent : ∀ sign ∈ commentSigns, sign ∉ text) :
    Passes (literal? mark.toList) text := by
  obtain ⟨sign, isSign, next, spelled, -⟩ := cons_of_commentMark member
  rw [spelled]
  exact Passes.of_notMem (fun _ _ other => literal?_cons_of_ne other) (absent sign isSign)

theorem passes_name (name : PlainName) : Passes (literal? mark.toList) name.name.toList :=
  passes_plain member fun _ isSign => name.run.notMem (isWord_commentSign isSign)

/-- A sign before a number begins no comment. -/
theorem passes_number (value : Int) : Passes (literal? mark.toList) (toString value).toList := by
  have digits (n : Nat) : Passes (literal? mark.toList) (toString n).toList :=
    passes_plain member fun _ isSign => (run_toString n).notMem (isWord_commentSign isSign)
  obtain ⟨n, unsigned | signed⟩ := toList_toString_int value
  · rw [unsigned]
    exact digits n
  · rw [signed]
    refine Passes.cons (fun rest => ?_) (digits n)
    obtain ⟨sign, -, next, spelled, notWord, -⟩ := cons_of_commentMark member
    obtain ⟨c, later, number, word⟩ := (run_toString n).exists_cons
    rw [spelled, number]
    simp [literal?, ne_of_class word notWord]

theorem passes_clause {clause : Clause}
    (silent : ∀ content ∈ clause.literal?, contains mark.toList content.toList = false) :
    Passes (literal? mark.toList) clause.text.toList := by
  cases clause with
  | notNull => exact passes_plain member (by decide)
  | primaryKey => exact passes_plain member (by decide)
  | unique => exact passes_plain member (by decide)
  | references table columns =>
      exact passes_plain member fun _ isSign => commentSign_notMem_references isSign table columns
  | default value =>
      have keyword : Passes (literal? mark.toList) "DEFAULT ".toList :=
        passes_plain member (by decide)
      have spelled : (Clause.default value).text.toList =
          "DEFAULT ".toList ++ value.text.toList := by
        rw [Clause.toList_default]
        rfl
      rw [spelled]
      apply keyword.append
      cases value with
      | integer number => exact passes_number member number
      | literal content unquoted =>
          obtain ⟨sign, -, next, letters, -, noQuote⟩ := cons_of_commentMark member
          have opening : Passes (literal? mark.toList) ['\x27'] :=
            passes_plain member (by decide)
          rw [DefaultValue.toList_literal, ← List.singleton_append]
          exact opening.append (passes_of_contains (by simp [letters]) noQuote
            (silent content rfl))

theorem passes_column {column : ColumnDefinition}
    (silent : column.shows (contains mark.toList) = false) :
    Passes (literal? mark.toList) column.text.toList := by
  have blank : Passes (literal? mark.toList) [' '] := passes_plain member (by decide)
  have type : Passes (literal? mark.toList) column.type.text.toList :=
    passes_plain member fun _ isSign => commentSign_notMem_type isSign column.type
  have clauses : Passes (literal? mark.toList) (tailText column.clauses) := by
    refine Passes.flatMap fun clause inClauses => blank.append ?_
    refine passes_clause member fun content isLiteral => ?_
    have shown := List.any_eq_false.mp silent content
      (List.mem_filterMap.mpr ⟨clause, inClauses, isLiteral⟩)
    simpa using shown
  rw [column.toList_text]
  exact (passes_name member column.name).append (blank.append (type.append clauses))

theorem passes_declaration {declaration : Declaration}
    (silent : ∀ column ∈ declaration.column?, column.shows (contains mark.toList) = false) :
    Passes (literal? mark.toList) declaration.text.toList := by
  cases kind : declaration.column? with
  | some column =>
      rw [Declaration.eq_column kind]
      exact passes_column member (silent column kind)
  | none => exact passes_plain member fun _ isSign => commentSign_notMem_declaration isSign kind

/-- No comment begins in a statement if none begins in its definitions. -/
theorem passes_tableText {name : PlainName} {definitions : List String}
    (each : ∀ text ∈ definitions, Passes (literal? mark.toList) text.toList) :
    Passes (literal? mark.toList) (tableText name definitions).toList := by
  have opening : Passes (literal? mark.toList) "CREATE TABLE ".toList :=
    passes_plain member (by decide)
  have parenthesis : Passes (literal? mark.toList) " (".toList := passes_plain member (by decide)
  have closing : Passes (literal? mark.toList) [')', ';'] := passes_plain member (by decide)
  have body : Passes (literal? mark.toList) (joined ", " definitions).toList :=
    Passes.joined (passes_plain member (by decide)) each
  rw [toList_tableText]
  exact opening.append ((passes_name member name).append (parenthesis.append
    (body.append closing)))

theorem passes_statement {statement : TableStatement}
    (silent : ∀ column ∈ statement.columns, column.shows (contains mark.toList) = false) :
    Passes (literal? mark.toList) statement.text.toList := by
  rw [statement.text_eq_tableText]
  apply passes_tableText member
  rw [List.forall_mem_map]
  intro declaration inBody
  refine passes_declaration member fun column declared => ?_
  exact silent column (List.mem_filterMap.mpr ⟨declaration, inBody, declared⟩)

end Marks

/-- A text stays whole if the searches for the marks of comments pass it. -/
theorem stripComments_of_passes {text : List Char}
    (passes : ∀ mark ∈ commentMarks, Passes (literal? mark.toList) text) :
    stripComments text = text := by
  apply stripComments_eq_self
  intro mark member
  have found := passes mark member []
  rw [List.append_nil] at found
  obtain ⟨sign, -, next, spelled, -⟩ := cons_of_commentMark member
  rw [contains, occurs, found, spelled]
  rfl

/-- A script stays whole if no literal shows the beginning of a comment. -/
theorem stripComments_script {statements : List TableStatement}
    (silent : ∀ statement ∈ statements, ∀ column ∈ statement.columns, ∀ mark ∈ commentMarks,
      column.shows (contains mark.toList) = false) :
    stripComments (script statements).toList = (script statements).toList := by
  apply stripComments_of_passes
  intro mark member
  have lineFeed : Passes (literal? mark.toList) "\n".toList := passes_plain member (by decide)
  apply Passes.joined lineFeed
  rw [List.forall_mem_map]
  exact fun statement inScript => passes_statement member fun column inColumns =>
    silent statement inScript column inColumns mark member

/-- A text without comments is read as the document of its tables and enums, if its tables
can be read. -/
theorem ofSql_eq_ok_iff {text : String} (whole : stripComments text.toList = text.toList)
    {document : Document} :
    Document.ofSql text = .ok document ↔
      ∃ declared, tables text.toList = .ok declared ∧ document =
        { format := SourceFormat.sql.name
          tables := declared
          enums := enumerations text.toList } := by
  rw [Document.ofSql, whole]
  cases tables text.toList <;> simp [eq_comm]

end Crowsfoot.Sql
