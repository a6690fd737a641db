import Crowsfoot.Sql.Reader

/-!
# Scripts of table statements

Scripts as data: statements with columns, foreign keys and other constraints.
Every script has a text, and it declares tables.
-/

namespace Crowsfoot.Sql

open Crowsfoot.Text

/-- Whether a text is a nonempty word of ASCII letters, digits and underscores
that does not begin with a digit. -/
def isPlainName : List Char → Bool
  | [] => false
  | c :: rest => (c.isAlpha || c == '_') && rest.all isTypeChar

/-- A name that needs no quotes. -/
structure PlainName where
  name : String
  plain : isPlainName name.toList = true
  deriving DecidableEq

/-- A list in parentheses. -/
def listText (texts : List String) : String :=
  "(" ++ joined ", " texts ++ ")"

/-- A list in parentheses, which is left out if it is empty. -/
def optionalListText (texts : List String) : String :=
  if texts.isEmpty then "" else listText texts

/-- A word of the table of types, in any case, with its parameters. -/
structure TypeName where
  word : String
  parameters : List Nat := []
  known : String.ofList (word.toList.map Char.toLower) ∈ SourceFormat.sql.typeWords.map Prod.fst

namespace TypeName

def text (type : TypeName) : String :=
  type.word ++ optionalListText (type.parameters.map toString)

/-- The type without blanks. -/
def token (type : TypeName) : String :=
  if type.parameters.isEmpty then type.word
  else type.word ++ "(" ++ joined "," (type.parameters.map toString) ++ ")"

end TypeName

/-- The value of a default clause: an integer, or a string without single
quotes inside. -/
inductive DefaultValue
  | integer (value : Int)
  | literal (content : String) (unquoted : '\x27' ∉ content.toList)
  deriving DecidableEq

def DefaultValue.text : DefaultValue → String
  | integer value => toString value
  | literal content _ => "\x27" ++ content ++ "\x27"

/-- A clause after the type of a column.  A reference without columns means
the column `id`. -/
inductive Clause
  | notNull
  | primaryKey
  | unique
  | default (value : DefaultValue)
  | references (table : PlainName) (columns : List PlainName)
  deriving DecidableEq

/-- The foreign key from some columns to those of a table. -/
def keyTo (columns : List String) (table : PlainName) (refColumns : List PlainName) :
    ForeignKey where
  columns := columns
  refTable := table.name
  refColumns := if refColumns.isEmpty then ["id"] else refColumns.map PlainName.name

namespace Clause

/-- The keyword that a clause begins with. -/
def keyword : Clause → String
  | notNull => "NOT"
  | primaryKey => "PRIMARY"
  | unique => "UNIQUE"
  | default _ => "DEFAULT"
  | references _ _ => "REFERENCES"

/-- What stands after the keyword. -/
def operand : Clause → String
  | notNull => " NULL"
  | primaryKey => " KEY"
  | unique => ""
  | default value => " " ++ value.text
  | references table columns =>
      " " ++ table.name ++ optionalListText (columns.map PlainName.name)

def text (clause : Clause) : String :=
  clause.keyword ++ clause.operand

def defaultText? : Clause → Option String
  | default value => some value.text
  | _ => none

/-- The content of the literal of a default clause. -/
def literal? : Clause → Option String
  | default (.literal content _) => some content
  | _ => none

/-- The names that a clause refers to. -/
def names : Clause → List PlainName
  | references table columns => table :: columns
  | _ => []

/-- The foreign key from a column along a reference. -/
def key? (name : String) : Clause → Option ForeignKey
  | references table columns => some (keyTo [name] table columns)
  | _ => none

end Clause

/-- The contents of the literals among some clauses. -/
def literals (clauses : List Clause) : List String :=
  clauses.filterMap Clause.literal?

/-- The names that some clauses refer to. -/
def referencedNames (clauses : List Clause) : List PlainName :=
  clauses.flatMap Clause.names

/-! ## Columns -/

/-- A column: its clauses may stand in any order, and of several default clauses
or references the first counts. -/
structure ColumnDefinition where
  name : PlainName
  type : TypeName
  clauses : List Clause

namespace ColumnDefinition

def text (column : ColumnDefinition) : String :=
  joined " " (column.name.name :: column.type.text :: column.clauses.map Clause.text)

/-- The column that is declared. -/
def declared (column : ColumnDefinition) : Column where
  name := column.name.name
  typeToken := column.type.token
  constraints := joined " " (column.clauses.map Clause.text)
  nullable := !decide (.primaryKey ∈ column.clauses) && !decide (.notNull ∈ column.clauses)
  primaryKey := decide (.primaryKey ∈ column.clauses)
  unique := decide (.unique ∈ column.clauses)
  defaultText := column.clauses.findSome? Clause.defaultText?

/-- The foreign key that is declared with the column. -/
def key? (column : ColumnDefinition) : Option ForeignKey :=
  column.clauses.findSome? (Clause.key? column.name.name)

end ColumnDefinition

/-- A definition in the body of a table statement. -/
inductive Declaration
  | column (definition : ColumnDefinition)
  | foreignKey (name? : Option PlainName) (columns : List PlainName) (table : PlainName)
      (refColumns : List PlainName)
  | primaryKey (columns : List PlainName)
  | unique (columns : List PlainName)

namespace Declaration

/-- The name of a constraint, if it has one. -/
def constraintText : Option PlainName → String
  | none => ""
  | some name => "CONSTRAINT " ++ name.name ++ " "

def text : Declaration → String
  | column definition => definition.text
  | foreignKey name? columns table refColumns =>
      constraintText name? ++ "FOREIGN KEY " ++ listText (columns.map PlainName.name) ++
        " " ++ (Clause.references table refColumns).text
  | primaryKey columns => "PRIMARY KEY " ++ listText (columns.map PlainName.name)
  | unique columns => "UNIQUE " ++ listText (columns.map PlainName.name)

def column? : Declaration → Option ColumnDefinition
  | column definition => some definition
  | _ => none

def key? : Declaration → Option ForeignKey
  | column definition => definition.key?
  | foreignKey _ columns table refColumns =>
      some (keyTo (columns.map PlainName.name) table refColumns)
  | _ => none

end Declaration

/-- A statement that declares a table. -/
structure TableStatement where
  name : PlainName
  declarations : List Declaration

namespace TableStatement

def text (statement : TableStatement) : String :=
  "CREATE TABLE " ++ statement.name.name ++ " " ++
    listText (statement.declarations.map Declaration.text) ++ ";"

/-- The columns of a statement in order. -/
def columns (statement : TableStatement) : List ColumnDefinition :=
  statement.declarations.filterMap Declaration.column?

/-- The table that is declared. -/
def table (statement : TableStatement) : Table where
  name := statement.name.name
  columns := statement.columns.map ColumnDefinition.declared
  foreignKeys := statement.declarations.filterMap Declaration.key?

end TableStatement

/-- The text of a script: one statement after the other. -/
def script (statements : List TableStatement) : String :=
  joined "\n" (statements.map TableStatement.text)

end Crowsfoot.Sql
