import Crowsfoot.Conversion

/-!
# Lone surrogates of sources

DSL text is taken as it is.  The string literals of a JSON text are read, and so
are the defaults of SQL and JSON columns that are written as such literals: these
are the places where a source can bring in a lone surrogate.

A source may escape a lone surrogate and hold one of the characters that stand for
them as well.  The two are not told apart, and the texts that are made of such a
source are not taken for encodable.
-/

namespace Crowsfoot

/-- Whether the default of a column is a literal that escapes a lone surrogate. -/
def Column.escapesLone (column : Column) : Bool :=
  column.defaultText.any fun expression =>
    (Json.unquote? (Dsl.bareExpression expression)).isSome &&
      Json.escapesLone false (Dsl.bareExpression expression)

/-- Whether a literal of a source text escapes a lone surrogate. -/
def SourceFormat.escapesLone (format : SourceFormat) (text : String) : Bool :=
  match format with
  | .dsl => false
  | imported =>
      (imported == .json && Json.escapesLone false text.toList) ||
        match Document.ofSource imported text with
        | .ok document => document.tables.any fun table => table.columns.any Column.escapesLone
        | .error _ => false

/-- What keeps a text that was made of a source from being encoded: a stand-in
counts as a lone surrogate only if the source escapes one. -/
def Conversion.encodeFault? (conversion : Conversion) (source text : String) :
    Option Text.EncodeFault :=
  if conversion.format.escapesLone source then Text.encodeFaultFrom? 0 text.toList else none

end Crowsfoot
