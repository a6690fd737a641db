import Crowsfoot.Yaml.Implicit

/-!
# Writing scalars

A string is written without quotes where it can be read back as a string,
between single quotes where quotes are needed, and between double quotes where
it holds characters that have to be escaped.  Lines are broken at spaces once
they are longer than eighty characters.
-/

namespace Crowsfoot.Yaml

/-- Characters that no scalar but a double-quoted one may hold: controls, line
boundaries and the few code points that are not for interchange. -/
def isSpecial (c : Char) : Bool :=
  let code := c.toNat
  !((0x20 ≤ code && code ≤ 0x7E) ||
    ((0xA0 ≤ code && code ≤ 0xFFFD) || (0x10000 ≤ code && code < 0x10FFFF)) &&
      c != '\uFEFF' && c != '\u2028' && c != '\u2029')

/-- Characters that make an unquoted scalar something else at its
beginning. -/
def leadingIndicators : List Char :=
  ['#', ',', '[', ']', '\x7b', '\x7d', '&', '*', '!', '|', '>', '\x27', '\x22', '%', '@', '\x60']

/-- Whether a text ends or goes on with a space. -/
def spaceFollows : List Char → Bool
  | [] => true
  | c :: _ => c == ' '

/-- Whether the first character of a text keeps it from being unquoted. -/
def startsLikeIndicator : List Char → Bool
  | [] => false
  | c :: rest =>
      leadingIndicators.contains c ||
        ((c == '?' || c == ':' || c == '-') && spaceFollows rest)

/-- Whether an unquoted text would be cut short: by a colon before a space, or
by a hash sign after one. -/
def breaksOff (before : Char) : List Char → Bool
  | [] => false
  | c :: rest =>
      (c == ':' && spaceFollows rest) || (c == '#' && before == ' ') || breaksOff c rest

/-- Whether a text begins like a document mark. -/
def startsLikeMark (text : List Char) : Bool :=
  "---".toList.isPrefixOf text || "...".toList.isPrefixOf text

/-- Whether a text begins or ends with a space. -/
def hasOuterSpace (text : List Char) : Bool :=
  text.head? == some ' ' || text.getLast? == some ' '

/-- Whether a text can stand without quotes. -/
def canBePlain (text : List Char) : Bool :=
  isPlainString (String.ofList text) &&
    !(startsLikeIndicator text || breaksOff 'x' text || startsLikeMark text ||
      hasOuterSpace text)

/-- The length from which on a line is broken. -/
def bestWidth : Nat := 80

/-- A line end and the indentation of the next line. -/
def lineBreak (indent : Nat) : List Char :=
  '\n' :: List.replicate indent ' '

/-- Write a text that may be broken at single spaces between words.  `column`
is the place on the line, `started` whether something stands before the text,
and `double` whether single quotes are doubled. -/
def foldedFrom (indent : Nat) (double : Bool) (column : Nat) (started : Bool)
    (afterSpace : Bool) : List Char → List Char
  | [] => []
  | c :: rest =>
      if c == ' ' then
        let alone := !afterSpace && rest.head? != some ' '
        if alone && started && !rest.isEmpty && bestWidth < column then
          lineBreak indent ++ foldedFrom indent double indent true true rest
        else ' ' :: foldedFrom indent double (column + 1) true true rest
      else if c == '\x27' && double then
        '\x27' :: '\x27' :: foldedFrom indent double (column + 2) true false rest
      else c :: foldedFrom indent double (column + 1) true false rest

/-- The letter of a short escape. -/
def shortEscape? (c : Char) : Option Char :=
  [('\x00', '0'), ('\x07', 'a'), ('\x08', 'b'), ('\t', 't'), ('\n', 'n'), ('\x0B', 'v'),
    ('\x0C', 'f'), ('\r', 'r'), ('\x1B', 'e'), ('\x22', '\x22'), ('\\', '\\'),
    ('\u0085', 'N'), ('\u2028', 'L'), ('\u2029', 'P')].lookup c

/-- Whether a character is escaped between double quotes. -/
def needsEscape (c : Char) : Bool :=
  c == '\x22' || c == '\\' || isSpecial c || 0xFFFF < c.toNat

/-- The escape of a character. -/
def escapeOf (c : Char) : List Char :=
  let code := c.toNat
  let numeral (width : Nat) : List Char := (Json.hexadecimal width code).map Char.toUpper
  match shortEscape? c with
  | some letter => ['\\', letter]
  | none =>
      if code < 0x100 then '\\' :: 'x' :: numeral 2
      else if code < 0x10000 then '\\' :: 'u' :: numeral 4
      else '\\' :: 'U' :: numeral 8

/-- Write a text between double quotes.  `pending` holds, in reverse, the
characters that are not written yet, and `column` is the place before them.  A
line is broken before a space, or beside an escape; after an escape it may be
one character longer. -/
def doubleQuotedFrom (indent column : Nat) (first : Bool) (pending : List Char) :
    List Char → List Char
  | [] => pending.reverse
  | c :: rest =>
      let inside := !first && !rest.isEmpty
      if needsEscape c then
        let written := pending.reverse ++ escapeOf c
        let reached := column + written.length
        if inside && bestWidth + 1 < reached then
          let guard := if rest.head? == some ' ' then ['\\'] else []
          written ++ '\\' :: lineBreak indent ++ guard ++
            doubleQuotedFrom indent (indent + guard.length) false [] rest
        else written ++ doubleQuotedFrom indent reached false [] rest
      else if inside && (c == ' ' || pending.isEmpty) && bestWidth < column + pending.length then
        let guard := if c == ' ' then ['\\'] else []
        pending.reverse ++ '\\' :: lineBreak indent ++ guard ++
          doubleQuotedFrom indent (indent + guard.length) false [c] rest
      else doubleQuotedFrom indent column false (c :: pending) rest

/-- Write a string at a place on a line; further lines are indented. -/
def scalarText (indent column : Nat) (text : String) : String :=
  let chars := text.toList
  String.ofList <|
    if chars.any isSpecial then
      '\x22' :: (doubleQuotedFrom indent (column + 1) true [] chars ++ ['\x22'])
    else if canBePlain chars then foldedFrom indent false column false false chars
    else '\x27' :: (foldedFrom indent true (column + 1) false false chars ++ ['\x27'])

end Crowsfoot.Yaml
