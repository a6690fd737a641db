import Crowsfoot.Json.Printer
import Crowsfoot.Yaml.Implicit

/-!
# Reading settings files

The part of YAML that settings are mostly written in: comments, blocks of members
`name: value` and of items `- value`, and values on one line, which may be
quoted or unquoted scalars, lists in brackets and mappings in braces.  The rest of
YAML is not read (marks of documents, block scalars, anchors, tags, keys of other
types), so nothing about settings rests on this reader: a command takes any.
-/

namespace Crowsfoot.Yaml

open Crowsfoot.Json (Value)

/-- White space between the parts of a line. -/
def isGap (c : Char) : Bool :=
  c == ' ' || c == '\t'

/-- Remove white space at the beginning. -/
def skipGap (text : List Char) : List Char :=
  text.dropWhile isGap

/-- Remove white space at both ends. -/
def trimGaps (text : List Char) : List Char :=
  Text.trim isGap text

/-- A line that says something: its indentation and its text. -/
structure Line where
  indent : Nat
  text : List Char

/-- Where a character stands with regard to quotation marks.  `escaped` holds
behind a backslash between double ones, and `closed` right behind a single one
that ends its text, or begins a pair that stands for one. -/
inductive Quoting
  | outside
  | single
  | double
  | escaped
  | closed
  deriving DecidableEq

namespace Quoting

/-- Whether quoted text can begin after a character, white space aside.
Elsewhere a quotation mark is a part of unquoted text. -/
def mayBegin (last : Char) : Bool :=
  [':', ',', '-', '[', '\x7b'].contains last

/-- What a character makes of the quoting; `last` is the one before it, white
space aside. -/
def next (last c : Char) : Quoting → Quoting
  | .outside =>
      if !mayBegin last then .outside
      else if c == '\x27' then .single
      else if c == '\x22' then .double
      else .outside
  | .single => if c == '\x27' then .closed else .single
  | .double => if c == '\\' then .escaped else if c == '\x22' then .outside else .double
  | .escaped => .double
  | .closed => if c == '\x27' then .single else .outside

end Quoting

/-- A line without its comment: a number sign outside quotation marks begins
one where white space stands before it.  `before` is the character before the
line, and `last` that before it with white space aside. -/
def withoutComment (quoting : Quoting) (before last : Char) : List Char → List Char
  | [] => []
  | c :: rest =>
      let isOutside := quoting == .outside || quoting == .closed
      if isOutside && c == '#' && isGap before then []
      else
        c :: withoutComment (quoting.next last c) c (if isGap c then last else c) rest

/-- The lines of a text that say something. -/
def linesOf (text : List Char) : List Line :=
  ((Text.pieces (· == '\n') text).map fun line =>
    let kept := withoutComment .outside ' ' ',' line
    ⟨(kept.takeWhile isGap).length, trimGaps kept⟩).filter fun line => !line.text.isEmpty

/-- A string between single quotes, after the opening one. -/
def singleQuoted? : List Char → Option (List Char × List Char)
  | [] => none
  | '\x27' :: '\x27' :: rest =>
      (singleQuoted? rest).map fun (text, after) => ('\x27' :: text, after)
  | c :: rest =>
      if c == '\x27' then some ([], rest)
      else (singleQuoted? rest).map fun (text, after) => (c :: text, after)

/-- A quoted string. -/
def quoted? : List Char → Option (String × List Char)
  | '\x27' :: rest => (singleQuoted? rest).map fun (text, after) => (String.ofList text, after)
  | '\x22' :: rest =>
      match Json.readLiteral ('\x22' :: rest) none rest with
      | .ok (text, after) => some (String.ofList text, after)
      | .error _ => none
  | _ => none

/-- Whether a character ends unquoted text inside brackets. -/
def isFlowMark (c : Char) : Bool :=
  [',', '[', ']', '\x7b', '\x7d'].contains c

/-- The unquoted text at the beginning of a text inside brackets. -/
def plainFlow : List Char → List Char × List Char
  | [] => ([], [])
  | c :: rest =>
      let colonEnds := match rest with
        | [] => true
        | next :: _ => isGap next || isFlowMark next
      if isFlowMark c || (c == ':' && colonEnds) then ([], c :: rest)
      else
        let (text, after) := plainFlow rest
        (c :: text, after)

mutual

/-- A value inside brackets. -/
def flowValue : Nat → List Char → Option (Value × List Char)
  | 0, _ => none
  | fuel + 1, text =>
      match skipGap text with
      | '[' :: rest => (flowItems fuel rest).map fun (items, after) => (.array items, after)
      | '\x7b' :: rest =>
          (flowMembers fuel rest).map fun (members, after) =>
            (.object (Assoc.ofList members), after)
      | start =>
          match quoted? start with
          | some (found, after) => some (.string found, after)
          | none =>
              let (found, after) := plainFlow start
              some (plainValue (String.ofList (trimGaps found)), after)

/-- The items of a list up to its bracket. -/
def flowItems : Nat → List Char → Option (List Value × List Char)
  | 0, _ => none
  | fuel + 1, text =>
      match skipGap text with
      | ']' :: rest => some ([], rest)
      | start => do
          let (item, afterItem) ← flowValue fuel start
          match skipGap afterItem with
          | ',' :: rest => do
              let (items, after) ← flowItems fuel rest
              pure (item :: items, after)
          | ']' :: rest => pure ([item], rest)
          | _ => none

/-- The members of a mapping up to its brace. -/
def flowMembers : Nat → List Char → Option (List (String × Value) × List Char)
  | 0, _ => none
  | fuel + 1, text =>
      match skipGap text with
      | '\x7d' :: rest => some ([], rest)
      | start => do
          let (name, afterName) ← flowValue fuel start
          let (value, afterValue) ← match skipGap afterName with
            | ':' :: rest => flowValue fuel rest
            | other => pure (.null, other)
          match skipGap afterValue with
          | ',' :: rest => do
              let (members, after) ← flowMembers fuel rest
              pure ((name.text, value) :: members, after)
          | '\x7d' :: rest => pure ([(name.text, value)], rest)
          | _ => none

end

/-- Whether a text begins with an opening bracket or brace. -/
def opensBracket : List Char → Bool
  | [] => false
  | c :: _ => c == '[' || c == '\x7b'

/-- Whether a text begins with a quotation mark. -/
def opensQuote : List Char → Bool
  | [] => false
  | c :: _ => c == '\x22' || c == '\x27'

/-- The value that a line consists of. -/
def inlineValue (text : List Char) : Option Value :=
  if opensBracket text || opensQuote text then
    match flowValue (2 * text.length + 2) text with
    | some (value, rest) => if (skipGap rest).isEmpty then some value else none
    | none => none
  else some (plainValue (String.ofList text))

/-! ## Blocks -/

/-- Whether a text is over or goes on with white space. -/
def gapFollows : List Char → Bool
  | [] => true
  | c :: _ => isGap c

/-- The name of a member and what follows its colon. -/
def memberName? (text : List Char) : Option (String × List Char) :=
  match quoted? text with
  | some (name, rest) =>
      match skipGap rest with
      | ':' :: after => if gapFollows after then some (name, trimGaps after) else none
      | _ => none
  | none => plainName [] text
where
  /-- The name before the first colon that a blank or the end follows. -/
  plainName (read : List Char) : List Char → Option (String × List Char)
    | [] => none
    | c :: rest =>
        if c == ':' && gapFollows rest then
          some (String.ofList (trimGaps read.reverse), trimGaps rest)
        else plainName (c :: read) rest

/-- What follows the dash of an item. -/
def afterDash? : List Char → Option (List Char)
  | '-' :: rest => if gapFollows rest then some (trimGaps rest) else none
  | _ => none

/-- Whether a line belongs to the entry that an earlier line at column
`indent` begins.  Items may stand directly below the name of their list. -/
def belongs (indent : Nat) (underName : Bool) (line : Line) : Bool :=
  indent < line.indent || (underName && line.indent == indent && (afterDash? line.text).isSome)

mutual

/-- The value of a block of lines. -/
def blockValue : Nat → List Line → Option Value
  | 0, _ => none
  | _ + 1, [] => some .null
  | fuel + 1, line :: lines =>
      if (afterDash? line.text).isSome then
        (blockItems fuel line.indent (line :: lines)).map .array
      else if !opensBracket line.text && (memberName? line.text).isSome then
        (blockMembers fuel line.indent (line :: lines)).map fun members =>
          .object (Assoc.ofList members)
      else inlineValue ((line :: lines).map Line.text |>.intersperse [' '] |>.flatten)

/-- The items of a block. -/
def blockItems : Nat → Nat → List Line → Option (List Value)
  | 0, _, _ => none
  | _ + 1, _, [] => some []
  | fuel + 1, indent, line :: lines => do
      let inside := lines.takeWhile (belongs indent false)
      let text ← if line.indent == indent then afterDash? line.text else none
      let item ←
        if text.isEmpty then blockValue fuel inside
        else inlineValue ((text :: inside.map Line.text).intersperse [' '] |>.flatten)
      let items ← blockItems fuel indent (lines.dropWhile (belongs indent false))
      pure (item :: items)

/-- The members of a block. -/
def blockMembers : Nat → Nat → List Line → Option (List (String × Value))
  | 0, _, _ => none
  | _ + 1, _, [] => some []
  | fuel + 1, indent, line :: lines => do
      let (name, text) ← if line.indent == indent then memberName? line.text else none
      let inside := lines.takeWhile (belongs indent text.isEmpty)
      let value ←
        if text.isEmpty then blockValue fuel inside
        else inlineValue ((text :: inside.map Line.text).intersperse [' '] |>.flatten)
      let members ← blockMembers fuel indent (lines.dropWhile (belongs indent text.isEmpty))
      pure ((name, value) :: members)

end

mutual

/-- The numbers of digits of the integers in a value, in order. -/
def integerSizes : Value → List Nat
  | .int number => [(toString number.natAbs).length]
  | .array items => sizesInItems items
  | .object members => sizesInMembers members
  | _ => []

def sizesInItems : List Value → List Nat
  | [] => []
  | item :: items => integerSizes item ++ sizesInItems items

def sizesInMembers : List (String × Value) → List Nat
  | [] => []
  | (_, value) :: members => integerSizes value ++ sizesInMembers members

end

/-- Why a text is not read as settings: it has another form, or holds an
integer of too many digits. -/
inductive ReadError
  | form
  | oversizedInteger (digits : Nat)
  deriving DecidableEq

/-- A text without the mark that may begin it. -/
def withoutByteOrderMark : List Char → List Char
  | [] => []
  | c :: rest => if c == '\uFEFF' then rest else c :: rest

/-- The value of a settings file. -/
def read (text : String) : Except ReadError Value :=
  let lines := linesOf (withoutByteOrderMark text.toList)
  match blockValue (2 * lines.length + 2) lines with
  | none => .error .form
  | some value =>
      match (integerSizes value).find? (Json.maxIntegerDigits < ·) with
      | some digits => .error (.oversizedInteger digits)
      | none => .ok value

end Crowsfoot.Yaml
