import Crowsfoot.Json.Literal
import Crowsfoot.Json.Value

/-!
# Reading JSON texts

A reader of JSON that says where and why a text is not JSON.  Beyond the
standard it accepts the words `NaN`, `Infinity` and `-Infinity`, and a
repeated member name, which keeps its first place and takes the last value.

A fault is reported at the first character that cannot continue the text, by
line and column; only line feeds end a line.  An integer of more than 4300
digits is refused on its own account.
-/

namespace Crowsfoot.Json

/-- Why a text is not JSON. -/
inductive Reason
  | byteOrderMark
  | value
  | memberName
  | colon
  | comma
  | extraData
  | literal (fault : LiteralFault)
  deriving DecidableEq

/-- The wording of a reason. -/
def Reason.message : Reason → String
  | .byteOrderMark => "Unexpected UTF-8 BOM (decode using utf-8-sig)"
  | .value => "Expecting value"
  | .memberName => "Expecting property name enclosed in double quotes"
  | .colon => "Expecting ':' delimiter"
  | .comma => "Expecting ',' delimiter"
  | .extraData => "Extra data"
  | .literal .unterminated => "Unterminated string starting at"
  | .literal .controlCharacter => "Invalid control character at"
  | .literal .escape => "Invalid \\escape"
  | .literal .unicodeEscape => "Invalid \\uXXXX escape"

/-- Why and where a text is not JSON.  `offset` counts the characters before
the fault; `line` and `column` count from one. -/
structure Fault where
  reason : Reason
  offset : Nat
  line : Nat
  column : Nat
  deriving DecidableEq

/-- The fault at a place given by the characters before it. -/
def Fault.after (reason : Reason) (before : List Char) : Fault where
  reason := reason
  offset := before.length
  line := before.count '\n' + 1
  column := (before.reverse.takeWhile (· != '\n')).length + 1

/-- Why a text cannot be read as a value. -/
inductive ReadError
  | fault (fault : Fault)
  | oversizedInteger (digits : Nat)
  deriving DecidableEq

/-- The most digits an integer may have. -/
def maxIntegerDigits : Nat := 4300

def isAsciiDigit (c : Char) : Bool := '0' ≤ c && c ≤ '9'

/-- The number of a decimal numeral. -/
def naturalOf (digits : List Char) : Nat :=
  digits.foldl (fun number c => 10 * number + (c.toNat - 0x30)) 0

/-- The double precision number `digits * 10 ^ exponent`.  Magnitudes far
outside the range of the format are decided by the decimal point alone. -/
def floatOf (negative : Bool) (digits : List Char) (exponent : Int) : Float :=
  let significant := digits.dropWhile (· == '0')
  let point : Int := significant.length + exponent
  let magnitude : Float :=
    if significant.isEmpty || point < -400 then 0.0
    else if 400 < point then 1.0 / 0.0
    else Float.ofScientific (naturalOf significant) (exponent < 0) exponent.natAbs
  if negative then -magnitude else magnitude

/-- The digits of a fraction and what follows them. -/
def readFraction : List Char → List Char × List Char
  | '.' :: c :: rest =>
      if isAsciiDigit c then
        (c :: rest.takeWhile isAsciiDigit, rest.dropWhile isAsciiDigit)
      else ([], '.' :: c :: rest)
  | text => ([], text)

/-- The value of an exponent and what follows it. -/
def readExponent (text : List Char) : Option Int × List Char :=
  match text with
  | mark :: after =>
      if mark == 'e' || mark == 'E' then
        let (negative, digitsOn) := match after with
          | '-' :: later => (true, later)
          | '+' :: later => (false, later)
          | later => (false, later)
        match digitsOn.takeWhile isAsciiDigit with
        | [] => (none, text)
        | digits =>
            let size : Int := naturalOf digits
            (some (if negative then -size else size), digitsOn.dropWhile isAsciiDigit)
      else (none, text)
  | [] => (none, [])

/-- The integer part of a numeral: a zero, or digits that begin with another
one. -/
def readWhole : List Char → Option (List Char × List Char)
  | [] => none
  | c :: rest =>
      if c == '0' then some (['0'], rest)
      else if isAsciiDigit c then
        some (c :: rest.takeWhile isAsciiDigit, rest.dropWhile isAsciiDigit)
      else none

/-- A number and what follows it, if the text begins with one. -/
def readNumber (text : List Char) : Option (Except Nat (Value × List Char)) :=
  let (negative, unsigned) := match text with
    | '-' :: rest => (true, rest)
    | rest => (false, rest)
  match readWhole unsigned with
  | none => none
  | some (whole, afterWhole) =>
      let (fraction, afterFraction) := readFraction afterWhole
      match readExponent afterFraction with
      | (none, rest) =>
          if fraction.isEmpty then
            if maxIntegerDigits < whole.length then some (.error whole.length)
            else
              let size : Int := naturalOf whole
              some (.ok (.int (if negative then -size else size), rest))
          else
            some (.ok (.float (floatOf negative (whole ++ fraction) (-fraction.length)), rest))
      | (some exponent, rest) =>
          let digits := whole ++ fraction
          some (.ok (.float (floatOf negative digits (exponent - fraction.length)), rest))

/-! ## Values -/

/-- What stops the reading of a value: a fault with the text from its place
on, or an integer of too many digits. -/
inductive Stop
  | fault (reason : Reason) (rest : List Char)
  | oversizedInteger (digits : Nat)

/-- The white space of the format. -/
def isSpace (c : Char) : Bool :=
  c == ' ' || c == '\t' || c == '\n' || c == '\r'

def skipSpace (text : List Char) : List Char :=
  text.dropWhile isSpace

/-- The words that stand for values. -/
def words : List (List Char × Value) :=
  [("null".toList, .null), ("true".toList, .bool true), ("false".toList, .bool false),
    ("NaN".toList, .float (0.0 / 0.0)), ("Infinity".toList, .float (1.0 / 0.0)),
    ("-Infinity".toList, .float (-1.0 / 0.0))]

/-- The value of a word at the beginning of a text. -/
def readWord (text : List Char) : Option (Value × List Char) :=
  words.findSome? fun (word, value) =>
    if word.isPrefixOf text then some (value, text.drop word.length) else none

/-- Read a string literal after its opening quote. -/
def readText (rest : List Char) : Except Stop (String × List Char) :=
  match readLiteral ('\x22' :: rest) none rest with
  | .ok (text, after) => .ok (String.ofList text, after)
  | .error (fault, place) => .error (.fault (.literal fault) place)

mutual

/-- Read a value, and answer what follows it.  Every call reads a character or
hands its text to a call that does, so twice the length of the text bounds the
depth of the calls. -/
def readValue : Nat → List Char → Except Stop (Value × List Char)
  | 0, text => .error (.fault .value text)
  | _ + 1, [] => .error (.fault .value [])
  | fuel + 1, c :: rest =>
      if c == '\x22' then do
        let (text, after) ← readText rest
        pure (.string text, after)
      else if c == '[' then
        match skipSpace rest with
        | ']' :: after => pure (.array [], after)
        | start => do
            let (items, after) ← readItems fuel start
            pure (.array items, after)
      else if c == '{' then
        match skipSpace rest with
        | '}' :: after => pure (.object [], after)
        | start => do
            let (members, after) ← readMembers fuel start
            pure (.object (Assoc.ofList members), after)
      else match readWord (c :: rest) with
        | some (value, after) => pure (value, after)
        | none =>
            match readNumber (c :: rest) with
            | some (.ok (value, after)) => pure (value, after)
            | some (.error digits) => .error (.oversizedInteger digits)
            | none => .error (.fault .value (c :: rest))

/-- Read the items of an array up to its closing bracket. -/
def readItems : Nat → List Char → Except Stop (List Value × List Char)
  | 0, text => .error (.fault .value text)
  | fuel + 1, text => do
      let (item, rest) ← readValue fuel text
      match skipSpace rest with
      | ']' :: after => pure ([item], after)
      | ',' :: next => do
          let (items, after) ← readItems fuel (skipSpace next)
          pure (item :: items, after)
      | place => .error (.fault .comma place)

/-- Read the members of an object up to its closing brace. -/
def readMembers : Nat → List Char → Except Stop (List (String × Value) × List Char)
  | 0, text => .error (.fault .value text)
  | fuel + 1, text =>
      match text with
      | '\x22' :: rest => do
          let (name, afterName) ← readText rest
          match skipSpace afterName with
          | ':' :: afterColon => do
              let (value, afterValue) ← readValue fuel (skipSpace afterColon)
              match skipSpace afterValue with
              | '}' :: after => pure ([(name, value)], after)
              | ',' :: next => do
                  let (members, after) ← readMembers fuel (skipSpace next)
                  pure ((name, value) :: members, after)
              | place => .error (.fault .comma place)
          | place => .error (.fault .colon place)
      | place => .error (.fault .memberName place)

end

/-- Read a text that holds one value and nothing else. -/
def readWhole? (text : List Char) : Except Stop Value := do
  if text.head? == some '\uFEFF' then
    throw (.fault .byteOrderMark text)
  let (value, rest) ← readValue (2 * text.length + 2) (skipSpace text)
  match skipSpace rest with
  | [] => pure value
  | place => throw (.fault .extraData place)

/-- The value of a JSON text. -/
def read (text : String) : Except ReadError Value :=
  let chars := text.toList
  match readWhole? chars with
  | .ok value => .ok value
  | .error (.oversizedInteger digits) => .error (.oversizedInteger digits)
  | .error (.fault reason rest) =>
      .error (.fault (.after reason (chars.take (chars.length - rest.length))))

end Crowsfoot.Json
