import Crowsfoot.Text.Pattern.Fault

/-!
# What a pattern is read from

A pattern is read token by token; a token is a character, or a character
behind a backslash.  Beside the text that is left, a reader knows the flags in
force and the groups so far.
-/

namespace Crowsfoot.Text.Pattern

/-- A character of a pattern, on its own or behind a backslash. -/
inductive Token
  | plain (c : Char)
  | escaped (c : Char)
  deriving DecidableEq

/-- The characters of a token. -/
def Token.text : Token → List Char
  | .plain c => [c]
  | .escaped c => ['\\', c]

/-- The switches that change how a pattern is read or matched.  A template has
no repetitions. -/
inductive Flag
  | ignoreCase
  | manyLines
  | dotAll
  | verbose
  | ascii
  | unicode
  | locale
  | template
  deriving DecidableEq

namespace Flag

/-- The flag of a letter. -/
def ofLetter? (c : Char) : Option Flag :=
  [('i', ignoreCase), ('m', manyLines), ('s', dotAll), ('x', verbose), ('a', ascii),
    ('u', unicode), ('L', locale), ('t', template)].lookup c

/-- Whether a flag chooses among alphabets. -/
def isAlphabet (flag : Flag) : Bool :=
  [ascii, unicode, locale].contains flag

end Flag

/-- The flags in force. -/
abbrev Flags := List Flag

namespace Flags

/-- Flags changed for a group.  A choice of alphabet replaces an earlier
one. -/
def change (flags on off : Flags) : Flags :=
  let kept := if on.any Flag.isAlphabet then flags.filter (!·.isAlphabet) else flags
  (on ++ kept).filter (!off.contains ·)

/-- How letters are compared. -/
def folding (flags : Flags) : Folding :=
  if !flags.contains .ignoreCase then .exact
  else if flags.contains .ascii then .ascii
  else .full

end Flags

/-- A group by its name, if it has one, and its width, once it is closed. -/
structure GroupEntry where
  name : Option String
  width : Option Width

/-- What a reader knows.  `groups` has the groups from number one on.
`lookBehind` has, inside a look behind a place, the first number of a group
opened there.  `asked` lists the groups that conditions ask for, and where;
`unfixed` holds once a look behind has no fixed width. -/
structure State where
  rest : List Char
  offset : Nat
  flags : Flags
  groups : List GroupEntry
  lookBehind : Option Nat
  asked : List (Nat × Nat)
  unfixed : Bool

/-- Nothing has been read of a text. -/
def State.ofText (text : List Char) : State :=
  ⟨text, 0, [], [], none, [], false⟩

/-- A reader of a part of a pattern. -/
abbrev Reader := StateT State (Except Fault)

namespace Reader

/-- A fault at an offset. -/
def faultAt {α : Type} (offset : Nat) (reason : Reason) : Reader α :=
  throw ⟨reason, some offset⟩

/-- A fault at the text that is left, or some characters before it. -/
def fault {α : Type} (reason : Reason) (back : Nat) : Reader α := do
  faultAt ((← get).offset - back) reason

/-- A fault of the whole pattern. -/
def faultOfAll {α : Type} (reason : Reason) : Reader α :=
  throw ⟨reason, none⟩

/-! ## Reading tokens -/

/-- The next token. -/
def peek : Reader (Option Token) := do
  match (← get).rest with
  | [] => pure none
  | '\\' :: c :: _ => pure (some (.escaped c))
  | c :: _ => pure (some (.plain c))

/-- A backslash with nothing behind it is no token. -/
def checkEscape : Reader Unit := do
  if (← get).rest == ['\\'] then fault .escapeAtEnd 0 else pure ()

/-- Read the next token. -/
def take : Reader (Option Token) := do
  let token ← peek
  match token with
  | none => pure none
  | some found =>
      modify fun state =>
        { state with
          rest := state.rest.drop found.text.length
          offset := state.offset + found.text.length }
      checkEscape
      pure token

/-- Read a character if it comes next. -/
def accept (c : Char) : Reader Bool := do
  if (← peek) == some (.plain c) then
    discard take
    pure true
  else pure false

/-- Read up to a number of characters that pass a test. -/
def takeWhile (passes : Char → Bool) : Nat → Reader (List Char)
  | 0 => pure []
  | count + 1 => do
      match ← peek with
      | some (.plain c) =>
          if passes c then
            discard take
            pure (c :: (← takeWhile passes count))
          else pure []
      | _ => pure []

/-- Read a name up to a closing mark.  `kind` says what it names. -/
def takeName (mark : Char) (kind : String) (read : List Char) : Nat → Reader String
  | 0 => fault .unexpectedEnd 0
  | fuel + 1 => do
      match ← take with
      | none =>
          if read.isEmpty then fault (.missing (.name kind)) 0
          else fault (.missing (.nameEnd mark)) read.length
      | some token =>
          if token == .plain mark then
            if read.isEmpty then fault (.missing (.name kind)) 1
            else pure (String.ofList read)
          else takeName mark kind (read ++ token.text) fuel

/-- Read a name up to a closing mark. -/
def nameUpTo (mark : Char) (kind : String) : Reader String := do
  takeName mark kind [] ((← get).rest.length + 1)

/-- Skip a comment, after its opening. -/
def skipComment (start : Nat) : Nat → Reader Unit
  | 0 => fault .unexpectedEnd 0
  | fuel + 1 => do
      match ← take with
      | none => faultAt start (.missing .commentEnd)
      | some token => if token == .plain ')' then pure () else skipComment start fuel

/-- Skip a comment up to the end of its line. -/
def skipLine : Nat → Reader Unit
  | 0 => pure ()
  | fuel + 1 => do
      match ← take with
      | none => pure ()
      | some token => if token == .plain '\n' then pure () else skipLine fuel

/-- The entry of a group. -/
def group? (number : Nat) : Reader (Option GroupEntry) := do
  if number == 0 then pure none else pure ((← get).groups[number - 1]?)

/-- The number of a group of some name. -/
def numberOf? (name : String) : Reader (Option Nat) := do
  pure (((← get).groups.findIdx? (·.name == some name)).map (· + 1))

/-- Open a group.  A name belongs to one group only; it stands right before
its closing mark. -/
def openGroup (name : Option String) : Reader Nat := do
  let number := (← get).groups.length + 1
  match name with
  | none => pure ()
  | some given =>
      match ← numberOf? given with
      | none => pure ()
      | some earlier =>
          fault (.repeatedGroupName given number earlier) (given.length + 1)
  modify fun state => { state with groups := state.groups ++ [⟨name, none⟩] }
  pure number

/-- The widths of groups, by their entries. -/
def widthIn (groups : List GroupEntry) (number : Nat) : Width :=
  (groups[number - 1]?.bind (·.width)).getD .zero

/-- Close a group. -/
def closeGroup (number : Nat) (pattern : Pattern) : Reader Unit := do
  modify fun state =>
    let width := pattern.width (widthIn state.groups)
    { state with
      groups := state.groups.modify (number - 1) fun entry => { entry with width := width } }

/-- Whether a group is closed. -/
def isClosed (number : Nat) : Reader Bool := do
  pure ((← group? number).bind (·.width)).isSome

/-- A look behind a place cannot ask for a group that it opens. -/
def checkLookBehind (number : Nat) : Reader Unit := do
  match (← get).lookBehind with
  | none => pure ()
  | some first =>
      if !(← isClosed number) then fault .openGroup 0
      else if first ≤ number then fault .lookBehindGroup 0
      else pure ()

end Reader

end Crowsfoot.Text.Pattern
