import Crowsfoot.Text.Pattern.Escape
import Crowsfoot.Text.Pattern.Flags

/-!
# Reading patterns

The usual notation: alternatives, groups, character sets, escapes, anchors,
and the quantifiers `*`, `+`, `?` and counts in braces, which a question mark
makes reluctant and a plus sign possessive.  After a parenthesis and a question
mark come names, comments, flags, looks ahead and behind, atomic groups and
conditions.
-/

namespace Crowsfoot.Text.Pattern

/-- What kind of an item a quantifier finds before it. -/
inductive ItemKind
  | anchor
  | repetition
  | other
  deriving DecidableEq

/-- A part of a sequence. -/
structure Item where
  pattern : Pattern
  kind : ItemKind

namespace Reader

/-- An item of no special kind. -/
def item (reader : Reader Pattern) : Reader Item := do
  pure ⟨← reader, .other⟩

/-- The set that a point stands for: any character but a line feed, or any at
all. -/
def anyCharacter : Reader Pattern := do
  let excluded := if (← get).flags.contains .dotAll then [] else [CharClass.between '\n' '\n']
  pure (.one ⟨true, .exact, excluded⟩)

/-- An anchor by its plain sign, which has another meaning in a text of many
lines. -/
def anchor (ofText ofLine : Anchor) : Reader Item := do
  let manyLines := (← get).flags.contains .manyLines
  pure ⟨.anchor (if manyLines then ofLine else ofText), .anchor⟩

/-- An item behind a backslash. -/
def escapedItem (c : Char) : Reader Item := do
  match ← escape c with
  | .anchor found => pure ⟨.anchor found, .anchor⟩
  | pattern => pure ⟨pattern, .other⟩

/-- The item of a character that is no part of a group or quantifier. -/
def simpleItem (c : Char) : Reader Item :=
  if c == '[' then item bracketed
  else if c == '.' then item anyCharacter
  else if c == '^' then anchor .textStart .lineStart
  else if c == '$' then anchor .textStop .lineStop
  else item (single c.toNat)

/-- White space that a verbose pattern passes over. -/
def isGap (c : Char) : Bool :=
  c == ' ' || ('\t' ≤ c && c ≤ '\r')

/-- The greatest number of repetitions that can be asked for. -/
def repetitionLimit : Nat := 4294967295

/-- How often an item is repeated. -/
structure Counts where
  least : Nat
  most : Option Nat

/-- Counts in braces, after the opening one; `none` where the brace is an
ordinary character. -/
def counts : Reader (Option Counts) := do
  let saved ← get
  let least ← takeWhile Char.isDigit saved.rest.length
  let most ← if ← accept ',' then takeWhile Char.isDigit saved.rest.length else pure least
  if (← get).offset == saved.offset || !(← accept '\x7d') then
    set saved
    pure none
  else
    let leastCount := valueOf 10 least
    let mostCount := if most.isEmpty then none else some (valueOf 10 most)
    if repetitionLimit ≤ leastCount || repetitionLimit ≤ mostCount.getD 0 then
      faultOfAll .repeatedTooOften
    else if mostCount.any (· < leastCount) then faultAt saved.offset .leastOverMost
    else pure (some ⟨leastCount, mostCount⟩)

/-- The counts of a quantifier, after its first character. -/
def countsOf (sign : Char) : Reader (Option Counts) :=
  if sign == '?' then pure (some ⟨0, some 1⟩)
  else if sign == '*' then pure (some ⟨0, none⟩)
  else if sign == '+' then pure (some ⟨1, none⟩)
  else counts

/-- The mark of a reluctant or possessive quantifier. -/
def manner : Reader Manner := do
  if ← accept '?' then pure .reluctant
  else if ← accept '+' then pure .possessive
  else pure .greedy

/-- Repeat the latest of the items, which come last first; `start` is where
the quantifier stands. -/
def repeated (start : Nat) (counts : Counts) : List Item → Reader (List Item)
  | [] => faultAt start .nothingToRepeat
  | item :: items =>
      match item.kind with
      | .anchor => faultAt start .nothingToRepeat
      | .repetition => faultAt start .repeatedTwice
      | .other => do
          let manner ← manner
          let pattern := .repeated counts.least counts.most manner item.pattern
          pure (⟨pattern, .repetition⟩ :: items)

/-- Whether a text is a name: word characters of which the first is no
digit. -/
def isName (text : String) : Bool :=
  match text.toList with
  | [] => false
  | c :: rest => isWord c && !isDigit c && rest.all isWord

/-- The name of a group up to its closing mark. -/
def groupName (mark : Char) : Reader String := do
  let name ← nameUpTo mark "group name"
  if isName name then pure name else fault (.groupName name) (name.length + 1)

/-- The number of a group by its name, which stands right before its closing
mark. -/
def groupNamed (name : String) : Reader Nat := do
  match ← numberOf? name with
  | some number => pure number
  | none => fault (.unknownGroupName name) (name.length + 1)

/-- The text of a group by its name, once more. -/
def namedAgain : Reader Pattern := do
  let name ← groupName ')'
  let number ← groupNamed name
  groupAgain number (name.length + 1)

/-- A decimal number; it may have a sign, blanks around it, and underscores
between its digits.  There is no negative one. -/
def number? (text : List Char) : Option Nat :=
  let (negative, unsigned) := match strip text with
    | '-' :: rest => (true, rest)
    | '+' :: rest => (false, rest)
    | rest => (false, rest)
  let digits := unsigned.filter (· != '_')
  if (pieces (· == '_') unsigned).any List.isEmpty || !digits.all Char.isDigit then none
  else if negative && valueOf 10 digits != 0 then none
  else some (valueOf 10 digits)

/-- The group that a condition asks for, by its name or number.  A number may
be that of a later group. -/
def conditionGroup : Reader Nat := do
  let name ← nameUpTo ')' "group name"
  if isName name then groupNamed name
  else
    let back := name.length + 1
    match number? name.toList with
    | none => fault (.groupName name) back
    | some 0 => fault .groupZero back
    | some number =>
        modify fun state => { state with asked := state.asked ++ [(number, state.offset - back)] }
        pure number

/-! ## Groups -/

/-- What opens a group. -/
inductive Opening
  /-- Nothing but a group that may have a name. -/
  | group (name : Option String)
  /-- A group that is not remembered. -/
  | plain
  | atomic
  | flags (on off : Flags)
  | look (behind negated : Bool)
  | condition
  /-- The text of a group, which the parenthesis closes at once. -/
  | again (pattern : Pattern)
  | comment
  | global (on : Flags)

/-- The opening of a group after the letter `P`. -/
def namedOpening : Reader Opening := do
  if ← accept '<' then pure (.group (← groupName '>'))
  else if ← accept '=' then pure (.again (← namedAgain))
  else
    match ← take with
    | none => fault .unexpectedEnd 0
    | some token =>
        fault (.extension (String.ofList ('P' :: token.text))) (token.text.length + 2)

/-- The opening of a look behind a place, after its angle bracket. -/
def lookBehindOpening : Reader Opening := do
  match ← take with
  | none => fault .unexpectedEnd 0
  | some token =>
      if token == .plain '=' then pure (.look true false)
      else if token == .plain '!' then pure (.look true true)
      else
        fault (.extension (String.ofList ('<' :: token.text))) (token.text.length + 2)

/-- The opening of a group that changes flags. -/
def flagOpening (first : Option Flag) : Reader Opening := do
  match ← flagChange first with
  | .ofPattern on => pure (.global on)
  | .ofGroup on off => pure (.flags on off)

/-- The opening of a group after its question mark. -/
def specialOpening : Reader Opening := do
  match ← take with
  | none => fault .unexpectedEnd 0
  | some token =>
      match token, flagOf? token with
      | _, some flag => flagOpening (some flag)
      | .plain 'P', none => namedOpening
      | .plain ':', none => pure .plain
      | .plain '#', none => pure .comment
      | .plain '=', none => pure (.look false false)
      | .plain '!', none => pure (.look false true)
      | .plain '<', none => lookBehindOpening
      | .plain '(', none => pure .condition
      | .plain '>', none => pure .atomic
      | .plain '-', none => flagOpening none
      | _, none => fault (.extension (String.ofList token.text)) (token.text.length + 1)

/-- The opening of a group after its parenthesis. -/
def opening : Reader Opening := do
  if ← accept '?' then specialOpening else pure (.group none)

/-- The end of a group that begins at `start`. -/
def closing (start : Nat) : Reader Unit := do
  if ← accept ')' then pure () else faultAt start (.missing .groupEnd)

/-- Read a pattern under other flags. -/
def underFlags (on off : Flags) (reader : Reader Pattern) : Reader Pattern := do
  let flags := (← get).flags
  modify fun state => { state with flags := flags.change on off }
  let pattern ← reader
  modify fun state => { state with flags := flags }
  pure pattern

/-- Read the pattern of a look behind a place, and find its width. -/
def behind (negated : Bool) (reader : Reader Pattern) : Reader Pattern := do
  let outer := (← get).lookBehind
  modify fun state =>
    { state with lookBehind := outer.or (some (state.groups.length + 1)) }
  let pattern ← reader
  let width := pattern.width (widthIn (← get).groups)
  modify fun state =>
    { state with lookBehind := outer, unfixed := state.unfixed || width.fixed?.isNone }
  pure (.look (width.fixed?.getD 0) negated pattern)

/-- Change the flags of the whole pattern, which is possible only at its
beginning. -/
def changeAll (start : Nat) (atStart : Bool) (on : Flags) : Reader Unit := do
  if atStart then modify fun state => { state with flags := on ++ state.flags }
  else faultAt start .lateFlags

mutual

/-- Alternatives up to the end of the text or of their group.  `atStart` holds
for the first alternative of the whole pattern. -/
def alternatives (atStart : Bool) : Nat → Reader Pattern
  | 0 => fault .unexpectedEnd 0
  | fuel + 1 => do
      let first ← sequence atStart [] fuel
      if ← accept '|' then pure (.either first (← alternatives false fuel)) else pure first

/-- A sequence up to a bar or the end of its group.  The items that are read
come last first. -/
def sequence (atStart : Bool) (items : List Item) : Nat → Reader Pattern
  | 0 => fault .unexpectedEnd 0
  | fuel + 1 => do
      let found ← peek
      if found.isNone || found == some (.plain '|') || found == some (.plain ')') then
        pure (Pattern.sequence (items.reverse.map Item.pattern))
      else
        discard take
        let verbose := (← get).flags.contains .verbose
        match found with
        | some (.plain c) =>
            if verbose && isGap c then sequence atStart items fuel
            else if verbose && c == '#' then
              skipLine (← get).rest.length
              sequence atStart items fuel
            else if c == '(' then
              match ← group (atStart && items.isEmpty) fuel with
              | some item => sequence atStart (item :: items) fuel
              | none => sequence atStart items fuel
            else if ['?', '*', '+', '\x7b'].contains c then
              let start := (← get).offset - 1
              match ← countsOf c with
              | some counts => sequence atStart (← repeated start counts items) fuel
              | none => sequence atStart ((← item (single c.toNat)) :: items) fuel
            else sequence atStart ((← simpleItem c) :: items) fuel
        | some (.escaped c) => sequence atStart ((← escapedItem c) :: items) fuel
        | none => fault .unexpectedEnd 0

/-- A group after its parenthesis; `none` for one that only comments or sets
flags. -/
def group (atStart : Bool) : Nat → Reader (Option Item)
  | 0 => fault .unexpectedEnd 0
  | fuel + 1 => do
      let start := (← get).offset - 1
      match ← opening with
      | .comment =>
          skipComment start ((← get).rest.length + 1)
          pure none
      | .global on =>
          changeAll start atStart on
          pure none
      | .again pattern => pure (some ⟨pattern, .other⟩)
      | .group name =>
          let number ← openGroup name
          let pattern ← alternatives false fuel
          closing start
          closeGroup number pattern
          pure (some ⟨.group number pattern, .other⟩)
      | .plain =>
          let pattern ← alternatives false fuel
          closing start
          pure (some ⟨pattern, .other⟩)
      | .atomic =>
          let pattern ← alternatives false fuel
          closing start
          pure (some ⟨.atomic pattern, .other⟩)
      | .flags on off =>
          let pattern ← underFlags on off (alternatives false fuel)
          closing start
          pure (some ⟨pattern, .other⟩)
      | .look isBehind negated =>
          let pattern ←
            if isBehind then behind negated (alternatives false fuel)
            else pure (.look 0 negated (← alternatives false fuel))
          closing start
          pure (some ⟨pattern, .other⟩)
      | .condition =>
          let number ← conditionGroup
          checkLookBehind number
          let matched ← sequence false [] fuel
          let unmatched ← if ← accept '|' then sequence false [] fuel else pure .empty
          if (← peek) == some (.plain '|') then fault .thirdBranch 0
          closing start
          pure (some ⟨.ifGroup number matched unmatched, .other⟩)

end

/-- Read a whole pattern, and check what only the whole of it shows. -/
def whole (fuel : Nat) : Reader Pattern := do
  checkEscape
  let pattern ← alternatives true fuel
  let state ← get
  if state.flags.contains .ascii && state.flags.contains .unicode then faultOfAll .alphabets
  if !state.rest.isEmpty then fault .closingParenthesis 0
  match state.asked.find? fun (number, _) => state.groups.length < number with
  | some (number, offset) => faultAt offset (.unknownGroup number)
  | none =>
      match pattern.firstManner?.filter fun _ => state.flags.contains .template with
      | some manner => faultOfAll (.repetition manner)
      | none => if state.unfixed then faultOfAll .lookBehindWidth else pure pattern

end Reader

/-- Read a pattern, or find out why a text is none. -/
def read (source : String) : Except Fault Pattern :=
  let text := source.toList
  (Reader.whole (5 * text.length + 5)).run' (State.ofText text)

/-- Read a pattern. -/
def read? (source : String) : Option Pattern :=
  (read source).toOption

end Crowsfoot.Text.Pattern
