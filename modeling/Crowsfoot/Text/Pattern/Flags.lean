import Crowsfoot.Text.Pattern.Source

/-!
# Reading flags

Letters after a question mark change the flags: for the whole pattern, where a
parenthesis closes them, and for one group, where a colon does.  A dash stands
before the flags that a group turns off.
-/

namespace Crowsfoot.Text.Pattern

/-- What a group of flags is for: the whole pattern, or the text of the group
itself. -/
inductive FlagChange
  | ofPattern (on : Flags)
  | ofGroup (on off : Flags)

namespace Reader

/-- The flag of a token. -/
def flagOf? : Token → Option Flag
  | .plain c => Flag.ofLetter? c
  | .escaped _ => none

/-- A token that is not the flag or mark that had to come. -/
def notFlag {α : Type} (missing : Missing) (token : Token) : Reader α :=
  let isLetter := match token with
    | .plain c => isAlphanumeric c && !isDigit c
    | .escaped _ => false
  fault (if isLetter then .unknownFlag else .missing missing) token.text.length

/-- Flags that are turned on, from one on, and the mark after them. -/
def flagsOn (read : Flags) (flag : Flag) : Nat → Reader (Flags × Char)
  | 0 => fault .unexpectedEnd 0
  | fuel + 1 => do
      let read := flag :: read
      if flag == .locale then fault (.flags .locale) 0
      else if flag.isAlphabet && read.any (fun other => other.isAlphabet && other != flag) then
        fault (.flags .alphabets) 0
      else
        match ← take with
        | none => fault (.missing .flagsEnd) 0
        | some token =>
            match token, flagOf? token with
            | _, some flag => flagsOn read flag fuel
            | .plain c, none =>
                if [')', '-', ':'].contains c then pure (read, c)
                else notFlag .flagsEnd token
            | _, none => notFlag .flagsEnd token

/-- Flags that are turned off, from one on. -/
def flagsOff (read : Flags) (flag : Flag) : Nat → Reader Flags
  | 0 => fault .unexpectedEnd 0
  | fuel + 1 => do
      if flag.isAlphabet then fault (.flags .alphabetOff) 0
      else
        let read := flag :: read
        match ← take with
        | none => fault (.missing .colon) 0
        | some token =>
            if token == .plain ':' then pure read
            else match flagOf? token with
              | some flag => flagsOff read flag fuel
              | none => notFlag .colon token

/-- The flags after a dash; at least one has to come. -/
def flagsAfterDash : Reader Flags := do
  match ← take with
  | none => fault (.missing .flag) 0
  | some token =>
      match flagOf? token with
      | some flag => flagsOff [] flag ((← get).rest.length + 1)
      | none => notFlag .flag token

/-- The flags of a group, from the first of them or from the dash on. -/
def flagChange (first : Option Flag) : Reader FlagChange := do
  let (on, mark) ← match first with
    | some flag => flagsOn [] flag ((← get).rest.length + 1)
    | none => pure ([], '-')
  if mark == ')' then pure (.ofPattern on)
  else if on.contains .template then fault (.flags .globalOn) 1
  else
    let off ← if mark == '-' then flagsAfterDash else pure []
    if off.contains .template then fault (.flags .globalOff) 1
    else if on.any (off.contains ·) then fault (.flags .onAndOff) 1
    else pure (.ofGroup on off)

end Reader

end Crowsfoot.Text.Pattern
