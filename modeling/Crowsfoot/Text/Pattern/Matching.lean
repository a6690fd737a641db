import Crowsfoot.Text.Pattern

/-!
# Matching patterns

A match is sought by trying the ways in which a pattern can match one after
the other: alternatives from left to right, repetitions as their manner says.
A way counts only if what follows the pattern matches after it.  So matching
takes what follows as a function, and answers the place where everything ends.

Repetitions end by themselves: once a repetition has matched no text, no other
is tried after it.
-/

namespace Crowsfoot.Text

/-- A place in a text, with what groups have matched on the way there.
`before` has the text before the place from its last character on, and `offset`
counts its characters; `starts` and `stops` list the ends of groups as offsets,
the latest ones first. -/
structure Place where
  before : List Char
  rest : List Char
  offset : Nat
  starts : List (Nat × Nat)
  stops : List (Nat × Nat)

namespace Place

/-- The start of a text. -/
def ofText (text : List Char) : Place :=
  ⟨[], text, 0, [], []⟩

/-- The whole text. -/
def text (place : Place) : List Char :=
  place.before.reverse ++ place.rest

/-- The place behind a character. -/
def after (place : Place) (c : Char) (rest : List Char) : Place :=
  { place with before := c :: place.before, rest := rest, offset := place.offset + 1 }

/-- Go on by one character, if it passes a test. -/
def step? (place : Place) (passes : Char → Bool) : Option Place :=
  match place.rest with
  | [] => none
  | c :: rest => if passes c then some (place.after c rest) else none

/-- Go on over a text, where it is repeated. -/
def pass? (place : Place) (folding : Folding) (text : List Char) : Option Place :=
  text.foldlM (fun place c => place.step? (folding.repeats c)) place

/-- Go back by a number of characters. -/
def back? (place : Place) : Nat → Option Place
  | 0 => some place
  | count + 1 =>
      match place.before with
      | [] => none
      | c :: before =>
          back?
            { place with
              before := before, rest := c :: place.rest, offset := place.offset - 1 }
            count

/-- The place with the start of a group. -/
def openGroup (place : Place) (number : Nat) : Place :=
  { place with starts := (number, place.offset) :: place.starts }

/-- The place with the end of a group. -/
def closeGroup (place : Place) (number : Nat) : Place :=
  { place with stops := (number, place.offset) :: place.stops }

/-- What a group has matched, if it has. -/
def group? (place : Place) (number : Nat) : Option (List Char) := do
  let start ← place.starts.lookup number
  let stop ← place.stops.lookup number
  if start ≤ stop then pure ((place.text.drop start).take (stop - start)) else none

/-- The place with the groups of another. -/
def withGroups (place other : Place) : Place :=
  { place with starts := other.starts, stops := other.stops }

/-- Whether a place is next to a word on one side only. -/
def isBoundary (place : Place) (ascii : Bool) : Bool :=
  let isWordAt (text : List Char) : Bool := match text with
    | [] => false
    | c :: _ => Category.word.contains ascii c
  isWordAt place.before != isWordAt place.rest

end Place

/-- Whether a place is what an anchor asks for.  An empty text has no place
between other characters. -/
def Anchor.holds (anchor : Anchor) (place : Place) : Bool :=
  match anchor with
  | .textStart => place.before.isEmpty
  | .lineStart => place.before.isEmpty || place.before.head? == some '\n'
  | .textStop => place.rest.isEmpty || place.rest == ['\n']
  | .lineStop => place.rest.isEmpty || place.rest.head? == some '\n'
  | .textEnd => place.rest.isEmpty
  | .boundary ascii => place.isBoundary ascii
  | .notBoundary ascii =>
      !(place.before.isEmpty && place.rest.isEmpty) && !place.isBoundary ascii

/-! ## Repetition -/

/-- A way to match: it is given a place and what follows. -/
abbrev Matcher := Place → (Place → Option Place) → Option Place

namespace Matcher

/-- An exact number of repetitions. -/
def times (matcher : Matcher) : Nat → Matcher
  | 0, place, next => next place
  | count + 1, place, next => matcher place fun later => times matcher count later next

/-- Up to a number of repetitions, many first.  `last` is the offset where
the repetition before began. -/
def greedily (matcher : Matcher) (last : Option Nat) : Nat → Matcher
  | 0, place, next => next place
  | bound + 1, place, next =>
      if last == some place.offset then next place
      else
        (matcher place fun later =>
          greedily matcher (some place.offset) bound later next).orElse fun _ => next place

/-- Up to a number of repetitions, few first. -/
def reluctantly (matcher : Matcher) (last : Option Nat) : Nat → Matcher
  | 0, place, next => next place
  | bound + 1, place, next =>
      (next place).orElse fun _ =>
        if last == some place.offset then none
        else
          matcher place fun later =>
            reluctantly matcher (some place.offset) bound later next

/-- As many repetitions as there are, up to a number, each matched in its
first way. -/
def possessively (matcher : Matcher) (last : Option Nat) : Nat → Place → Place
  | 0, place => place
  | bound + 1, place =>
      if last == some place.offset then place
      else match matcher place some with
        | none => place
        | some later => possessively matcher (some place.offset) bound later

/-- The first way to match. -/
def first (matcher : Matcher) : Matcher := fun place next =>
  (matcher place some).bind next

/-- Repetitions in some manner.  Each but the last has to make progress, so
beyond the least number the length of the text bounds them. -/
def repeated (matcher : Matcher) (least : Nat) (most : Option Nat) (manner : Manner) :
    Matcher := fun place next =>
  let bound (place : Place) : Nat := match most with
    | some most => min (most - least) (place.rest.length + 1)
    | none => place.rest.length + 1
  match manner with
  | .greedy =>
      matcher.times least place fun later => matcher.greedily none (bound later) later next
  | .reluctant =>
      matcher.times least place fun later => matcher.reluctantly none (bound later) later next
  | .possessive =>
      matcher.first.times least place fun later =>
        next (matcher.possessively none (bound later) later)

end Matcher

namespace Pattern

/-- Match a pattern at a place, and then what follows. -/
def matchAt : Pattern → Matcher
  | .empty, place, next => next place
  | .anchor wanted, place, next => if wanted.holds place then next place else none
  | .one set, place, next => (place.step? set.contains).bind next
  | .again number folding, place, next =>
      ((place.group? number).bind (place.pass? folding)).bind next
  | .seq first second, place, next =>
      first.matchAt place fun later => second.matchAt later next
  | .either first second, place, next =>
      (first.matchAt place next).orElse fun _ => second.matchAt place next
  | .repeated least most manner pattern, place, next =>
      Matcher.repeated pattern.matchAt least most manner place next
  | .group number pattern, place, next =>
      pattern.matchAt (place.openGroup number) fun later => next (later.closeGroup number)
  | .atomic pattern, place, next => (pattern.matchAt place some).bind next
  | .look back negated pattern, place, next =>
      match (place.back? back).bind fun earlier => pattern.matchAt earlier some with
      | none => if negated then next place else none
      | some found => if negated then none else next (place.withGroups found)
  | .ifGroup number matched unmatched, place, next =>
      if (place.group? number).isSome then matched.matchAt place next
      else unmatched.matchAt place next

/-- Whether a pattern matches at a place. -/
def matchesAt (pattern : Pattern) (place : Place) : Bool :=
  (pattern.matchAt place some).isSome

/-- Whether a pattern matches at a place or later in its text. -/
def matchesFrom (pattern : Pattern) (place : Place) : List Char → Bool
  | [] => pattern.matchesAt place
  | c :: rest => pattern.matchesAt place || pattern.matchesFrom (place.after c rest) rest

/-- Whether a pattern matches somewhere in a text. -/
def occursIn (pattern : Pattern) (text : String) : Bool :=
  pattern.matchesFrom (.ofText text.toList) text.toList

end Pattern

end Crowsfoot.Text
