import Crowsfoot.Text.Alphanumeric
import Crowsfoot.Text.Blank
import Crowsfoot.Text.Case.Folding
import Crowsfoot.Text.Digit

/-!
# Patterns

Regular expressions as data.  A pattern is made of sets of characters and of
anchors, which look at a place and match no text.  Groups remember what they
matched, so that it can be asked for again; groups of some kinds look around,
or give up the other ways in which they could match.
-/

namespace Crowsfoot.Text

/-- The named classes of characters. -/
inductive Category
  | word
  | digit
  | blank
  deriving DecidableEq

/-- Whether a character belongs to a named class, among all characters or
among those of ASCII. -/
def Category.contains (category : Category) (ascii : Bool) (c : Char) : Bool :=
  let found := match category with
    | .word => isWord c
    | .digit => isDecimal c
    | .blank => c == ' ' || ('\t' ≤ c && c ≤ '\r') || (!ascii && isBlank c)
  found && (!ascii || c.toNat < 128)

/-- One member of a character set.  The ends of a range are code points; they
need not be characters. -/
inductive CharClass
  | range (first last : Nat)
  | category (kind : Category) (ascii negated : Bool)
  deriving DecidableEq

/-- The characters from one to another. -/
def CharClass.between (first last : Char) : CharClass :=
  .range first.toNat last.toNat

/-- How letters are compared: as they are, or without regard to case among
the letters of ASCII or among all. -/
inductive Folding
  | exact
  | ascii
  | full
  deriving DecidableEq

namespace Folding

/-- The characters that count as the same as a given one. -/
def variants (folding : Folding) (c : Char) : List Char :=
  match folding with
  | exact => [c]
  | ascii => [c.toLower, c.toUpper]
  | full => letterVariants c

/-- Whether a character repeats another.  Here small letters must be equal,
and a common upper case is not enough. -/
def repeats (folding : Folding) (first second : Char) : Bool :=
  match folding with
  | exact => first == second
  | ascii => first.toLower == second.toLower
  | full => smallLetter first == smallLetter second

end Folding

/-- Whether a member of a set contains a character, which counts as the same
as its variants. -/
def CharClass.contains (variants : List Char) (c : Char) : CharClass → Bool
  | .range first last => variants.any fun c => first ≤ c.toNat && c.toNat ≤ last
  | .category kind ascii negated => negated != kind.contains ascii c

/-- A set of characters, or the complement of one. -/
structure CharSet where
  negated : Bool
  folding : Folding
  classes : List CharClass
  deriving DecidableEq

namespace CharSet

def contains (set : CharSet) (c : Char) : Bool :=
  set.negated != set.classes.any (·.contains (set.folding.variants c) c)

/-- The characters of some classes, compared as they are. -/
def ofClasses (classes : List CharClass) : CharSet :=
  ⟨false, .exact, classes⟩

end CharSet

/-! ## Patterns -/

/-- What an anchor asks of a place.  A final line feed may follow `textStop`,
and nothing may follow `textEnd`. -/
inductive Anchor
  | textStart
  | lineStart
  | textStop
  | lineStop
  | textEnd
  | boundary (ascii : Bool)
  | notBoundary (ascii : Bool)
  deriving DecidableEq

/-- Which number of repetitions is tried first.  A possessive repetition
takes as many as it can, and keeps them. -/
inductive Manner
  | greedy
  | reluctant
  | possessive
  deriving DecidableEq

/-- A regular expression. -/
inductive Pattern
  | empty
  | anchor (anchor : Anchor)
  /-- One character of a set. -/
  | one (set : CharSet)
  /-- The text that a group matched, once more. -/
  | again (group : Nat) (folding : Folding)
  | seq (first second : Pattern)
  | either (first second : Pattern)
  /-- A number of repetitions; there may be no upper limit. -/
  | repeated (least : Nat) (most : Option Nat) (manner : Manner) (pattern : Pattern)
  /-- A group that is remembered by its number. -/
  | group (number : Nat) (pattern : Pattern)
  /-- A group of which only the first way to match counts. -/
  | atomic (pattern : Pattern)
  /-- A look at the text that begins `back` characters before a place: the
  pattern has to match there, or not to match. -/
  | look (back : Nat) (negated : Bool) (pattern : Pattern)
  /-- One of two patterns, as a group has matched or not. -/
  | ifGroup (group : Nat) (matched unmatched : Pattern)
  deriving DecidableEq

namespace Pattern

/-- Patterns one after the other. -/
def sequence (patterns : List Pattern) : Pattern :=
  patterns.foldr .seq .empty

/-- Any number of characters of a set. -/
def many (set : CharSet) : Pattern :=
  .repeated 0 none .greedy (.one set)

/-- The manner of the first repetition in a pattern. -/
def firstManner? : Pattern → Option Manner
  | .repeated _ _ manner _ => some manner
  | .seq first second | .either first second | .ifGroup _ first second =>
      first.firstManner?.or second.firstManner?
  | .group _ pattern | .atomic pattern | .look _ _ pattern => pattern.firstManner?
  | .empty | .anchor _ | .one _ | .again _ _ => none

end Pattern

/-- The least and the greatest number of characters that a pattern can match;
there may be no greatest. -/
structure Width where
  least : Nat
  most : Option Nat
  deriving DecidableEq

namespace Width

/-- No characters. -/
def zero : Width := ⟨0, some 0⟩

/-- One width after another. -/
def add (first second : Width) : Width where
  least := first.least + second.least
  most := do pure ((← first.most) + (← second.most))

/-- Either of two widths. -/
def either (first second : Width) : Width where
  least := min first.least second.least
  most := do pure (max (← first.most) (← second.most))

/-- A width several times over. -/
def times (width : Width) (least : Nat) (most : Option Nat) : Width where
  least := width.least * least
  most :=
    if width.most == some 0 || most == some 0 then some 0
    else do pure ((← width.most) * (← most))

/-- The number of characters, if it is always the same. -/
def fixed? (width : Width) : Option Nat :=
  if width.most == some width.least then width.most else none

end Width

/-- The width of a pattern, by those of the groups that it asks for again. -/
def Pattern.width (groups : Nat → Width) : Pattern → Width
  | .empty | .anchor _ | .look _ _ _ => .zero
  | .one _ => ⟨1, some 1⟩
  | .again number _ => groups number
  | .seq first second => (first.width groups).add (second.width groups)
  | .either first second => (first.width groups).either (second.width groups)
  | .repeated least most _ pattern => (pattern.width groups).times least most
  | .group _ pattern => pattern.width groups
  | .atomic pattern => pattern.width groups
  | .ifGroup _ matched unmatched => (matched.width groups).either (unmatched.width groups)

end Crowsfoot.Text
