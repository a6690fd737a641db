import Crowsfoot.Text.Pattern.Matching

/-!
# Patterns of whole texts

A pattern that is held to both ends of a text and asks for one character of a
set and then for any number of characters of another matches exactly the texts
of this form.  A line feed at the end would be passed over, so the law is
stated for texts without line feeds.
-/

namespace Crowsfoot.Text

/-- One character of a set, then characters of another up to the end. -/
def Pattern.whole (first later : CharSet) : Pattern :=
  .sequence [.anchor .textStart, .one first, .many later, .anchor .textStop]

/-- The end of a text, and nothing after it. -/
def Place.stop? (place : Place) : Option Place :=
  if Anchor.textStop.holds place then some place else none

theorem Place.stop?_nil {place : Place} (ended : place.rest = []) : place.stop?.isSome = true := by
  simp [Place.stop?, Anchor.holds, ended]

theorem Place.stop?_cons {place : Place} {c : Char} {rest : List Char}
    (goesOn : place.rest = c :: rest) (other : c ≠ '\n') : place.stop? = none := by
  simp [Place.stop?, Anchor.holds, goesOn, other]

/-- A set takes one character. -/
theorem matchAt_one (set : CharSet) (place : Place) (next : Place → Option Place) :
    (Pattern.one set).matchAt place next = (place.step? set.contains).bind next :=
  rfl

/-- Characters of a set are taken up to the end exactly if all that are left
belong to the set.  `last` is never the place itself, for every repetition
takes a character. -/
theorem isSome_greedily_one (set : CharSet) {bound : Nat} (place : Place) (last : Option Nat)
    (long : place.rest.length < bound) (progress : last ≠ some place.offset)
    (oneLine : '\n' ∉ place.rest) :
    (Matcher.greedily (Pattern.one set).matchAt last bound place Place.stop?).isSome =
      place.rest.all set.contains := by
  induction bound generalizing place last with
  | zero => exact absurd long (Nat.not_lt_zero _)
  | succ bound ih =>
      have moved : (last == some place.offset) = false := by simpa using progress
      rw [Matcher.greedily, moved, if_neg Bool.false_ne_true, matchAt_one]
      cases remaining : place.rest with
      | nil => simp [Place.step?, remaining, Place.stop?_nil remaining]
      | cons c rest =>
          rw [remaining] at long oneLine
          have notLineFeed : c ≠ '\n' := fun same => oneLine (same ▸ List.mem_cons_self)
          have restOneLine : '\n' ∉ rest := fun member => oneLine (List.mem_cons_of_mem _ member)
          rw [List.all_cons, Place.stop?_cons remaining notLineFeed]
          cases inSet : set.contains c with
          | false => simp [Place.step?, remaining, inSet]
          | true =>
              have further := ih (place.after c rest) (some place.offset)
                (Nat.lt_of_succ_lt_succ long) (by simp [Place.after]) restOneLine
              rw [Bool.true_and, ← show (place.after c rest).rest.all set.contains =
                rest.all set.contains from rfl, ← further]
              simp only [Place.step?, remaining, inSet, if_true, Option.bind_some]
              cases Matcher.greedily _ (some place.offset) bound (place.after c rest)
                Place.stop? <;> rfl

/-- Behind the beginning of a text the pattern does not match. -/
theorem matchesFrom_whole_eq_false (first later : CharSet) {place : Place}
    (begun : place.before ≠ []) (rest : List Char) :
    (Pattern.whole first later).matchesFrom place rest = false := by
  have notHere {place : Place} (begun : place.before ≠ []) :
      (Pattern.whole first later).matchesAt place = false := by
    simp [Pattern.whole, Pattern.sequence, Pattern.matchesAt, Pattern.matchAt, Anchor.holds, begun]
  induction rest generalizing place with
  | nil => exact notHere begun
  | cons c rest ih =>
      rw [Pattern.matchesFrom, notHere begun, Bool.false_or]
      exact ih (by simp [Place.after])

/-- A text without line feeds matches exactly if its first character belongs
to the one set and all others to the other. -/
theorem occursIn_whole (first later : CharSet) {text : String} (oneLine : '\n' ∉ text.toList) :
    (Pattern.whole first later).occursIn text =
      match text.toList with
      | [] => false
      | c :: rest => first.contains c && rest.all later.contains := by
  rw [Pattern.occursIn]
  cases spelled : text.toList with
  | nil =>
      simp [Pattern.matchesFrom, Pattern.whole, Pattern.sequence, Pattern.matchesAt,
        Pattern.matchAt, Anchor.holds, Place.ofText, Place.step?]
  | cons c rest =>
      rw [spelled] at oneLine
      have restOneLine : '\n' ∉ rest := fun member => oneLine (List.mem_cons_of_mem _ member)
      have atStart : (Pattern.whole first later).matchesAt (.ofText (c :: rest)) =
          (first.contains c && rest.all later.contains) := by
        have taken := isSome_greedily_one later ((Place.ofText (c :: rest)).after c rest) none
          (Nat.lt_succ_self rest.length) (by simp) restOneLine
        rw [show ((Place.ofText (c :: rest)).after c rest).rest = rest from rfl] at taken
        rw [← taken]
        cases inSet : first.contains c with
        | false =>
            simp [Pattern.whole, Pattern.sequence, Pattern.matchesAt, Pattern.matchAt,
              Anchor.holds, Place.ofText, Place.step?, inSet]
        | true =>
            rw [Bool.true_and]
            simp only [Pattern.whole, Pattern.sequence, List.foldr_cons, List.foldr_nil,
              Pattern.matchesAt, Pattern.matchAt, Pattern.many, Matcher.repeated, Matcher.times,
              Anchor.holds, Place.ofText, List.isEmpty_nil, if_true, Place.step?, inSet,
              Option.bind_some]
            rfl
      rw [Pattern.matchesFrom, atStart, matchesFrom_whole_eq_false _ _ (by simp [Place.after]),
        Bool.or_false]

end Crowsfoot.Text
