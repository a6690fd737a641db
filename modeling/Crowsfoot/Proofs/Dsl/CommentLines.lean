import Crowsfoot.Proofs.Dsl.CommentedLines
import Crowsfoot.Proofs.Dsl.OpenedBodies

/-!
# Comment lines

A comment on a line of its own may stand in front of any line of a block: the
scan for the end of the body passes over it, and so does the reader of the
lines.  But a comment ends at a line feed for the scan, and at every line
boundary for the reader, so that a line can begin inside of a comment.  A line
feed that is put in there ends the comment, and what it hid comes to light.  The
text is then read as before, whatever follows, exactly if the scan comes out of
the hidden text as it went in.
-/

namespace Crowsfoot

open Crowsfoot.Text

namespace Dsl

/-- What the scan of a body keeps: its mode, and how many braces were opened
inside the body. -/
structure ScanState where
  mode : Mode
  depth : Nat
  deriving DecidableEq

namespace ScanState

/-- The state behind the brace that opens a body. -/
def opened : ScanState := ⟨.plain, 0⟩

/-- The state after a character.  There is none after the brace that closes the
body. -/
def next? (state : ScanState) (c : Char) : Option ScanState :=
  if state.mode.countsBraces && c == '\x7d' then
    match state.depth with
    | 0 => none
    | outer + 1 => some ⟨state.mode.next c, outer⟩
  else if state.mode.countsBraces && c == '\x7b' then some ⟨state.mode.next c, state.depth + 1⟩
  else some ⟨state.mode.next c, state.depth⟩

/-- The state behind a text. -/
def behind? (state : ScanState) (text : List Char) : Option ScanState :=
  text.foldlM next? state

@[simp]
theorem behind?_nil (state : ScanState) : state.behind? [] = some state :=
  rfl

theorem behind?_cons (state : ScanState) (c : Char) (rest : List Char) :
    state.behind? (c :: rest) = (state.next? c).bind (·.behind? rest) :=
  rfl

theorem behind?_append (state : ScanState) (front back : List Char) :
    state.behind? (front ++ back) = (state.behind? front).bind (·.behind? back) :=
  List.foldlM_append

theorem mode_of_next? {state next : ScanState} {c : Char} (step : state.next? c = some next) :
    next.mode = state.mode.next c := by
  rcases state with ⟨mode, depth⟩
  simp only [next?] at step
  split at step
  · cases depth with
    | zero => contradiction
    | succ outer => exact Option.some.inj step ▸ rfl
  · split at step <;> exact Option.some.inj step ▸ rfl

/-- The modes follow the text whatever the depth. -/
theorem mode_of_behind? {state inner : ScanState} {text : List Char}
    (reaches : state.behind? text = some inner) : inner.mode = state.mode.behind text := by
  induction text generalizing state with
  | nil => exact Option.some.inj reaches ▸ rfl
  | cons c rest ih =>
      rw [behind?_cons] at reaches
      obtain ⟨next, step, further⟩ := Option.bind_eq_some_iff.mp reaches
      rw [ih further, mode_of_next? step]
      rfl

/-- A state from which braces close one depth after the other. -/
theorem behind?_braces {depth count : Nat} (open_ : count ≤ depth) :
    behind? ⟨.plain, depth⟩ (List.replicate count '\x7d') = some ⟨.plain, depth - count⟩ := by
  induction count generalizing depth with
  | zero => rfl
  | succ count ih =>
      obtain ⟨outer, rfl⟩ : ∃ outer, depth = outer + 1 := ⟨depth - 1, by omega⟩
      rw [List.replicate_succ, Nat.add_sub_add_right]
      exact ih (by omega)

/-- In a string no brace counts. -/
theorem behind?_braces_string (depth count : Nat) :
    behind? ⟨.string, depth⟩ (List.replicate count '\x7d') = some ⟨.string, depth⟩ := by
  induction count with
  | zero => rfl
  | succ count ih => exact ih

end ScanState

open ScanState

/-- A body ends where there is no next state. -/
theorem splitBody_cons (state : ScanState) (c : Char) (rest : List Char) :
    splitBody state.mode state.depth (c :: rest) =
      match state.next? c with
      | none => some ([], rest)
      | some next => (splitBody next.mode next.depth rest).map fun (body, after) =>
          (c :: body, after) := by
  rcases state with ⟨mode, depth⟩
  simp only [splitBody, ScanState.next?]
  split
  · cases depth <;> rfl
  · split <;> rfl

/-- Behind a text that leaves the body open, the scan goes on in the state that
it has reached. -/
theorem splitBody_append_of_behind? {state inner : ScanState} {front : List Char}
    (reaches : state.behind? front = some inner) (rest : List Char) :
    splitBody state.mode state.depth (front ++ rest) =
      (splitBody inner.mode inner.depth rest).map fun (body, after) => (front ++ body, after) := by
  induction front generalizing state with
  | nil =>
      obtain rfl := Option.some.inj reaches
      simp
  | cons c later ih =>
      rw [behind?_cons] at reaches
      obtain ⟨next, step, further⟩ := Option.bind_eq_some_iff.mp reaches
      rw [List.cons_append, splitBody_cons, step]
      dsimp only
      rw [ih further, Option.map_map]
      rfl

/-- A text leaves a body open exactly if the scan has a state behind it. -/
theorem splitBody_eq_none_iff {state : ScanState} {text : List Char} :
    splitBody state.mode state.depth text = none ↔ (state.behind? text).isSome = true := by
  induction text generalizing state with
  | nil => exact iff_of_true rfl rfl
  | cons c rest ih =>
      rw [splitBody_cons, behind?_cons]
      cases state.next? c with
      | none => exact iff_of_false nofun nofun
      | some next => rw [Option.map_eq_none_iff, ih, Option.bind_some]

/-- A brace in plain text closes a body in which none is open. -/
theorem splitBody_braces (depth : Nat) :
    splitBody .plain depth (List.replicate (depth + 1) '\x7d') =
      some (List.replicate depth '\x7d', []) := by
  have closed := splitBody_append_of_behind? (behind?_braces (Nat.le_refl depth)) ['\x7d']
  rw [List.replicate_succ', closed, Nat.sub_self]
  exact congrArg (fun body => some (body, [])) (List.append_nil _)

/-- States in plain text or in a string that let the same texts close the body
are the same, as closing braces tell them apart. -/
theorem eq_plain_of_closes {depth : Nat} {inner : ScanState}
    (mode : inner.mode = .plain ∨ inner.mode = .string)
    (forth : ∀ text body, splitBody .plain depth text = some (body, []) →
      splitBody inner.mode inner.depth text ≠ none)
    (back : ∀ text body, splitBody inner.mode inner.depth text = some (body, []) →
      splitBody .plain depth text ≠ none) : inner = ⟨.plain, depth⟩ := by
  have enough := splitBody_braces depth
  rcases inner with ⟨_, innerDepth⟩
  rcases mode with rfl | rfl
  · rcases Nat.lt_trichotomy innerDepth depth with shallower | rfl | deeper
    · have stays := behind?_braces shallower
      exact absurd (splitBody_eq_none_iff.mpr (Option.isSome_of_eq_some stays))
        (back _ _ (splitBody_braces innerDepth))
    · rfl
    · have stays := behind?_braces deeper
      exact absurd (splitBody_eq_none_iff.mpr (Option.isSome_of_eq_some stays))
        (forth _ _ enough)
  · have stays := behind?_braces_string innerDepth (depth + 1)
    exact absurd (splitBody_eq_none_iff.mpr (Option.isSome_of_eq_some stays)) (forth _ _ enough)

/-- Behind a line boundary outside of strings the scan is in plain text or in a
comment. -/
theorem Mode.next_boundary {mode : Mode} {c : Char} (boundary : isLineBoundary c = true)
    (outside : (mode.next c).inString = false) :
    mode.next c = .plain ∨ mode.next c = .comment := by
  have other (sign : Char) (within : isLineBoundary sign = false) : c ≠ sign :=
    ne_of_class boundary within
  have inPlain : Mode.ofPlain c = .plain := by
    simp [Mode.ofPlain, other '\x22' rfl, other '/' rfl]
  cases mode with
  | plain => exact .inl inPlain
  | slash => exact .inl (by simp [Mode.next, other '/' rfl, inPlain])
  | comment => by_cases lineFeed : c = '\n' <;> simp [Mode.next, lineFeed]
  | string =>
      simp only [Mode.next] at outside
      split at outside
      · contradiction
      · simp [other '\x22' rfl] at outside
        contradiction
  | escape => contradiction

/-- Behind a line feed there is plain text or a string. -/
theorem Mode.next_lineFeed (mode : Mode) :
    mode.next '\n' = .plain ∨ mode.next '\n' = .string := by
  cases mode <;> first | exact .inl rfl | exact .inr rfl

/-- The end of a line holds no header. -/
theorem nextHeader?_lineEnd {line after : List Char} (oneLine : '\n' ∉ line)
    (suffix : after <:+ line ++ ['\n']) : nextHeader? false after = none := by
  rcases List.suffix_concat_iff.mp suffix with rfl | ⟨front, rfl, inLine⟩
  · rfl
  · rw [nextHeader?_append_of_notMem fun member => oneLine (inLine.mem member)]
    rfl

/-- A line with nothing but a comment. -/
def commentLine (comment : List Char) : List Char :=
  '/' :: '/' :: (comment ++ ['\n'])

/-- Behind a comment line there is plain text. -/
theorem Moves.commentLine {mode : Mode} (start : mode = .plain ∨ mode = .comment)
    {comment : List Char} (oneLine : '\n' ∉ comment) :
    Moves mode (Dsl.commentLine comment) .plain := by
  rcases start with rfl | rfl
  · exact @Moves.lineComment false _ oneLine
  · have inside : '\n' ∉ '/' :: '/' :: comment := by simpa using oneLine
    exact (Moves.comment inside).append (Moves.char (.inl rfl))

theorem declarations_comment {comment : List Char}
    (oneLine : ∀ c ∈ comment, isLineBoundary c = false) :
    declarations ('/' :: '/' :: comment) = [] := by
  have whole : ∀ c ∈ '/' :: '/' :: comment, isLineBoundary c = false := by
    rw [List.forall_mem_cons, List.forall_mem_cons]
    exact ⟨rfl, rfl, oneLine⟩
  obtain ⟨rest, stripped⟩ : ∃ rest, strip ('/' :: '/' :: comment) = '/' :: '/' :: rest := by
    refine ⟨trimEnd isBlank comment, ?_⟩
    rw [strip, trim, dropWhile_of_stops (stops_cons_iff.mpr rfl), trimEnd_cons rfl,
      trimEnd_cons rfl]
  have aside : isAside ('/' :: '/' :: rest) = true := by
    have begins : literal? "//".toList ('/' :: '/' :: rest) = some rest := literal?_append _ rest
    rw [isAside, begins]
    rfl
  simp [declarations, strippedLines, strippedPieces, pieces_of_none whole, stripped, aside]

/-- A comment line behind the end of a line declares nothing. -/
theorem declarations_commentLine {front comment : List Char} {boundary : Char}
    (cuts : isLineBoundary boundary = true)
    (oneLine : ∀ c ∈ comment, isLineBoundary c = false) (back : List Char) :
    declarations ((front ++ [boundary]) ++ (commentLine comment ++ back)) =
      declarations ((front ++ [boundary]) ++ back) := by
  have whole : (front ++ [boundary]) ++ (commentLine comment ++ back) =
      front ++ boundary :: ('/' :: '/' :: comment ++ '\n' :: back) := by
    simp [commentLine]
  rw [whole, List.append_assoc, List.singleton_append, declarations_append_cons cuts,
    declarations_append_cons cuts, declarations_append_cons (rfl : isLineBoundary '\n' = true),
    declarations_comment oneLine, List.nil_append]

/-! ## Reading behind a brace -/

theorem documentOf_congr (earlier later : List Block) (kind : BlockKind) (name : List Char)
    {body other : List Char} (same : declarations body = declarations other) :
    documentOf (earlier ++ ⟨kind, name, body⟩ :: later) =
      documentOf (earlier ++ ⟨kind, name, other⟩ :: later) := by
  cases kind <;>
    simp [documentOf, Block.table, Block.enumeration, same]

section Opened

variable {before name : List Char} {kind : BlockKind} {earlier : List Block}

/-- A body that is not closed is what reading fails at. -/
theorem Opens.blocksFrom_of_open {lineStart : Bool} {opened : List Char}
    (opens : Opens lineStart before earlier kind name)
    (unclosed : splitBody .plain 0 opened = none) :
    Dsl.blocksFrom lineStart (before ++ opened) = .error (.openBlock (String.ofList name)) := by
  induction opens with
  | header found => exact Dsl.blocksFrom_of_open (nextHeader?_append found opened) unclosed
  | behind found ended _ ih =>
      rw [blocksFrom_of_some (nextHeader?_append found opened) (splitBody_append ended opened), ih]
      rfl

/-- A text that is not read has a body that is opened and not closed. -/
theorem exists_opens_of_error {lineStart : Bool} {text : List Char} {openName : String}
    (failed : blocksFrom lineStart text = .error (.openBlock openName)) :
    ∃ before opened earlier kind name, text = before ++ opened ∧ openName = String.ofList name ∧
      Opens lineStart before earlier kind name ∧ splitBody .plain 0 opened = none := by
  fun_induction blocksFrom lineStart text with
  | case1 => contradiction
  | case2 lineStart text kind name opened header unclosed =>
      obtain ⟨before, rfl, found⟩ := exists_nextHeader? header
      cases failed
      exact ⟨before, opened, [], kind, name, rfl, rfl, .header found, unclosed⟩
  | case3 => contradiction
  | case4 lineStart text kind name opened header body after closed cause read ih =>
      obtain ⟨before, rfl, found⟩ := exists_nextHeader? header
      obtain ⟨rfl, closes⟩ := splitBody_closing closed
      obtain ⟨later, rest, earlier, openKind, openChars, rfl, rfl, opens, unclosed⟩ :=
        ih (by rw [read]; exact failed)
      exact ⟨before ++ (body ++ '\x7d' :: later), rest, _, openKind, openChars, by simp, rfl,
        .behind (nextHeader?_append found _) (closes later) opens, unclosed⟩

variable (opens : Opens true before earlier kind name)
include opens

/-- What is read behind the brace of a body: an error if the body is not closed,
else the block and what follows it. -/
theorem Opens.ofDsl (opened : List Char) :
    Document.ofDsl (String.ofList (before ++ opened)) =
      match splitBody .plain 0 opened with
      | none => .error (.openBlock (String.ofList name))
      | some (body, after) => (Dsl.blocksFrom false after).map fun later =>
          documentOf (earlier ++ ⟨kind, name, body⟩ :: later) := by
  rw [Document.ofDsl, String.toList_ofList]
  cases closed : splitBody .plain 0 opened with
  | none => rw [opens.blocksFrom_of_open closed]; rfl
  | some parts =>
      obtain ⟨body, after⟩ := parts
      rw [opens.blocksFrom closed]
      dsimp only
      cases Dsl.blocksFrom false after <;> rfl

/-- Texts behind the brace are read alike if the bodies end at the same place
and declare the same. -/
theorem Opens.ofDsl_congr {opened other : List Char}
    (same : (splitBody .plain 0 opened).map (fun (body, after) => (declarations body, after)) =
      (splitBody .plain 0 other).map fun (body, after) => (declarations body, after)) :
    Document.ofDsl (String.ofList (before ++ opened)) =
      Document.ofDsl (String.ofList (before ++ other)) := by
  rw [opens.ofDsl, opens.ofDsl]
  cases closed : splitBody .plain 0 opened with
  | none =>
      rw [closed, Option.map_none, eq_comm, Option.map_eq_none_iff] at same
      rw [same]
  | some parts =>
      rw [closed, Option.map_some, eq_comm, Option.map_eq_some_iff] at same
      obtain ⟨⟨otherBody, otherAfter⟩, otherClosed, equal⟩ := same
      obtain ⟨declared, rfl⟩ := Prod.mk.inj equal
      rw [otherClosed]
      dsimp only
      simp only [documentOf_congr earlier _ kind name declared]

/-- A body that is closed in front of the last header is not read like one that
is not closed. -/
theorem Opens.ofDsl_ne {opened other body after : List Char}
    (closed : splitBody .plain 0 opened = some (body, after))
    (silent : nextHeader? false after = none) (unclosed : splitBody .plain 0 other = none) :
    Document.ofDsl (String.ofList (before ++ opened)) ≠
      Document.ofDsl (String.ofList (before ++ other)) := by
  rw [opens.ofDsl, opens.ofDsl, closed, unclosed]
  dsimp only
  rw [blocksFrom_of_none silent]
  exact nofun

end Opened

/-- A place where a line begins in the body of a block: the text up to the brace
that opens the body, with the blocks in it, the part of the body up to the
place, the state of the scan there, and what follows. -/
structure LineStart where
  before : List Char
  earlier : List Block
  kind : BlockKind
  name : List Char
  linesBefore : List Char
  state : ScanState
  rest : List Char
  opens : Opens true before earlier kind name
  begins : ∃ boundary ∈ linesBefore.getLast?, isLineBoundary boundary = true
  reaches : ScanState.opened.behind? linesBefore = some state

namespace LineStart

variable (start : LineStart)

/-- The text that the place is in. -/
def text : String :=
  String.ofList (start.before ++ (start.linesBefore ++ start.rest))

/-- The text with a comment on a line of its own at the place. -/
def commented (comment : List Char) : String :=
  String.ofList (start.before ++ (start.linesBefore ++ (commentLine comment ++ start.rest)))

/-- The place in a text that goes on in another way. -/
def followedBy (rest : List Char) : LineStart :=
  { start with rest := rest }

/-- Outside of strings, a line begins in plain text or in a comment. -/
theorem mode_cases (outside : start.state.mode.inString = false) :
    start.state.mode = .plain ∨ start.state.mode = .comment := by
  obtain ⟨boundary, last, cuts⟩ := start.begins
  obtain ⟨front, spelled⟩ := List.getLast?_eq_some_iff.mp last
  have mode := mode_of_behind? start.reaches
  rw [spelled, Mode.behind, List.foldl_append, List.foldl_cons, List.foldl_nil] at mode
  rw [mode] at outside ⊢
  exact Mode.next_boundary cuts outside

/-- What is declared with a comment line is what is declared without it. -/
theorem declarations_commented {comment : List Char}
    (oneLine : ∀ c ∈ comment, isLineBoundary c = false) (body : List Char) :
    declarations (start.linesBefore ++ (commentLine comment ++ body)) =
      declarations (start.linesBefore ++ body) := by
  obtain ⟨boundary, last, cuts⟩ := start.begins
  obtain ⟨front, spelled⟩ := List.getLast?_eq_some_iff.mp last
  rw [spelled]
  exact declarations_commentLine cuts oneLine body

section Scan

variable (rest : List Char)

/-- The scan comes to the place, and goes on behind it. -/
theorem splitBody_text :
    splitBody .plain 0 (start.linesBefore ++ rest) =
      (splitBody start.state.mode start.state.depth rest).map fun (body, after) =>
        (start.linesBefore ++ body, after) :=
  splitBody_append_of_behind? start.reaches rest

/-- With a comment line it goes on in plain text. -/
theorem splitBody_commented (outside : start.state.mode.inString = false)
    {comment : List Char} (oneLine : '\n' ∉ comment) :
    splitBody .plain 0 (start.linesBefore ++ (commentLine comment ++ rest)) =
      (splitBody .plain start.state.depth rest).map fun (body, after) =>
        (start.linesBefore ++ (commentLine comment ++ body), after) := by
  rw [splitBody_text, Moves.commentLine (start.mode_cases outside) oneLine, Option.map_map]
  rfl

end Scan

/-- In plain text a comment line changes nothing. -/
theorem ofDsl_commented_of_plain (plain : start.state.mode = .plain) {comment : List Char}
    (oneLine : ∀ c ∈ comment, isLineBoundary c = false) :
    Document.ofDsl (start.commented comment) = Document.ofDsl start.text := by
  have noLineFeed : '\n' ∉ comment := fun member => absurd (oneLine _ member) (by decide)
  have outside : start.state.mode.inString = false := by rw [plain]; rfl
  apply start.opens.ofDsl_congr
  rw [start.splitBody_commented _ outside noLineFeed, start.splitBody_text, plain, Option.map_map,
    Option.map_map]
  simp only [Function.comp_def, start.declarations_commented oneLine]

/-! ## Line starts in comments -/

/-- The state of the scan behind a text that it reads as plain text. -/
def inPlain? (hidden : List Char) : Option ScanState :=
  ScanState.behind? ⟨.plain, start.state.depth⟩ hidden

section Hidden

variable {start} {hidden : List Char} (inComment : start.state.mode = .comment)
include inComment

/-- The scan of the text goes on behind the comment. -/
theorem splitBody_hidden (hiddenLine : '\n' ∉ hidden) (later : List Char) :
    splitBody .plain 0 (start.linesBefore ++ (hidden ++ '\n' :: later)) =
      (splitBody .plain start.state.depth later).map fun (body, after) =>
        (start.linesBefore ++ (hidden ++ '\n' :: body), after) := by
  have passed : Moves .comment (hidden ++ ['\n']) .plain :=
    (Moves.comment hiddenLine).append (Moves.char (.inl rfl))
  have shown (more : List Char) : hidden ++ '\n' :: more = hidden ++ ['\n'] ++ more := by simp
  rw [splitBody_text, inComment, shown, passed, Option.map_map]
  simp only [Function.comp_def, List.append_assoc, List.singleton_append]

/-- The scan of the text with a comment line goes on behind what the comment
hid. -/
theorem splitBody_shown {inner : ScanState}
    (reaches : start.inPlain? (hidden ++ ['\n']) = some inner) {comment : List Char}
    (oneLine : '\n' ∉ comment) (later : List Char) :
    splitBody .plain 0 (start.linesBefore ++ (commentLine comment ++ (hidden ++ '\n' :: later))) =
      (splitBody inner.mode inner.depth later).map fun (body, after) =>
        (start.linesBefore ++ (commentLine comment ++ (hidden ++ '\n' :: body)), after) := by
  have outside : start.state.mode.inString = false := by rw [inComment]; rfl
  have shown (more : List Char) : hidden ++ '\n' :: more = hidden ++ ['\n'] ++ more := by simp
  have goesOn := splitBody_append_of_behind? reaches later
  dsimp only at goesOn
  rw [start.splitBody_commented _ outside oneLine, shown, goesOn, Option.map_map]
  simp only [Function.comp_def, List.append_assoc, List.singleton_append]

/-- If the scan comes out of what the comment hid as it went in, a comment line
changes nothing, whatever follows. -/
theorem ofDsl_commented_of_returns (hiddenLine : '\n' ∉ hidden)
    (returns : start.inPlain? (hidden ++ ['\n']) = some ⟨.plain, start.state.depth⟩)
    {comment : List Char} (oneLine : ∀ c ∈ comment, isLineBoundary c = false)
    {later : List Char} (ends : ∀ c ∈ later.head?, c = '\n')
    (rest : start.rest = hidden ++ later) :
    Document.ofDsl (start.commented comment) = Document.ofDsl start.text := by
  have noLineFeed : '\n' ∉ comment := fun member => absurd (oneLine _ member) (by decide)
  apply start.opens.ofDsl_congr
  rw [rest]
  cases later with
  | nil =>
      -- The comment goes on to the end of the text, and both bodies stay open.
      have outside : start.state.mode.inString = false := by rw [inComment]; rfl
      have passed := Moves.comment hiddenLine start.state.depth []
      rw [inPlain?, behind?_append] at returns
      obtain ⟨inner, reached, -⟩ := Option.bind_eq_some_iff.mp returns
      have open_ := splitBody_eq_none_iff.mpr (Option.isSome_of_eq_some reached)
      rw [start.splitBody_commented _ outside noLineFeed, start.splitBody_text, inComment, passed,
        List.append_nil, open_]
      rfl
  | cons c later =>
      obtain rfl := ends c rfl
      rw [splitBody_shown inComment returns noLineFeed, splitBody_hidden inComment hiddenLine,
        Option.map_map, Option.map_map]
      simp only [Function.comp_def, start.declarations_commented oneLine]

/-- If what the comment hid closes the body, it does so behind a comment line, and
no block begins in what is left of it. -/
theorem exists_splitBody_shown (closes : start.inPlain? (hidden ++ ['\n']) = none)
    (hiddenLine : '\n' ∉ hidden) {comment : List Char} (oneLine : '\n' ∉ comment) :
    ∃ body after : List Char, nextHeader? false after = none ∧
      splitBody .plain 0 (start.linesBefore ++ (commentLine comment ++ (hidden ++ ['\n']))) =
        some (body, after) := by
  have outside : start.state.mode.inString = false := by rw [inComment]; rfl
  have split : splitBody .plain start.state.depth (hidden ++ ['\n']) ≠ none := by
    intro unclosed
    have reached := (@splitBody_eq_none_iff ⟨.plain, start.state.depth⟩ _).mp unclosed
    rw [← inPlain?, closes] at reached
    contradiction
  obtain ⟨⟨body, after⟩, closed⟩ := Option.ne_none_iff_exists'.mp split
  have suffix : after <:+ hidden ++ ['\n'] :=
    ⟨body ++ ['\x7d'], by rw [(splitBody_closing closed).1]; simp⟩
  have shown := start.splitBody_commented (hidden ++ ['\n']) outside oneLine
  rw [closed] at shown
  exact ⟨_, after, nextHeader?_lineEnd hiddenLine suffix, shown⟩

/-- If a comment line leaves the text alone whatever follows, the scan comes out of
what the comment hid as it went in. -/
theorem returns_of_forall (hiddenLine : '\n' ∉ hidden) {comment : List Char}
    (oneLine : '\n' ∉ comment)
    (same : ∀ later, Document.ofDsl
        ((start.followedBy (hidden ++ '\n' :: later)).commented comment) =
      Document.ofDsl (start.followedBy (hidden ++ '\n' :: later)).text) :
    start.inPlain? (hidden ++ ['\n']) = some ⟨.plain, start.state.depth⟩ := by
  have old (later : List Char) := splitBody_hidden inComment hiddenLine later
  -- With what follows, either both bodies are closed or none of them is.
  have closedToo {later body after : List Char} (silent : nextHeader? false after = none)
      (closed : splitBody .plain 0 (start.linesBefore ++ (hidden ++ '\n' :: later)) =
        some (body, after)) :
      splitBody .plain 0
        (start.linesBefore ++ (commentLine comment ++ (hidden ++ '\n' :: later))) ≠ none :=
    fun unclosed => start.opens.ofDsl_ne closed silent unclosed (same later).symm
  have closedBefore {later body after : List Char} (silent : nextHeader? false after = none)
      (closed : splitBody .plain 0
        (start.linesBefore ++ (commentLine comment ++ (hidden ++ '\n' :: later))) =
        some (body, after)) :
      splitBody .plain 0 (start.linesBefore ++ (hidden ++ '\n' :: later)) ≠ none :=
    fun unclosed => start.opens.ofDsl_ne closed silent unclosed (same later)
  cases reaches : start.inPlain? (hidden ++ ['\n']) with
  | none =>
      -- What was hidden closes the new body, and nothing closes the old one.
      obtain ⟨body, after, silent, new⟩ :=
        exists_splitBody_shown inComment reaches hiddenLine oneLine
      exact absurd (old []) (closedBefore silent new)
  | some inner =>
      have new (later : List Char) := splitBody_shown inComment reaches oneLine later
      have mode : inner.mode = .plain ∨ inner.mode = .string := by
        rw [mode_of_behind? reaches, Mode.behind, List.foldl_append]
        exact Mode.next_lineFeed _
      refine congrArg some (eq_plain_of_closes mode ?_ ?_)
      · intro later body closed unclosed
        have oldClosed := old later
        rw [closed] at oldClosed
        exact closedToo rfl oldClosed (by rw [new, unclosed]; rfl)
      · intro later body closed unclosed
        have newClosed := new later
        rw [closed] at newClosed
        exact closedBefore rfl newClosed (by rw [old, unclosed]; rfl)

end Hidden

/-- A line that begins behind a line feed begins outside of comments. -/
theorem mode_of_lineFeed (ended : start.linesBefore.getLast? = some '\n') :
    start.state.mode ≠ .comment := by
  obtain ⟨front, spelled⟩ := List.getLast?_eq_some_iff.mp ended
  have mode := mode_of_behind? start.reaches
  rw [spelled, Mode.behind, List.foldl_append, List.foldl_cons, List.foldl_nil] at mode
  intro inComment
  rw [mode] at inComment
  rcases Mode.next_lineFeed (front.foldl Mode.next ScanState.opened.mode) with plain | string
  · rw [plain] at inComment
    contradiction
  · rw [string] at inComment
    contradiction

end LineStart

/-- The lines of an opened text begin where the body is still open. -/
theorem exists_lineStart {before name linesBefore : List Char} {earlier : List Block}
    {kind : BlockKind} (rest : List Char) (opens : Opens true before earlier kind name)
    (begins : ∃ boundary ∈ linesBefore.getLast?, isLineBoundary boundary = true)
    (isOpen : splitBody .plain 0 linesBefore = none) :
    ∃ start : LineStart, start.before = before ∧ start.name = name ∧
      start.linesBefore = linesBefore ∧ start.rest = rest := by
  have reached := (@splitBody_eq_none_iff .opened _).mp isOpen
  obtain ⟨state, reaches⟩ := Option.isSome_iff_exists.mp reached
  exact ⟨⟨before, earlier, kind, name, linesBefore, state, rest, opens, begins, reaches⟩,
    rfl, rfl, rfl, rfl⟩

/-- A body is open up to its end. -/
theorem splitBody_of_isPrefix_body {body front after : List Char}
    (closes : splitBody .plain 0 (body ++ '\x7d' :: after) = some (body, after))
    (begins : front <+: body) : splitBody .plain 0 front = none := by
  obtain ⟨back, rfl⟩ := begins
  cases closed : splitBody .plain 0 front with
  | none => rfl
  | some parts =>
      obtain ⟨inner, rest⟩ := parts
      have whole := splitBody_append closed (back ++ '\x7d' :: after)
      rw [List.append_assoc, whole] at closes
      have lengths := congrArg List.length (Prod.mk.inj (Option.some.inj closes)).2
      simp at lengths
      omega

/-- A text that is not closed is open everywhere. -/
theorem splitBody_of_isPrefix_open {opened front : List Char}
    (unclosed : splitBody .plain 0 opened = none) (begins : front <+: opened) :
    splitBody .plain 0 front = none := by
  obtain ⟨back, rfl⟩ := begins
  cases closed : splitBody .plain 0 front with
  | none => rfl
  | some parts =>
      rw [splitBody_append closed back] at unclosed
      contradiction

end Dsl

open Dsl

/-- Every line start in a body, of a block that is read or of the one that is
not closed, is a place where the scan has a state.  Outside of strings, a
comment on a line of its own changes nothing there, neither the document nor the
error, unless the line begins inside of a comment; behind a line feed it does
not.  Inside of a comment it changes nothing, whatever follows the hidden text,
exactly if the scan comes out of this text as it went in. -/
theorem Document.ofDsl_commented (text : String) :
    (∀ (earlier later : List Block) (block : Block) (linesBefore linesAfter : List Char),
      blocksFrom true text.toList = .ok (earlier ++ block :: later) →
      block.body = linesBefore ++ linesAfter →
      (∃ boundary ∈ linesBefore.getLast?, isLineBoundary boundary = true) →
      ∃ start : LineStart, start.text = text ∧ start.name = block.name ∧
        start.linesBefore = linesBefore ∧ ∃ after, start.rest = linesAfter ++ '\x7d' :: after) ∧
    (∀ name : String, blocksFrom true text.toList = .error (.openBlock name) →
      ∃ before opened : List Char, text.toList = before ++ opened ∧
        splitBody .plain 0 opened = none ∧ ∀ linesBefore rest : List Char,
          opened = linesBefore ++ rest →
          (∃ boundary ∈ linesBefore.getLast?, isLineBoundary boundary = true) →
          ∃ start : LineStart, start.text = text ∧ String.ofList start.name = name ∧
            start.before = before ∧ start.linesBefore = linesBefore ∧ start.rest = rest) ∧
    ∀ start : LineStart, start.text = text → start.state.mode.inString = false →
      ∀ comment : List Char, (∀ c ∈ comment, isLineBoundary c = false) →
        (start.linesBefore.getLast? = some '\n' ∨ start.state.mode ≠ .comment →
          Document.ofDsl (start.commented comment) = Document.ofDsl text) ∧
        (start.state.mode = .comment → ∀ hidden : List Char, '\n' ∉ hidden →
          ((∀ later : List Char, (∀ c ∈ later.head?, c = '\n') →
              Document.ofDsl ((start.followedBy (hidden ++ later)).commented comment) =
                Document.ofDsl (start.followedBy (hidden ++ later)).text) ↔
            start.inPlain? (hidden ++ ['\n']) = some ⟨.plain, start.state.depth⟩)) := by
  refine ⟨?closed, ?unclosed, ?inert⟩
  case closed =>
    intro earlier later block linesBefore linesAfter read spelled begins
    obtain ⟨before, after, whole, opens, closes⟩ := exists_opens read
    have isOpen := splitBody_of_isPrefix_body closes ⟨linesAfter, spelled.symm⟩
    obtain ⟨start, rfl, name, rfl, rest⟩ :=
      exists_lineStart (linesAfter ++ '\x7d' :: after) opens begins isOpen
    refine ⟨start, ?_, name, rfl, after, rest⟩
    rw [LineStart.text, rest, ← List.append_assoc start.linesBefore, ← spelled, ← whole,
      String.ofList_toList]
  case unclosed =>
    intro name failed
    obtain ⟨before, opened, earlier, kind, chars, whole, rfl, opens, unclosed⟩ :=
      exists_opens_of_error failed
    refine ⟨before, opened, whole, unclosed, fun linesBefore rest spelled begins => ?_⟩
    have isOpen := splitBody_of_isPrefix_open unclosed ⟨rest, spelled.symm⟩
    obtain ⟨start, rfl, rfl, rfl, rfl⟩ := exists_lineStart rest opens begins isOpen
    refine ⟨start, ?_, rfl, rfl, rfl, rfl⟩
    rw [LineStart.text, ← spelled, ← whole, String.ofList_toList]
  case inert =>
    rintro start rfl outside comment oneLine
    have noLineFeed : '\n' ∉ comment := fun member => absurd (oneLine _ member) (by decide)
    refine ⟨fun notHidden => ?_, fun inComment hidden hiddenLine => ⟨fun same => ?_, ?_⟩⟩
    · have mode : start.state.mode ≠ .comment := notHidden.elim start.mode_of_lineFeed id
      have plain := (start.mode_cases outside).resolve_right mode
      exact start.ofDsl_commented_of_plain plain oneLine
    · exact LineStart.returns_of_forall inComment hiddenLine noLineFeed fun later =>
        same ('\n' :: later) fun c head => (Option.some.inj head).symm
    · intro returns later ends
      exact @LineStart.ofDsl_commented_of_returns (start.followedBy (hidden ++ later)) hidden
        inComment hiddenLine returns comment oneLine later ends rfl

/-- A model with a brace in a default, and a comment that hides a column. -/
def remarkText : String :=
  "model A \x7b\n  x String @default(\"// \x7b\")\n  // y \x7d\u2028  z Int\n\x7d\n"

/-- A comment may stand behind the default, whatever it says, and in front of
the hidden column. -/
theorem ofDsl_commented_remarkText :
    (∃ start : LineStart, start.text = remarkText ∧
      start.linesBefore = "\n  x String @default(\"// \x7b\")\n".toList ∧
      Document.ofDsl (start.commented " \x7d model B \x7b @@id \"".toList) =
        Document.ofDsl remarkText) ∧
    ∃ start : LineStart, start.text = remarkText ∧ start.state.mode = .comment ∧
      Document.ofDsl (start.commented "z".toList) = Document.ofDsl remarkText := by
  have read (linesBefore linesAfter : List Char)
      (spelled : linesBefore ++ linesAfter =
        "\n  x String @default(\"// \x7b\")\n  // y \x7d\u2028  z Int\n".toList) :
      blocksFrom true remarkText.toList =
        .ok ([] ++ ⟨.model, ['A'], linesBefore ++ linesAfter⟩ :: []) := by
    rw [spelled]
    decide +kernel
  obtain ⟨starts, -, inert⟩ := Document.ofDsl_commented remarkText
  constructor
  · obtain ⟨start, same, -, lines, -⟩ := starts [] [] _
      "\n  x String @default(\"// \x7b\")\n".toList "  // y \x7d\u2028  z Int\n".toList
      (read _ _ (by decide)) rfl ⟨'\n', rfl, rfl⟩
    have outside : start.state.mode.inString = false := by
      rw [ScanState.mode_of_behind? start.reaches, lines]
      decide
    obtain ⟨unchanged, -⟩ :=
      inert start same outside " \x7d model B \x7b @@id \"".toList (by decide)
    exact ⟨start, same, lines, unchanged (.inl (by rw [lines]; rfl))⟩
  · obtain ⟨start, same, -, lines, after, rest⟩ := starts [] [] _
      "\n  x String @default(\"// \x7b\")\n  // y \x7d\u2028".toList "  z Int\n".toList
      (read _ _ (by decide)) rfl ⟨'\u2028', rfl, rfl⟩
    have state : start.state = ⟨.comment, 0⟩ := by
      have reaches := start.reaches
      rw [lines] at reaches
      exact (Option.some.inj reaches).symm
    have mode : start.state.mode = .comment := by rw [state]
    obtain ⟨-, hidden⟩ := inert start same (by rw [mode]; rfl) "z".toList (by decide)
    have returns : start.inPlain? ("  z Int".toList ++ ['\n']) =
        some ⟨.plain, start.state.depth⟩ := by
      rw [LineStart.inPlain?, state]
      decide
    have unchanged := (hidden mode "  z Int".toList (by decide)).mpr returns
      ('\n' :: '\x7d' :: after) fun c head => (Option.some.inj head).symm
    have spelled : "  z Int".toList ++ '\n' :: '\x7d' :: after = start.rest := rest.symm
    have follows : start.followedBy start.rest = start := rfl
    rw [spelled, follows, same] at unchanged
    exact ⟨start, same, mode, unchanged⟩

/-- A model with a brace that a comment hides. -/
def hiddenBraceText : String :=
  "model A \x7b\n// x\u2028\x7d\n  a Int\n\x7d\n"

/-- A comment in front of the hidden brace brings it to light, and the model
loses its column. -/
theorem ofDsl_commented_hiddenBrace :
    ∃ start : LineStart, start.text = hiddenBraceText ∧ start.state.mode.inString = false ∧
      Document.ofDsl (start.commented ['c']) ≠ Document.ofDsl hiddenBraceText := by
  let start : LineStart :=
    { before := "model A \x7b".toList
      earlier := []
      kind := .model
      name := ['A']
      linesBefore := "\n// x\u2028".toList
      state := ⟨.comment, 0⟩
      rest := "\x7d\n  a Int\n\x7d\n".toList
      opens := .header (by decide +kernel)
      begins := ⟨'\u2028', rfl, rfl⟩
      reaches := by decide }
  refine ⟨start, by decide, rfl, fun same => ?_⟩
  have columns := congrArg (fun read : Except SourceError Document =>
    read.toOption.map fun document => document.tables.map fun table =>
      table.columns.map Column.name) same
  exact absurd columns (by decide +kernel)

end Crowsfoot
