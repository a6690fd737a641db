import Mathlib.Data.List.Infix
import Crowsfoot.Proofs.Sql.Tables

/-!
# Balanced texts

A text is balanced if its literals are closed and its parentheses are well
nested outside of them.  The scan for the end of a body keeps an account of the
literal and of the parentheses that are open; a body is what is balanced in
front of a closing parenthesis, so the scan fails exactly if no beginning of the
text is balanced.  On balanced definitions it is in step with the scan that cuts
a body at its commas.
-/

namespace Crowsfoot.Sql

open Crowsfoot.Text

/-- What the scan of a body keeps account of: whether it stands in a literal,
and how many parentheses are open. -/
structure Account where
  quoted : Bool
  depth : Nat
  deriving DecidableEq

namespace Account

/-- Nothing is open. -/
def even : Account := ⟨false, 0⟩

/-- The account after a character.  There is none after a parenthesis that
closes nothing. -/
def next? (account : Account) (c : Char) : Option Account :=
  if c == '\x27' then some { account with quoted := !account.quoted }
  else if account.quoted then some account
  else if c == '(' then some { account with depth := account.depth + 1 }
  else if c == ')' then
    match account.depth with
    | 0 => none
    | outer + 1 => some { account with depth := outer }
  else some account

/-- The account behind a text. -/
def behind? (account : Account) (text : List Char) : Option Account :=
  text.foldlM next? account

@[simp]
theorem behind?_nil (account : Account) : account.behind? [] = some account :=
  rfl

theorem behind?_cons (account : Account) (c : Char) (rest : List Char) :
    account.behind? (c :: rest) = (account.next? c).bind (·.behind? rest) :=
  rfl

theorem behind?_append (account : Account) (front back : List Char) :
    account.behind? (front ++ back) = (account.behind? front).bind (·.behind? back) :=
  List.foldlM_append

theorem next?_eq_none_iff {account : Account} {c : Char} :
    account.next? c = none ↔ account = even ∧ c = ')' := by
  rcases account with ⟨quoted, depth⟩
  by_cases quote : c = '\x27'
  · simp [next?, quote]
  · by_cases opening : c = '('
    · cases quoted <;> simp [next?, opening]
    · by_cases closing : c = ')'
      · cases quoted <;> cases depth <;> simp [next?, even, closing]
      · cases quoted <;> simp [next?, quote, opening, closing]

end Account

/-- A body ends at the first parenthesis that closes nothing. -/
theorem splitBody_cons (account : Account) (c : Char) (rest : List Char) :
    splitBody account.quoted account.depth (c :: rest) =
      match account.next? c with
      | none => some ([], rest)
      | some next => (splitBody next.quoted next.depth rest).map fun (body, after) =>
          (c :: body, after) := by
  rcases account with ⟨quoted, depth⟩
  simp only [splitBody, Account.next?]
  split
  · rfl
  · split
    · rfl
    · split
      · rfl
      · split
        · cases depth <;> rfl
        · rfl

/-- What the scan finds is what ends the account, in front of a closing
parenthesis. -/
theorem splitBody_eq_some_iff_behind? {account : Account} {text body after : List Char} :
    splitBody account.quoted account.depth text = some (body, after) ↔
      account.behind? body = some .even ∧ text = body ++ ')' :: after := by
  induction text generalizing account body with
  | nil => simp [splitBody]
  | cons c rest ih =>
      rw [splitBody_cons]
      cases step : account.next? c with
      | none =>
          obtain ⟨rfl, rfl⟩ := Account.next?_eq_none_iff.mp step
          cases body with
          | nil => simp [eq_comm]
          | cons d more =>
              simp only [Option.some.injEq, Prod.mk.injEq, List.nil_eq, List.cons_ne_nil,
                false_and, false_iff, not_and]
              rintro ends spelled
              obtain ⟨rfl, -⟩ := List.cons.inj spelled
              rw [Account.behind?_cons, step] at ends
              contradiction
      | some next =>
          cases body with
          | nil =>
              simp only [Option.map_eq_some_iff, Prod.mk.injEq, List.cons_ne_nil, false_and,
                and_false, exists_const, false_iff, not_and]
              rintro ends spelled
              obtain ⟨rfl, -⟩ := List.cons.inj spelled
              obtain rfl := Option.some.inj ends
              contradiction
          | cons d more =>
              simp only [Option.map_eq_some_iff, Prod.mk.injEq, List.cons.injEq, List.cons_append]
              constructor
              · rintro ⟨⟨found, later⟩, scanned, ⟨rfl, rfl⟩, rfl⟩
                obtain ⟨ends, spelled⟩ := ih.mp scanned
                rw [Account.behind?_cons, step]
                exact ⟨ends, rfl, spelled⟩
              · rintro ⟨ends, rfl, spelled⟩
                rw [Account.behind?_cons, step] at ends
                exact ⟨(more, after), ih.mpr ⟨ends, spelled⟩, ⟨rfl, rfl⟩, rfl⟩

/-- A character that the account depends on. -/
def isNestingSign (c : Char) : Bool :=
  c == '\x27' || c == '(' || c == ')'

namespace Account

theorem next?_of_plain {c : Char} (plain : isNestingSign c = false) (account : Account) :
    account.next? c = some account := by
  simp only [isNestingSign, Bool.or_eq_false_iff] at plain
  obtain ⟨⟨notQuote, notOpening⟩, notClosing⟩ := plain
  simp [next?, notQuote, notOpening, notClosing]

/-- Other characters do not change the account. -/
theorem behind?_filter (account : Account) (text : List Char) :
    account.behind? (text.filter isNestingSign) = account.behind? text := by
  induction text generalizing account with
  | nil => rfl
  | cons c rest ih =>
      cases sign : isNestingSign c with
      | true =>
          rw [List.filter_cons_of_pos sign, behind?_cons, behind?_cons]
          exact congrArg _ (funext ih)
      | false =>
          rw [List.filter_cons_of_neg (by simp [sign]), behind?_cons, next?_of_plain sign, ih]
          rfl

/-- Inside a literal nothing but its end counts. -/
theorem behind?_literal (account : Account) (quoted : account.quoted = true) {content : List Char}
    (unquoted : '\x27' ∉ content) : account.behind? content = some account := by
  induction content with
  | nil => rfl
  | cons c rest ih =>
      rw [List.mem_cons, not_or] at unquoted
      have step : account.next? c = some account := by
        simp [next?, quoted, Ne.symm unquoted.1]
      rw [behind?_cons, step]
      exact ih unquoted.2

end Account

/-! ## Balanced texts -/

/-- A text whose literals are closed, and whose parentheses are well nested
outside of them.  `commas` tells whether commas may stand outside of both. -/
inductive Balanced : Bool → List Char → Prop
  | nil {commas : Bool} : Balanced commas []
  | sign {commas : Bool} {c : Char} {rest : List Char} (plain : isNestingSign c = false)
      (separates : c = ',' → commas = true) (later : Balanced commas rest) :
      Balanced commas (c :: rest)
  | literal {commas : Bool} {content rest : List Char} (unquoted : '\x27' ∉ content)
      (later : Balanced commas rest) : Balanced commas ('\x27' :: (content ++ '\x27' :: rest))
  | group {commas : Bool} {inside rest : List Char} (within : Balanced true inside)
      (later : Balanced commas rest) : Balanced commas ('(' :: (inside ++ ')' :: rest))

namespace Balanced

variable {commas : Bool} {text : List Char}

theorem append {front back : List Char} (first : Balanced commas front)
    (second : Balanced commas back) : Balanced commas (front ++ back) := by
  induction first with
  | nil => exact second
  | sign plain separates _ ih => exact .sign plain separates (ih second)
  | literal unquoted _ ih =>
      rw [List.cons_append, List.append_assoc]
      exact .literal unquoted (ih second)
  | group within _ _ ih =>
      rw [List.cons_append, List.append_assoc]
      exact .group within (ih second)

/-- Balanced parts are balanced together. -/
theorem flatMap {α : Type} {parts : List α} {chars : α → List Char}
    (each : ∀ part ∈ parts, Balanced commas (chars part)) :
    Balanced commas (parts.flatMap chars) :=
  flatMap_of_append .nil append each

theorem plain (each : ∀ c ∈ text, isNestingSign c = false ∧ c ≠ ',') : Balanced commas text := by
  induction text with
  | nil => exact .nil
  | cons c rest ih =>
      rw [List.forall_mem_cons] at each
      exact .sign each.1.1 (fun comma => absurd comma each.1.2) (ih each.2)

/-- A balanced text leaves the account of the scan as it was. -/
theorem behind? (balanced : Balanced commas text) (depth : Nat) :
    (⟨false, depth⟩ : Account).behind? text = some ⟨false, depth⟩ := by
  induction balanced generalizing depth with
  | nil => rfl
  | sign plain _ _ ih => rw [Account.behind?_cons, Account.next?_of_plain plain]; exact ih depth
  | literal unquoted _ ih =>
      have inside : (⟨true, depth⟩ : Account).behind? _ = _ :=
        Account.behind?_literal _ rfl unquoted
      rw [Account.behind?_cons]
      change (⟨true, depth⟩ : Account).behind? _ = _
      rw [Account.behind?_append, inside]
      exact ih depth
  | group _ _ inner ih =>
      rw [Account.behind?_cons]
      change (⟨false, depth + 1⟩ : Account).behind? _ = _
      rw [Account.behind?_append, inner]
      exact ih depth

/-- Quotes stand in pairs. -/
theorem even_count_quotes (balanced : Balanced commas text) : text.count '\x27' % 2 = 0 := by
  induction balanced with
  | nil => rfl
  | @sign commas c rest plain _ _ ih =>
      have other : c ≠ '\x27' := by
        rintro rfl
        contradiction
      rw [List.count_cons_of_ne other, ih]
  | literal unquoted _ ih =>
      have content := List.count_eq_zero.mpr unquoted
      rw [List.count_cons_self, List.count_append, List.count_cons_self, content]
      omega
  | group _ _ inner ih =>
      rw [List.count_cons_of_ne (by decide), List.count_append, List.count_cons_of_ne (by decide)]
      omega

end Balanced

/-- A text that closes what an account has open. -/
inductive Closes : Account → List Char → Prop
  | balanced {text : List Char} (balanced : Balanced true text) : Closes .even text
  | literal {depth : Nat} {content rest : List Char} (unquoted : '\x27' ∉ content)
      (later : Closes ⟨false, depth⟩ rest) : Closes ⟨true, depth⟩ (content ++ '\x27' :: rest)
  | group {depth : Nat} {inside rest : List Char} (within : Balanced true inside)
      (later : Closes ⟨false, depth⟩ rest) : Closes ⟨false, depth + 1⟩ (inside ++ ')' :: rest)

namespace Closes

variable {depth : Nat} {rest : List Char}

/-- Balanced text does not count, wherever it stands outside of literals. -/
theorem prepend {front : List Char} (first : Balanced true front)
    (closes : Closes ⟨false, depth⟩ rest) : Closes ⟨false, depth⟩ (front ++ rest) := by
  cases closes with
  | balanced balanced => exact .balanced (first.append balanced)
  | group within later =>
      rw [← List.append_assoc]
      exact .group (first.append within) later

/-- What is closed before a character is what is closed behind it, and what the
character itself opens. -/
theorem cons {account next : Account} {c : Char} (step : account.next? c = some next)
    (closes : Closes next rest) : Closes account (c :: rest) := by
  rcases account with ⟨quoted, depth⟩
  by_cases quote : c = '\x27'
  · subst quote
    obtain rfl : ⟨!quoted, depth⟩ = next := Option.some.inj step
    cases quoted with
    | false =>
        cases closes with
        | literal unquoted later => simpa using prepend (.literal unquoted .nil) later
    | true => exact @literal depth [] rest List.not_mem_nil closes
  · cases quoted with
    | true =>
        obtain rfl : ⟨true, depth⟩ = next := by simpa [Account.next?, quote] using step
        cases closes with
        | literal unquoted later =>
            rw [← List.cons_append]
            refine .literal ?_ later
            rw [List.mem_cons, not_or]
            exact ⟨Ne.symm quote, unquoted⟩
    | false =>
        by_cases opening : c = '('
        · subst opening
          obtain rfl : ⟨false, depth + 1⟩ = next := Option.some.inj step
          cases closes with
          | group within later => simpa using prepend (.group within .nil) later
        · by_cases closing : c = ')'
          · subst closing
            cases depth with
            | zero => contradiction
            | succ outer =>
                obtain rfl : ⟨false, outer⟩ = next := Option.some.inj step
                exact @group outer [] rest .nil closes
          · have plain : isNestingSign c = false := by
              simp [isNestingSign, quote, opening, closing]
            rw [Account.next?_of_plain plain] at step
            obtain rfl := Option.some.inj step
            exact prepend (.sign plain (fun _ => rfl) .nil) closes

/-- What ends an account closes what it has open. -/
theorem of_behind? {account : Account} {text : List Char}
    (ends : account.behind? text = some .even) : Closes account text := by
  induction text generalizing account with
  | nil =>
      obtain rfl := Option.some.inj ends
      exact .balanced .nil
  | cons c rest ih =>
      rw [Account.behind?_cons, Option.bind_eq_some_iff] at ends
      obtain ⟨next, step, endsLater⟩ := ends
      exact cons step (ih endsLater)

end Closes

/-- A text is balanced exactly if the scan ends where it began. -/
theorem balanced_iff_behind? {text : List Char} :
    Balanced true text ↔ Account.even.behind? text = some .even := by
  constructor
  · intro balanced
    exact balanced.behind? 0
  · intro ends
    cases Closes.of_behind? ends with
    | balanced balanced => exact balanced

instance (text : List Char) : Decidable (Balanced true text) :=
  decidable_of_iff _ balanced_iff_behind?.symm

/-- Only quotes and parentheses count. -/
theorem balanced_filter_iff {text : List Char} :
    Balanced true (text.filter isNestingSign) ↔ Balanced true text := by
  rw [balanced_iff_behind?, balanced_iff_behind?, Account.behind?_filter]

/-- A body is what is balanced in front of a closing parenthesis. -/
theorem splitBody_eq_some_iff {text body after : List Char} :
    splitBody false 0 text = some (body, after) ↔
      Balanced true body ∧ text = body ++ ')' :: after := by
  rw [balanced_iff_behind?]
  exact @splitBody_eq_some_iff_behind? .even text body after

/-- Whether some beginning of a text, other than the empty one, is balanced. -/
def HasBalancedPrefix (text : List Char) : Prop :=
  ∃ front, front ≠ [] ∧ front <+: text ∧ Balanced false front

/-- The scan from a parenthesis fails exactly if no text that begins with it is
balanced. -/
theorem splitBody_eq_none_iff {opened : List Char} :
    splitBody false 0 opened = none ↔ ¬HasBalancedPrefix ('(' :: opened) := by
  constructor
  · rintro unclosed ⟨front, nonempty, ⟨back, spelled⟩, balanced⟩
    cases balanced with
    | nil => contradiction
    | sign plain =>
        obtain ⟨rfl, -⟩ := List.cons.inj spelled
        contradiction
    | literal => exact absurd (List.cons.inj spelled).1 (by decide)
    | @group _ inside rest within _ =>
        have closed : splitBody false 0 opened = some (inside, rest ++ back) := by
          apply splitBody_eq_some_iff.mpr
          simpa [eq_comm, within] using spelled
        rw [unclosed] at closed
        contradiction
  · intro unbalanced
    by_contra closed
    obtain ⟨⟨body, after⟩, found⟩ := Option.ne_none_iff_exists'.mp closed
    obtain ⟨balanced, rfl⟩ := splitBody_eq_some_iff.mp found
    apply unbalanced
    refine ⟨'(' :: (body ++ [')']), List.cons_ne_nil _ _, ⟨after, by simp⟩, ?_⟩
    exact .group balanced .nil

/-! ## Balanced definitions -/

/-- A balanced text without double quotes carries both scans; its commas must
stand inside parentheses. -/
theorem Balanced.carries {commas : Bool} {text : List Char} {depth : Nat}
    (balanced : Balanced commas text) (noDouble : '\x22' ∉ text)
    (inside : commas = true → depth ≠ 0) : Carries false depth text false depth := by
  induction balanced generalizing depth with
  | nil => exact .nil
  | @sign commas c rest plain separates _ ih =>
      rw [List.mem_cons, not_or] at noDouble
      have first : Carries false depth [c] false depth := by
        by_cases comma : c = ','
        · subst comma
          obtain ⟨outer, rfl⟩ := Nat.exists_eq_succ_of_ne_zero (inside (separates rfl))
          exact .innerComma
        · simp only [isNestingSign, Bool.or_eq_false_iff, beq_eq_false_iff_ne] at plain
          apply Carries.ordinary
          simp [isOrdinary, plain, comma, Ne.symm noDouble.1]
      exact first.append (ih noDouble.2 inside)
  | literal unquoted _ ih =>
      have later := ih (by simp_all) inside
      have content : Carries true depth _ true depth :=
        .all fun c member => .inQuotes fun quote => unquoted (quote ▸ member)
      simpa using Carries.openingQuote.append (content.append (Carries.closingQuote.append later))
  | group _ _ inner ih =>
      have within : Carries false (depth + 1) _ false (depth + 1) :=
        inner (by simp_all) fun _ => Nat.succ_ne_zero depth
      have later := ih (by simp_all) inside
      simpa using Carries.opening.append (within.append (Carries.closing.append later))

/-- A definition that ends where it should for both scans. -/
structure BalancedDefinition where
  text : String
  balanced : Balanced false text.toList
  noDouble : '\x22' ∉ text.toList
  nonblank : strip text.toList ≠ []

namespace BalancedDefinition

theorem carries (definition : BalancedDefinition) :
    Carries false 0 definition.text.toList false 0 :=
  definition.balanced.carries definition.noDouble (fun commas => absurd commas (by decide))

/-- The body of some definitions. -/
def body (definitions : List BalancedDefinition) : List Char :=
  (joined "," (definitions.map text)).toList

end BalancedDefinition

/-- The end of a body and the cuts in it are found alike.  A body of balanced
definitions reaches up to the parenthesis behind them, and is cut into just these
definitions.  A table statement is an error exactly if nothing that begins with
its opening parenthesis is balanced; otherwise reading goes on behind its
body. -/
theorem splitBody_agrees_definitions :
    (∀ (declared : List BalancedDefinition) (after : List Char),
      splitBody false 0 (BalancedDefinition.body declared ++ ')' :: after) =
          some (BalancedDefinition.body declared, after) ∧
        definitions (BalancedDefinition.body declared) =
          declared.map fun definition => strip definition.text.toList) ∧
    (∀ opened, splitBody false 0 opened = none ↔ ¬HasBalancedPrefix ('(' :: opened)) ∧
    ∀ text qualified opened, find? tableStatement? text = some (qualified, opened) →
      (¬HasBalancedPrefix ('(' :: opened) →
        tables text = .error (.openTable (String.ofList (unqualified qualified)))) ∧
      (HasBalancedPrefix ('(' :: opened) → ∃ body after,
        Balanced true body ∧ opened = body ++ ')' :: after ∧
          tables text = (tables after).map (tableOf (unqualified qualified) body :: ·)) := by
  refine ⟨?_, fun _ => splitBody_eq_none_iff, ?_⟩
  · intro declared after
    have whole : ∀ text ∈ declared.map BalancedDefinition.text,
        IsWhole text.toList ∧ strip text.toList ≠ [] := by
      rw [List.forall_mem_map]
      exact fun definition _ => ⟨definition.carries.isWhole, definition.nonblank⟩
    have closed : ∀ text ∈ declared.map BalancedDefinition.text, IsClosed text.toList := by
      rw [List.forall_mem_map]
      exact fun definition _ => definition.carries.isClosed
    have cut := definitions_joined "" (by decide) whole
    rw [List.map_map] at cut
    exact ⟨splitBody_joined (isClosed_of_plain (by decide)) closed after, cut⟩
  · intro text qualified opened found
    constructor
    · intro unbalanced
      exact tables_of_open found (splitBody_eq_none_iff.mpr unbalanced)
    · intro balanced
      have closed : splitBody false 0 opened ≠ none := by
        rw [ne_eq, splitBody_eq_none_iff, not_not]
        exact balanced
      obtain ⟨⟨body, after⟩, found'⟩ := Option.ne_none_iff_exists'.mp closed
      obtain ⟨within, spelled⟩ := splitBody_eq_some_iff.mp found'
      exact ⟨body, after, within, spelled, tables_of_some found found'⟩

/-- A column whose default shows a parenthesis and a comma. -/
def BalancedDefinition.signs : BalancedDefinition where
  text := "a TEXT DEFAULT '),' "
  balanced := by
    have front : Balanced false "a TEXT DEFAULT ".toList := .plain (by decide)
    have blank : Balanced false [' '] := .plain (by decide)
    have literal : Balanced false "'),' ".toList :=
      .literal (by decide : '\x27' ∉ "),".toList) blank
    exact front.append literal
  noDouble := by decide
  nonblank := by decide

/-- A column whose type shows a comma. -/
def BalancedDefinition.decimal : BalancedDefinition where
  text := " b NUMERIC(8, 2)"
  balanced := by
    have front : Balanced false " b NUMERIC".toList := .plain (by decide)
    exact front.append (.group (by decide : Balanced true "8, 2".toList) .nil)
  noDouble := by decide
  nonblank := by decide

/-- The signs in a literal are not counted; a parenthesis that nothing closes is an
error. -/
theorem splitBody_agrees_signs :
    splitBody false 0 "a TEXT DEFAULT '),' , b NUMERIC(8, 2)) ENGINE".toList =
        some ("a TEXT DEFAULT '),' , b NUMERIC(8, 2)".toList, " ENGINE".toList) ∧
      definitions "a TEXT DEFAULT '),' , b NUMERIC(8, 2)".toList =
        ["a TEXT DEFAULT '),'".toList, "b NUMERIC(8, 2)".toList] ∧
      tables "CREATE TABLE t (a TEXT DEFAULT ');'".toList = .error (.openTable "t") := by
  obtain ⟨agrees, unclosed, statement⟩ := splitBody_agrees_definitions
  obtain ⟨body, cut⟩ := agrees [.signs, .decimal] " ENGINE".toList
  have unbalanced := (unclosed "a TEXT DEFAULT ');'".toList).mp (by decide)
  have found : find? tableStatement? "CREATE TABLE t (a TEXT DEFAULT ');'".toList =
      some ("t".toList, "a TEXT DEFAULT ');'".toList) := by
    decide +kernel
  exact ⟨body, cut, (statement _ _ _ found).1 unbalanced⟩

end Crowsfoot.Sql
