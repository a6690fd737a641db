import Mathlib.Data.List.Basic
import Mathlib.Data.List.Forall2

/-!
# Lists that are put together from parts

Tables, columns and relationships are read part by part.  What is read is what
is expected exactly if every part is, as soon as no part can stand in for
another.
-/

namespace Crowsfoot

/-- Lists that are put together from parts are the same exactly if all parts are
alike: parts that are not begin differently. -/
theorem flatMap_eq_flatMap_iff_alike {α β : Type} {parts : List α} {first second : α → List β}
    (alike : α → Prop) (same : ∀ part ∈ parts, alike part → first part = second part)
    (differs : ∀ part ∈ parts, ¬alike part → ∃ one later other more,
      first part = one :: later ∧ second part = other :: more ∧ one ≠ other) :
    parts.flatMap first = parts.flatMap second ↔ ∀ part ∈ parts, alike part := by
  induction parts with
  | nil => simp
  | cons part rest ih =>
      have restIff := ih (fun other member => same other (List.mem_cons_of_mem _ member))
        (fun other member => differs other (List.mem_cons_of_mem _ member))
      rw [List.flatMap_cons, List.flatMap_cons, List.forall_mem_cons]
      by_cases here : alike part
      · rw [same part List.mem_cons_self here, List.append_cancel_left_eq, restIff]
        simp [here]
      · obtain ⟨one, later, other, more, oneFirst, otherFirst, different⟩ :=
          differs part List.mem_cons_self here
        rw [oneFirst, otherFirst]
        simp [here, different]

/-- Lists that are read part by part are the expected ones exactly if every
part is: a part that is not begins with something else. -/
theorem flatMap_eq_map_iff {α β : Type} {parts : List α} {read : α → List β} {expected : α → β}
    (faithful : α → Prop) (kept : ∀ part ∈ parts, faithful part → read part = [expected part])
    (lost : ∀ part ∈ parts, ¬faithful part →
      ∃ wrong later, read part = wrong :: later ∧ wrong ≠ expected part) :
    parts.flatMap read = parts.map expected ↔ ∀ part ∈ parts, faithful part := by
  rw [List.map_eq_flatMap]
  apply flatMap_eq_flatMap_iff_alike faithful kept
  intro part member other
  obtain ⟨wrong, later, first, different⟩ := lost part member other
  exact ⟨wrong, later, _, [], first, rfl, different⟩

/-- What holds of all parts holds of them together, if it holds of nothing and of
two texts together. -/
theorem flatMap_of_append {α β : Type} {motive : List β → Prop} (nil : motive [])
    (append : ∀ {front back}, motive front → motive back → motive (front ++ back))
    {parts : List α} {made : α → List β} (each : ∀ part ∈ parts, motive (made part)) :
    motive (parts.flatMap made) := by
  induction parts with
  | nil => exact nil
  | cons part later ih =>
      rw [List.forall_mem_cons] at each
      rw [List.flatMap_cons]
      exact append each.1 (ih each.2)

theorem length_flatMap_le {α β : Type} {parts : List α} {shorter longer : α → List β}
    (le : ∀ part ∈ parts, (shorter part).length ≤ (longer part).length) :
    (parts.flatMap shorter).length ≤ (parts.flatMap longer).length := by
  induction parts with
  | nil => simp
  | cons part later ih =>
      have here := le part List.mem_cons_self
      have behind := ih fun other member => le other (List.mem_cons_of_mem _ member)
      rw [List.flatMap_cons, List.flatMap_cons, List.length_append, List.length_append]
      omega

/-- Lists that are put together from parts, none shorter than expected, are the
expected ones exactly if every part is. -/
theorem flatMap_eq_flatMap_iff {α β : Type} {parts : List α} {actual expected : α → List β}
    (le : ∀ part ∈ parts, (expected part).length ≤ (actual part).length) :
    parts.flatMap actual = parts.flatMap expected ↔
      ∀ part ∈ parts, actual part = expected part := by
  constructor
  · intro same
    induction parts with
    | nil => simp
    | cons part later ih =>
        have laterLe : ∀ other ∈ later, (expected other).length ≤ (actual other).length :=
          fun other member => le other (List.mem_cons_of_mem _ member)
        have here := le part List.mem_cons_self
        have behind := length_flatMap_le laterLe
        have lengths := congrArg List.length same
        rw [List.flatMap_cons, List.flatMap_cons] at same lengths
        rw [List.length_append, List.length_append] at lengths
        obtain ⟨first, rest⟩ := List.append_inj same (by omega)
        rw [List.forall_mem_cons]
        exact ⟨first, ih laterLe rest⟩
  · exact List.flatMap_congr

/-- Kept answers are the expected ones exactly if every answer is, where none
is kept without being expected. -/
theorem filterMap_eq_filterMap_iff {α β : Type} {parts : List α} {actual expected : α → Option β}
    (kept : ∀ part ∈ parts, (actual part).isSome → (expected part).isSome) :
    parts.filterMap actual = parts.filterMap expected ↔
      ∀ part ∈ parts, actual part = expected part := by
  have lengths : ∀ part ∈ parts,
      ((actual part).toList).length ≤ ((expected part).toList).length := by
    intro part member
    have here := kept part member
    cases found : actual part with
    | none => simp
    | some answer =>
        rw [found] at here
        obtain ⟨other, wanted⟩ := Option.isSome_iff_exists.mp (here rfl)
        simp [wanted]
  have same : ∀ part, (expected part).toList = (actual part).toList ↔
      actual part = expected part := by
    intro part
    cases actual part <;> cases expected part <;> simp [eq_comm]
  rw [List.filterMap_eq_flatMap_toList, List.filterMap_eq_flatMap_toList, eq_comm,
    flatMap_eq_flatMap_iff lengths]
  exact forall₂_congr fun part _ => same part

/-- A list that is cut at an element of two lists in a row is cut in one of them. -/
theorem append_eq_append_cons {α : Type} {first second front back : List α} {a : α}
    (same : first ++ second = front ++ a :: back) :
    (∃ rest, first = front ++ a :: rest ∧ back = rest ++ second) ∨
      ∃ later, front = first ++ later ∧ second = later ++ a :: back := by
  rcases List.append_eq_append_iff.mp same with ⟨later, rfl, spelled⟩ | ⟨rest, rfl, spelled⟩
  · exact .inr ⟨later, rfl, spelled⟩
  · cases rest with
    | nil => exact .inr ⟨[], by simp, spelled.symm⟩
    | cons c more =>
        obtain ⟨rfl, behind⟩ := List.cons.inj spelled
        exact .inl ⟨more, rfl, behind⟩

/-! ## Parts that are read one after the other -/

theorem exists_of_bind {α β ε : Type} {reading : Except ε α} {next : α → Except ε β} {answer : β}
    (succeeded : reading >>= next = .ok answer) :
    ∃ first, reading = .ok first ∧ next first = .ok answer := by
  cases reading with
  | error cause => contradiction
  | ok first => exact ⟨first, rfl, succeeded⟩

/-- What is read item by item comes from the items in order. -/
theorem forall₂_of_mapM {α β ε : Type} {read : α → Except ε β} {related : α → β → Prop}
    (sound : ∀ item answer, read item = .ok answer → related item answer) {items : List α}
    {answers : List β} (succeeded : items.mapM read = .ok answers) :
    List.Forall₂ related items answers := by
  induction items generalizing answers with
  | nil =>
      obtain rfl : [] = answers := Except.ok.inj succeeded
      exact .nil
  | cons item later ih =>
      rw [List.mapM_cons] at succeeded
      obtain ⟨answer, first, further⟩ := exists_of_bind succeeded
      obtain ⟨behind, rest, same⟩ := exists_of_bind further
      obtain rfl : answer :: behind = answers := Except.ok.inj same
      exact .cons (sound item answer first) (ih rest)

theorem exists_of_mem_forall₂ {α β : Type} {related : α → β → Prop} {items : List α}
    {answers : List β} (all : List.Forall₂ related items answers) {answer : β}
    (member : answer ∈ answers) : ∃ item ∈ items, related item answer := by
  induction all with
  | nil => contradiction
  | cons first _ ih =>
      rcases List.mem_cons.mp member with rfl | inLater
      · exact ⟨_, List.mem_cons_self, first⟩
      · obtain ⟨item, inItems, isRelated⟩ := ih inLater
        exact ⟨item, List.mem_cons_of_mem _ inItems, isRelated⟩

theorem map_eq_of_forall₂ {α β γ : Type} {related : α → β → Prop} {items : List α}
    {answers : List β} (all : List.Forall₂ related items answers) {given : α → γ} {view : β → γ}
    (same : ∀ item answer, related item answer → view answer = given item) :
    answers.map view = items.map given := by
  induction all with
  | nil => rfl
  | cons first _ ih => rw [List.map_cons, List.map_cons, same _ _ first, ih]

/-- The first parts of a kind correspond, where corresponding parts are of one
kind. -/
theorem find?_of_forall₂ {α β : Type} {related : α → β → Prop} {items : List α}
    {answers : List β} (all : List.Forall₂ related items answers) {kind : α → Bool}
    {other : β → Bool} (same : ∀ item answer, related item answer → kind item = other answer) :
    Option.Rel (fun item answer => related item answer ∧ kind item = true) (items.find? kind)
      (answers.find? other) := by
  induction all with
  | nil => exact .none
  | @cons item answer _ _ first _ ih =>
      rw [List.find?_cons, List.find?_cons, ← same _ _ first]
      cases found : kind item with
      | true => exact .some ⟨first, found⟩
      | false => exact ih

theorem eq_of_rel {α : Type} {related : α → α → Prop} {first second : Option α}
    (found : Option.Rel related first second) (same : ∀ a b, related a b → a = b) :
    first = second := by
  cases found with
  | none => rfl
  | some here => rw [same _ _ here]

/-- Corresponding parts with the same answers are answered alike. -/
theorem filterMap_of_forall₂ {α β γ : Type} {items : List α} {others : List β}
    {first : α → Option γ} {second : β → Option γ}
    (all : List.Forall₂ (fun item other => first item = second other) items others) :
    items.filterMap first = others.filterMap second := by
  induction all with
  | nil => rfl
  | cons same _ ih => rw [List.filterMap_cons, List.filterMap_cons, same, ih]

/-- Two readings that end alike: in the same error, or both in an answer, which is
the same exactly if something holds. -/
inductive EndAlike {ε β : Type} (kept : Prop) : Except ε β → Except ε β → Prop
  | error (cause : ε) : EndAlike kept (.error cause) (.error cause)
  | ok {answer other : β} (same : answer = other ↔ kept) : EndAlike kept (.ok answer) (.ok other)

theorem EndAlike.eq_of {ε β : Type} {kept : Prop} {first second : Except ε β}
    (alike : EndAlike kept first second) (holds : kept) : first = second := by
  cases alike with
  | error cause => rfl
  | ok same => rw [same.mpr holds]

/-- Lists whose parts are read alike are. -/
theorem endAlike_mapM {α ε β : Type} {read : α → Except ε β} {kept : α → α → Prop}
    {items others : List α}
    (all : List.Forall₂ (fun item other => EndAlike (kept item other) (read item) (read other))
      items others) :
    EndAlike (List.Forall₂ kept items others) (items.mapM read) (others.mapM read) := by
  induction all with
  | nil => exact .ok (iff_of_true rfl .nil)
  | @cons item other rest more alike _ ih =>
      rw [List.mapM_cons, List.mapM_cons]
      generalize read item = first at alike ⊢
      generalize read other = second at alike ⊢
      generalize rest.mapM read = later at ih ⊢
      generalize more.mapM read = behind at ih ⊢
      cases alike with
      | error cause => exact .error cause
      | ok same =>
          cases ih with
          | error cause => exact .error cause
          | ok restSame =>
              refine .ok ?_
              rw [List.cons.injEq, same, restSame, List.forall₂_cons]

section Names

variable {α : Type} {key : α → String}

/-- What may stand for corresponding parts: one answer, or their name. -/
def NamedAlike (key : α → String) (first second : α → Option String) (item other : α) : Prop :=
  key item = key other ∧
    (first item = second other ∨ first item = some (key item) ∨ second other = some (key item))

theorem NamedAlike.symm {first second : α → Option String} {item other : α}
    (alike : NamedAlike key first second item other) : NamedAlike key second first other item := by
  obtain ⟨same, answers⟩ := alike
  refine ⟨same.symm, ?_⟩
  rw [← same]
  exact answers.imp Eq.symm Or.symm

/-- Answers that have fallen behind do not catch up, since names are not
repeated. -/
theorem filterMap_ne_append {first second : α → Option String} {items others : List α}
    (all : List.Forall₂ (NamedAlike key first second) items others)
    (distinct : (items.map key).Nodup) {behind : List String} (nonempty : behind ≠ [])
    (apart : ∀ answer ∈ behind, answer ∉ items.map key) :
    items.filterMap first ≠ behind ++ others.filterMap second := by
  induction all generalizing behind with
  | nil => exact fun same => nonempty (List.append_eq_nil_iff.mp same.symm).1
  | @cons item other rest more alike _ ih =>
      rw [List.map_cons, List.nodup_cons] at distinct
      have later : ∀ answer ∈ behind, answer ∉ rest.map key := fun answer member inRest =>
        apart answer member (List.mem_cons_of_mem _ inRest)
      obtain ⟨-, answers⟩ := alike
      rw [List.filterMap_cons, List.filterMap_cons]
      intro same
      cases answered : first item with
      | none =>
          rw [answered] at same answers
          cases opposite : second other with
          | none =>
              rw [opposite] at same
              exact ih distinct.2 nonempty later same
          | some name =>
              rw [opposite] at same answers
              obtain rfl : name = key item := by simpa using answers
              refine ih distinct.2 (List.append_ne_nil_of_right_ne_nil behind
                (List.cons_ne_nil (key item) [])) ?_ (by simpa using same)
              intro answer member
              rcases List.mem_append.mp member with inBehind | isKey
              · exact later answer inBehind
              · rw [List.mem_singleton.mp isKey]
                exact distinct.1
      | some answer =>
          obtain ⟨oldest, tail, rfl⟩ := List.exists_cons_of_ne_nil nonempty
          rw [answered] at same answers
          obtain ⟨rfl, rests⟩ := List.cons.inj same
          have notKey : answer ≠ key item := fun isKey =>
            apart answer List.mem_cons_self (isKey ▸ List.mem_cons_self)
          -- the answer is overdue, so the other one is it again, or the name
          obtain ⟨next, opposite, allowed⟩ : ∃ next, second other = some next ∧
              next ∉ rest.map key := by
            rcases answers with equal | isKey | isKey
            · exact ⟨answer, equal.symm, later answer List.mem_cons_self⟩
            · exact absurd (Option.some.inj isKey) notKey
            · exact ⟨key item, isKey, distinct.1⟩
          rw [opposite] at rests
          refine ih distinct.2 (List.append_ne_nil_of_right_ne_nil tail (List.cons_ne_nil next []))
            ?_ (by simpa using rests)
          intro waiting member
          rcases List.mem_append.mp member with inTail | isNext
          · exact later waiting (List.mem_cons_of_mem _ inTail)
          · rw [List.mem_singleton.mp isNext]
            exact allowed

/-- Parts with distinct names that are answered with the same list are answered
alike, if an answer may be missing, or the name of its part. -/
theorem forall₂_of_filterMap_eq {first second : α → Option String} {items others : List α}
    (all : List.Forall₂ (NamedAlike key first second) items others)
    (distinct : (items.map key).Nodup)
    (same : items.filterMap first = others.filterMap second) :
    List.Forall₂ (fun item other => first item = second other) items others := by
  induction all with
  | nil => exact .nil
  | @cons item other rest more alike behind ih =>
      have keys : (more.map key) = rest.map key :=
        map_eq_of_forall₂ behind fun _ _ alike => alike.1.symm
      rw [List.map_cons, List.nodup_cons] at distinct
      rw [List.filterMap_cons, List.filterMap_cons] at same
      have here : first item = second other := by
        obtain ⟨sameKey, answers⟩ := alike
        cases answered : first item with
        | none =>
            rw [answered] at same answers
            cases opposite : second other with
            | none => rfl
            | some name =>
                rw [opposite] at same answers
                obtain rfl : name = key item := by simpa using answers
                have late : ∀ answer ∈ [key item], answer ∉ rest.map key := by
                  simpa using distinct.1
                exact absurd same (filterMap_ne_append behind distinct.2
                  (List.cons_ne_nil (key item) []) late)
        | some answer =>
            rw [answered] at same answers
            cases opposite : second other with
            | none =>
                rw [opposite] at same answers
                obtain rfl : answer = key item := by simpa using answers
                have late : ∀ answer ∈ [key item], answer ∉ more.map key := by
                  rw [keys]
                  simpa using distinct.1
                have flipped : List.Forall₂ (NamedAlike key second first) more rest :=
                  behind.flip.imp fun _ _ alike => NamedAlike.symm alike
                exact absurd same.symm (filterMap_ne_append flipped (keys ▸ distinct.2)
                  (List.cons_ne_nil (key item) []) late)
            | some name =>
                rw [opposite] at same
                rw [(List.cons.inj same).1]
      refine .cons here (ih distinct.2 ?_)
      rw [here] at same
      split at same
      · exact same
      · exact (List.cons.inj same).2

end Names

end Crowsfoot
