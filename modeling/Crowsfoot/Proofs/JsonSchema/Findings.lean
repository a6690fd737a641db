import Mathlib.Data.List.Basic
import Crowsfoot.JsonSchema.Canonical
import Crowsfoot.JsonSchema.Issues
import Crowsfoot.Proofs.Assoc

/-!
# Findings part by part

What holding a value to a constraint comes across is put together from what
the parts of the value come across.  A report keeps of a violation what its
issue shows: the message, and the path in names.
-/

namespace Crowsfoot.JsonSchema

open Crowsfoot.Json (Value)
open Crowsfoot.Text (joined)

/-- What the issue of a violation shows. -/
structure Report where
  message : String
  segments : List String
  deriving DecidableEq

namespace Report

/-- A report one step further down. -/
def under (segment : String) (report : Report) : Report :=
  { report with segments := segment :: report.segments }

/-- The issue of a report. -/
def issue (report : Report) : Issue where
  severity := .error
  code := "SCHEMA_VALIDATION_FAILED"
  message := report.message
  path := "/" ++ joined "/" report.segments

end Report

/-- The report of a violation in a value. -/
def Violation.report (value : Value) (violation : Violation) : Report where
  message := violation.message
  segments := pathSegments value violation.path

/-- Holding a value to a constraint comes across violations with these
reports, and across nothing else. -/
def Reports (constraint : Constraint) (value : Value) (reports : List Report) : Prop :=
  ∃ violations : List Violation,
    constraint.findings value = violations.map Except.ok ∧
      violations.map (Violation.report value) = reports

theorem map_under_ok (step : Step) (violations : List Violation) :
    (violations.map Except.ok : List Finding).map (Finding.under step) =
      (violations.map (Violation.under step)).map Except.ok := by
  rw [List.map_map, List.map_map]
  rfl

theorem Reports.silent {constraint : Constraint} {value : Value}
    (none : constraint.findings value = []) : Reports constraint value [] :=
  ⟨[], none, rfl⟩

theorem Reports.all_nil (value : Value) : Reports (.all []) value [] :=
  .silent rfl

theorem Reports.all_cons {part : Constraint} {parts : List Constraint} {value : Value}
    {first later : List Report} (here : Reports part value first)
    (further : Reports (.all parts) value later) :
    Reports (.all (part :: parts)) value (first ++ later) := by
  obtain ⟨violations, found, rfl⟩ := here
  obtain ⟨others, foundLater, rfl⟩ := further
  refine ⟨violations ++ others, ?_, List.map_append⟩
  simp only [Constraint.findings, findingsOfAll] at foundLater ⊢
  rw [found, foundLater, List.map_append]

/-- A part without findings reports nothing. -/
theorem Reports.all_cons_silent {part : Constraint} {parts : List Constraint} {value : Value}
    {reports : List Report} (none : part.findings value = [])
    (further : Reports (.all parts) value reports) :
    Reports (.all (part :: parts)) value reports :=
  .all_cons (.silent none) further

/-- Members of an object that are held to constraints with their names. -/
inductive ReportsMembers :
    List (String × Constraint) → List (String × Value) → List Report → Prop
  | nil : ReportsMembers [] [] []
  | cons {name : String} {constraint : Constraint} {value : Value}
      {constraints : List (String × Constraint)} {members : List (String × Value)}
      {here later : List Report} (first : Reports constraint value here)
      (further : ReportsMembers constraints members later) :
      ReportsMembers ((name, constraint) :: constraints) ((name, value) :: members)
        (here.map (Report.under name) ++ later)

/-- A member that reports nothing. -/
theorem ReportsMembers.cons_silent {name : String} {constraint : Constraint} {value : Value}
    {constraints : List (String × Constraint)} {members : List (String × Value)}
    {later : List Report} (first : Reports constraint value [])
    (further : ReportsMembers constraints members later) :
    ReportsMembers ((name, constraint) :: constraints) ((name, value) :: members) later :=
  .cons first further

theorem ReportsMembers.keys {constraints : List (String × Constraint)}
    {members : List (String × Value)} {reports : List Report}
    (parts : ReportsMembers constraints members reports) :
    Assoc.keys constraints = Assoc.keys members := by
  induction parts with
  | nil => rfl
  | cons _ _ ih => exact congrArg _ ih

/-- Members of an object that holds them under their names report what they
report by themselves. -/
theorem ReportsMembers.within {constraints : List (String × Constraint)}
    {members : List (String × Value)} {reports : List Report}
    (parts : ReportsMembers constraints members reports) {whole : List (String × Value)}
    (held : ∀ entry ∈ members, whole.lookup entry.1 = some entry.2) :
    ∃ violations : List Violation,
      findingsOfMembers constraints whole = violations.map Except.ok ∧
        violations.map (Violation.report (.object whole)) = reports := by
  induction parts with
  | nil => exact ⟨[], rfl, rfl⟩
  | cons first further ih =>
      rename_i name constraint value constraints members here later
      obtain ⟨violations, found, rfl⟩ := first
      obtain ⟨others, foundLater, rfl⟩ := ih fun entry member =>
        held entry (List.mem_cons_of_mem _ member)
      have here : whole.lookup name = some value := held (name, value) List.mem_cons_self
      refine ⟨violations.map (Violation.under (.member name)) ++ others, ?_, ?_⟩
      · simp only [findingsOfMembers, here]
        rw [found, foundLater, map_under_ok, List.map_append]
      · have located (violation : Violation) :
            Violation.report (.object whole) (violation.under (.member name)) =
              (violation.report value).under name := by
          simp [Violation.report, Violation.under, Report.under, pathSegments, Value.get,
            Value.get?, Value.members, here]
        simp only [List.map_append, List.map_map, Function.comp_def, located]

/-- An object with just the declared members, all different, reports what its
members report. -/
theorem Reports.record {required : List String} {constraints : List (String × Constraint)}
    {members : List (String × Value)} {reports : List Report}
    (parts : ReportsMembers constraints members reports) (distinct : (Assoc.keys members).Nodup)
    (complete : ∀ name ∈ required, name ∈ Assoc.keys members) :
    Reports (record required constraints) (.object members) reports := by
  have noneMissing : (Constraint.required required).findings (.object members) = [] := by
    have present : required.filter (fun name => !Assoc.hasKey members name) = [] := by
      rw [List.filter_eq_nil_iff]
      intro name member
      obtain ⟨entry, inMembers, same⟩ := List.mem_map.mp (complete name member)
      simpa [Assoc.hasKey] using ⟨entry.2, same ▸ inMembers⟩
    simp [Constraint.findings, present]
  have noneFurther :
      (Constraint.closed (Assoc.keys constraints)).findings (.object members) = [] := by
    have declared : (Assoc.keys members).filter
        (fun name => !(Assoc.keys constraints).contains name) = [] := by
      rw [List.filter_eq_nil_iff, parts.keys]
      intro name member
      simpa using member
    simp only [Constraint.findings, declared, List.isEmpty_nil, if_true]
  have held (entry : String × Value) (member : entry ∈ members) :
      members.lookup entry.1 = some entry.2 :=
    Assoc.lookup_of_mem distinct member
  obtain ⟨violations, found, rfl⟩ := parts.within held
  have ofMembers : Reports (.members constraints) (.object members)
      (violations.map (Violation.report (.object members))) :=
    ⟨violations, by rw [Constraint.findings, found], rfl⟩
  rw [← List.append_nil (violations.map _)]
  exact .all_cons_silent rfl (.all_cons_silent noneMissing (.all_cons_silent noneFurther
    (.all_cons ofMembers (.all_nil _))))

/-! ## Arrays -/

/-- The items of an array from some index on report what each of them reports
by itself. -/
theorem reports_items {α : Type} {constraint : Constraint} {toJson : α → Value}
    {reports : α → List Report} (parts : List α)
    (each : ∀ part ∈ parts, Reports constraint (toJson part) (reports part))
    (whole : List Value) (index : Nat) (rest : whole.drop index = parts.map toJson) :
    ∃ violations : List Violation,
      findingsOfItems constraint.findings index (parts.map toJson) =
          violations.map Except.ok ∧
        violations.map (Violation.report (.array whole)) =
          (parts.zipIdx index).flatMap fun (part, index) =>
            (reports part).map (Report.under (itemSegment (toJson part) index)) := by
  induction parts generalizing index with
  | nil => exact ⟨[], rfl, rfl⟩
  | cons part parts ih =>
      have here : whole[index]? = some (toJson part) := by
        have first := congrArg List.head? rest
        rwa [List.head?_drop] at first
      have further : whole.drop (index + 1) = parts.map toJson := by
        have later := congrArg List.tail rest
        rwa [List.tail_drop] at later
      obtain ⟨violations, found, reported⟩ := each part List.mem_cons_self
      obtain ⟨others, foundLater, reportedLater⟩ :=
        ih (fun other member => each other (List.mem_cons_of_mem _ member)) (index + 1) further
      refine ⟨violations.map (Violation.under (.item index)) ++ others, ?_, ?_⟩
      · simp only [List.map_cons, findingsOfItems]
        rw [found, foundLater, map_under_ok, List.map_append]
      · have located (violation : Violation) :
            Violation.report (.array whole) (violation.under (.item index)) =
              (violation.report (toJson part)).under (itemSegment (toJson part) index) := by
          simp [Violation.report, Violation.under, Report.under, pathSegments, here]
        rw [List.map_append, reportedLater, List.zipIdx_cons, List.flatMap_cons]
        simp only [← reported, List.map_map, Function.comp_def, located]

theorem Reports.listOf {α : Type} {constraint : Constraint} {toJson : α → Value}
    {reports : α → List Report} {parts : List α}
    (each : ∀ part ∈ parts, Reports constraint (toJson part) (reports part)) :
    Reports (listOf constraint) (.array (parts.map toJson))
      (parts.zipIdx.flatMap fun (part, index) =>
        (reports part).map (Report.under (itemSegment (toJson part) index))) := by
  obtain ⟨violations, found, reported⟩ :=
    reports_items parts each (parts.map toJson) 0 List.drop_zero
  rw [← reported, ← List.append_nil (violations.map _)]
  refine .all_cons_silent rfl (.all_cons ⟨violations, ?_, rfl⟩ (.all_nil _))
  rw [Constraint.findings, found]

/-- Items with names are shown by their names. -/
theorem Reports.listOf_named {α : Type} {constraint : Constraint} {toJson : α → Value}
    {name : α → String} {reports : α → List Report} {parts : List α}
    (named : ∀ part ∈ parts, (toJson part).get "name" = .string (name part) ∧ name part ≠ "")
    (each : ∀ part ∈ parts, Reports constraint (toJson part) (reports part)) :
    Reports (JsonSchema.listOf constraint) (.array (parts.map toJson))
      (parts.flatMap fun part => (reports part).map (Report.under (name part))) := by
  have byName : (parts.zipIdx.flatMap fun (part, index) =>
      (reports part).map (Report.under (itemSegment (toJson part) index))) =
        parts.flatMap fun part => (reports part).map (Report.under (name part)) := by
    have shown (entry : α × Nat) (member : entry ∈ parts.zipIdx) :
        itemSegment (toJson entry.1) entry.2 = name entry.1 := by
      obtain ⟨stated, nonempty⟩ := named entry.1 (List.fst_mem_of_mem_zipIdx member)
      simp [itemSegment, stated, nonempty]
    calc parts.zipIdx.flatMap (fun (part, index) =>
          (reports part).map (Report.under (itemSegment (toJson part) index)))
      _ = parts.zipIdx.flatMap (fun entry =>
            (reports entry.1).map (Report.under (name entry.1))) :=
          List.flatMap_congr fun entry member => by rw [← shown entry member]
      _ = (parts.zipIdx.map Prod.fst).flatMap (fun part =>
            (reports part).map (Report.under (name part))) := by rw [List.flatMap_map]
      _ = _ := by rw [List.zipIdx_map_fst]
  exact byName ▸ Reports.listOf each

/-- Items that report nothing make an array that reports nothing. -/
theorem Reports.listOf_silent {α : Type} {constraint : Constraint} {toJson : α → Value}
    {parts : List α} (each : ∀ part ∈ parts, Reports constraint (toJson part) []) :
    Reports (JsonSchema.listOf constraint) (.array (parts.map toJson)) [] := by
  have none : (parts.zipIdx.flatMap fun (part, index) =>
      ([] : List Report).map (Report.under (itemSegment (toJson part) index))) = [] :=
    List.flatMap_eq_nil_iff.mpr fun _ _ => rfl
  exact none ▸ Reports.listOf each

/-- The issues of a value are those of its reports, in some order. -/
theorem Reports.issues {constraint : Constraint} {value : Value} {reports : List Report}
    (found : Reports constraint value reports) :
    ∃ issues, constraint.issues value = .ok issues ∧ issues.Perm (reports.map Report.issue) := by
  obtain ⟨violations, findings, rfl⟩ := found
  have all : constraint.violations value = .ok violations := by
    rw [Constraint.violations, findings, List.mapM_map]
    exact (List.mapM_pure (m := Except BadPattern)).trans (congrArg _ (List.map_id _))
  refine ⟨_, by rw [Constraint.issues, all]; rfl, ?_⟩
  rw [List.map_map]
  exact (List.mergeSort_perm violations _).map _

end Crowsfoot.JsonSchema
