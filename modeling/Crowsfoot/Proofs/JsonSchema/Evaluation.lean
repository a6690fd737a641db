import Crowsfoot.Proofs.JsonSchema.Findings
import Crowsfoot.Proofs.Parts

/-!
# Constraints that can be evaluated

Holding a value to a constraint fails only at a pattern that cannot be read.  A
constraint without such a pattern, the canonical one among them, can be evaluated
on every value.
-/

namespace Crowsfoot.JsonSchema

open Crowsfoot.Json (Value)

mutual

/-- Whether every pattern of a constraint can be read. -/
def Constraint.isReadable : Constraint → Bool
  | .unreadable _ => false
  | .all parts => allReadable parts
  | .members constraints => membersReadable constraints
  | .items constraint => constraint.isReadable
  | _ => true

def allReadable : List Constraint → Bool
  | [] => true
  | part :: parts => part.isReadable && allReadable parts

def membersReadable : List (String × Constraint) → Bool
  | [] => true
  | (_, constraint) :: constraints => constraint.isReadable && membersReadable constraints

end

/-- Findings that are violations, all of them. -/
def Evaluated (findings : List Finding) : Prop :=
  ∃ violations : List Violation, findings = violations.map Except.ok

namespace Evaluated

theorem nil : Evaluated [] :=
  ⟨[], rfl⟩

theorem violated (message : String) : Evaluated (violated message) :=
  ⟨[⟨message, []⟩], rfl⟩

/-- One violation, unless a condition holds. -/
theorem ofCondition (holds : Prop) [Decidable holds] (message : String) :
    Evaluated (if holds then [] else JsonSchema.violated message) := by
  split
  · exact nil
  · exact violated message

theorem append {front back : List Finding} (first : Evaluated front)
    (later : Evaluated back) : Evaluated (front ++ back) := by
  obtain ⟨violations, rfl⟩ := first
  obtain ⟨others, rfl⟩ := later
  exact ⟨violations ++ others, List.map_append.symm⟩

theorem under {findings : List Finding} (evaluated : Evaluated findings) (step : Step) :
    Evaluated (findings.map (Finding.under step)) := by
  obtain ⟨violations, rfl⟩ := evaluated
  exact ⟨_, map_under_ok step violations⟩

theorem ofItems {check : Value → List Finding} (each : ∀ value, Evaluated (check value))
    (index : Nat) (items : List Value) : Evaluated (findingsOfItems check index items) := by
  induction items generalizing index with
  | nil => exact nil
  | cons item items ih => exact ((each item).under _).append (ih (index + 1))

end Evaluated

mutual

/-- A constraint whose patterns can be read can be evaluated on every value. -/
theorem Constraint.evaluated_findings :
    ∀ constraint : Constraint, constraint.isReadable = true →
      ∀ value, Evaluated (constraint.findings value)
  | .nothing, _, _ => .violated _
  | .all parts, readable, value => by
      rw [Constraint.findings]
      rw [Constraint.isReadable] at readable
      exact evaluated_findingsOfAll parts readable value
  | .types types, _, value => by
      rw [Constraint.findings]
      exact .ofCondition _ _
  | .required names, _, value => by
      cases value with
      | object members => exact flatMap_of_append .nil .append fun name _ => .violated _
      | _ => exact .nil
  | .closed declared, _, value => by
      cases value with
      | object members =>
          rw [Constraint.findings]
          exact .ofCondition _ _
      | _ => exact .nil
  | .members constraints, readable, value => by
      cases value with
      | object members =>
          rw [Constraint.findings]
          rw [Constraint.isReadable] at readable
          exact evaluated_findingsOfMembers constraints readable members
      | _ => exact .nil
  | .items constraint, readable, value => by
      cases value with
      | array items =>
          rw [Constraint.findings]
          rw [Constraint.isReadable] at readable
          exact .ofItems (constraint.evaluated_findings readable) 0 items
      | _ => exact .nil
  | .noItems, _, value => by
      cases value with
      | array items =>
          rw [Constraint.findings]
          exact .ofCondition _ _
      | _ => exact .nil
  | .pattern source pattern, _, value => by
      cases value with
      | string text =>
          rw [Constraint.findings]
          exact .ofCondition _ _
      | _ => exact .nil
  | .unreadable bad, readable, value => by
      rw [Constraint.isReadable] at readable
      contradiction
  | .minLength least, _, value => by
      cases value with
      | string text =>
          rw [Constraint.findings]
          exact .ofCondition _ _
      | _ => exact .nil
  | .oneOf texts, _, value => by
      simp only [Constraint.findings]
      exact .ofCondition _ _

theorem evaluated_findingsOfAll :
    ∀ parts : List Constraint, allReadable parts = true →
      ∀ value, Evaluated (findingsOfAll parts value)
  | [], _, _ => .nil
  | part :: parts, readable, value => by
      obtain ⟨here, later⟩ := Bool.and_eq_true_iff.mp readable
      exact (part.evaluated_findings here value).append (evaluated_findingsOfAll parts later value)

theorem evaluated_findingsOfMembers :
    ∀ constraints : List (String × Constraint), membersReadable constraints = true →
      ∀ members, Evaluated (findingsOfMembers constraints members)
  | [], _, _ => .nil
  | (name, constraint) :: constraints, readable, members => by
      obtain ⟨here, later⟩ := Bool.and_eq_true_iff.mp readable
      rw [findingsOfMembers]
      refine .append ?_ (evaluated_findingsOfMembers constraints later members)
      cases members.lookup name with
      | none => exact .nil
      | some value => exact (constraint.evaluated_findings here value).under _

end

end Crowsfoot.JsonSchema
