import Crowsfoot.Proofs.Assoc
import Crowsfoot.Proofs.Layout.Refusals
import Crowsfoot.Proofs.Parts

/-!
# Respelled descriptions

Most members of the tables layout go under several names.  A description is
respelled by other names of the same groups, object by object, and by lists in
place of objects of columns.  As long as an object uses one name of a group at a
time, what stands under the group is found under all of its names.
-/

namespace Crowsfoot

open Json (Value)

namespace Layout.Tables

def defaultNames : List String := ["default", "defaultValue"]

def descriptionGroups : List (List String) :=
  [tableListNames]

def tableGroups : List (List String) :=
  [tableNames, columnListNames, relationListNames]

def columnGroups : List (List String) :=
  [columnNames, typeNames, primaryKeyNames, uniqueNames, defaultNames, columnKeyNames]

def relationGroups : List (List String) :=
  [relationTargetNames, relationColumnNames, relationReferenceNames]

/-- Two names mean the same: they are equal, or in one group. -/
def Synonymous (groups : List (List String)) (name other : String) : Prop :=
  name = other ∨ ∃ group ∈ groups, name ∈ group ∧ other ∈ group

/-- The members of an object use at most one name of each group. -/
def SoleNames (groups : List (List String)) (members : List (String × Value)) : Prop :=
  ∀ group ∈ groups, (members.filter fun member => group.contains member.1).length ≤ 1

/-- No name is in two groups. -/
def Apart (groups : List (List String)) : Prop :=
  ∀ group ∈ groups, ∀ other ∈ groups, ∀ name ∈ group, name ∈ other → group = other

instance (groups : List (List String)) : Decidable (Apart groups) :=
  inferInstanceAs (Decidable (∀ group ∈ groups, ∀ other ∈ groups, ∀ name ∈ group, _))

instance (groups : List (List String)) (members : List (String × Value)) :
    Decidable (SoleNames groups members) :=
  inferInstanceAs (Decidable (∀ group ∈ groups, _ ≤ 1))

/-- An object with other names of the same groups, and with members that are
alike. -/
inductive Respelled (groups : List (List String)) (alike : String → Value → Value → Prop) :
    Value → Value → Prop
  | same (value : Value) : Respelled groups alike value value
  | object {members others : List (String × Value)} (sole : SoleNames groups members)
      (each : List.Forall₂ (fun member other =>
        Synonymous groups member.1 other.1 ∧ alike member.1 member.2 other.2) members others) :
      Respelled groups alike (.object members) (.object others)

/-- A member keeps its value. -/
def Unchanged (_ : String) (value other : Value) : Prop :=
  value = other

def RespelledColumn : Value → Value → Prop :=
  Respelled columnGroups Unchanged

def RespelledRelation : Value → Value → Prop :=
  Respelled relationGroups Unchanged

/-- The columns of a table with other names.  An object from names to definitions
may become a list, if the definitions have no names of their own. -/
inductive RespelledColumns : Value → Value → Prop
  | same (value : Value) : RespelledColumns value value
  | list {items others : List Value} (each : List.Forall₂ RespelledColumn items others) :
      RespelledColumns (.array items) (.array others)
  | mapping {members others : List (String × Value)}
      (each : List.Forall₂ (fun member other =>
        member.1 = other.1 ∧ RespelledColumn member.2 other.2) members others) :
      RespelledColumns (.object members) (.object others)
  | listed {members : List (String × Value)} {items : List Value}
      (bare : ∀ member ∈ members, member.1 ≠ "" ∧ member.2.isObject = true ∧
        ∀ name ∈ columnNames, member.2.has name = false)
      (each : List.Forall₂ (fun member item =>
        RespelledColumn (.object (("name", .string member.1) :: member.2.members)) item)
        members items) :
      RespelledColumns (.object members) (.array items)

inductive RespelledRelations : Value → Value → Prop
  | same (value : Value) : RespelledRelations value value
  | list {items others : List Value} (each : List.Forall₂ RespelledRelation items others) :
      RespelledRelations (.array items) (.array others)

/-- What may change in the member of a table. -/
def AlikeInTable (name : String) (value other : Value) : Prop :=
  if columnListNames.contains name then RespelledColumns value other
  else if relationListNames.contains name then RespelledRelations value other
  else value = other

theorem AlikeInTable.same (name : String) (value : Value) : AlikeInTable name value value := by
  rw [AlikeInTable]
  split
  · exact .same value
  · split
    · exact .same value
    · rfl

theorem AlikeInTable.of_columns {name : String} {value other : Value}
    (inGroup : name ∈ columnListNames) (respelled : RespelledColumns value other) :
    AlikeInTable name value other := by
  rwa [AlikeInTable, if_pos (List.contains_iff_mem.mpr inGroup)]

def RespelledTable : Value → Value → Prop :=
  Respelled tableGroups AlikeInTable

inductive RespelledTables : Value → Value → Prop
  | same (value : Value) : RespelledTables value value
  | list {items others : List Value} (each : List.Forall₂ RespelledTable items others) :
      RespelledTables (.array items) (.array others)

/-- What may change in the member of a description. -/
def AlikeInDescription (name : String) (value other : Value) : Prop :=
  if tableListNames.contains name then RespelledTables value other else value = other

theorem AlikeInDescription.of_tables {name : String} {value other : Value}
    (inGroup : name ∈ tableListNames) (respelled : RespelledTables value other) :
    AlikeInDescription name value other := by
  rwa [AlikeInDescription, if_pos (List.contains_iff_mem.mpr inGroup)]

def RespelledDescription : Value → Value → Prop :=
  Respelled descriptionGroups AlikeInDescription

/-- The first member under a name of a group. -/
def memberIn? (group : List String) (members : List (String × Value)) : Option (String × Value) :=
  members.find? fun member => group.contains member.1

theorem mem_of_memberIn? {group : List String} {members : List (String × Value)}
    {member : String × Value} (found : memberIn? group members = some member) :
    member ∈ members ∧ member.1 ∈ group := by
  have named := List.find?_some found
  exact ⟨List.mem_of_find?_eq_some found, List.contains_iff_mem.mp named⟩

theorem isSome_memberIn? {group : List String} {members : List (String × Value)}
    {member : String × Value} (inMembers : member ∈ members) (inGroup : member.1 ∈ group) :
    (memberIn? group members).isSome = true :=
  List.find?_isSome.mpr ⟨member, inMembers, List.contains_iff_mem.mpr inGroup⟩

theorem any_has_eq (group : List String) (members : List (String × Value)) :
    group.any (Value.object members).has = (memberIn? group members).isSome := by
  rw [Bool.eq_iff_iff, List.any_eq_true]
  constructor
  · rintro ⟨name, inGroup, present⟩
    obtain ⟨member, inMembers, rfl⟩ := List.mem_map.mp (Value.has_iff.mp present)
    exact isSome_memberIn? inMembers inGroup
  · intro some
    obtain ⟨member, found⟩ := Option.isSome_iff_exists.mp some
    obtain ⟨inMembers, inGroup⟩ := mem_of_memberIn? found
    exact ⟨member.1, inGroup, Value.has_iff.mpr (List.mem_map_of_mem inMembers)⟩

section Sole

variable {members : List (String × Value)} {group : List String}
  (sole : (members.filter fun member => group.contains member.1).length ≤ 1)
include sole

theorem eq_of_sole {first second : String × Value} (one : first ∈ members)
    (other : second ∈ members) (inGroup : first.1 ∈ group) (alsoInGroup : second.1 ∈ group) :
    first = second := by
  have oneKept : first ∈ members.filter fun member => group.contains member.1 :=
    List.mem_filter.mpr ⟨one, List.contains_iff_mem.mpr inGroup⟩
  have otherKept : second ∈ members.filter fun member => group.contains member.1 :=
    List.mem_filter.mpr ⟨other, List.contains_iff_mem.mpr alsoInGroup⟩
  cases kept : members.filter fun member => group.contains member.1 with
  | nil =>
      rw [kept] at oneKept
      contradiction
  | cons alone later =>
      rw [kept] at sole oneKept otherKept
      obtain rfl := List.eq_nil_of_length_eq_zero (Nat.le_zero.mp (Nat.le_of_succ_le_succ sole))
      rw [List.mem_singleton.mp oneKept, List.mem_singleton.mp otherKept]

/-- A sole member is found under its own name, and nothing under the other names
of its group. -/
theorem get?_of_sole {name : String} (inGroup : name ∈ group) :
    (Value.object members).get? name =
      ((memberIn? group members).filter (·.1 == name)).map Prod.snd := by
  rw [Value.get?, Value.members]
  cases looked : members.lookup name with
  | none =>
      have absent := List.lookup_eq_none_iff.mp looked
      cases found : memberIn? group members with
      | none => rfl
      | some member =>
          have other := absent member (mem_of_memberIn? found).1
          rw [bne_iff_ne] at other
          rw [Option.filter_some, if_neg (by simpa using other.symm)]
          rfl
  | some value =>
      have member := Assoc.mem_of_lookup looked
      obtain ⟨first, found⟩ := Option.isSome_iff_exists.mp (isSome_memberIn? member inGroup)
      obtain ⟨firstMember, firstIn⟩ := mem_of_memberIn? found
      obtain rfl := eq_of_sole sole member firstMember inGroup firstIn
      rw [found, Option.filter_some, if_pos (beq_self_eq_true _)]
      rfl

/-- Under the names of a group stands its sole member. -/
theorem get_of_sole {member : String × Value} (found : memberIn? group members = some member)
    {name : String} (inGroup : name ∈ group) :
    (Value.object members).get name = if member.1 = name then member.2 else .null := by
  rw [Value.get, get?_of_sole sole inGroup, found]
  by_cases same : member.1 = name
  · rw [if_pos same, Option.filter_some, if_pos (beq_iff_eq.mpr same)]
    rfl
  · rw [if_neg same, Option.filter_some, if_neg (by simpa using same)]
    rfl

/-- Of a group with a sole member this one says something, or none does. -/
theorem firstFilled_of_sole :
    firstFilled (.object members) group =
      ((memberIn? group members).map Prod.snd).filter Value.isFilled := by
  cases found : memberIn? group members with
  | none =>
      rw [firstFilled, Option.map_none, Option.filter_none, List.find?_eq_none,
        List.forall_mem_map]
      intro name inGroup
      rw [Value.get, get?_of_sole sole inGroup, found]
      exact Bool.false_ne_true
  | some member =>
      obtain ⟨-, named⟩ := mem_of_memberIn? found
      rw [Option.map_some]
      cases sought : firstFilled (.object members) group with
      | none =>
          have silent := List.forall_mem_map.mp (List.find?_eq_none.mp sought) member.1 named
          rw [get_of_sole sole found named, if_pos rfl] at silent
          rw [Option.filter_some, if_neg silent]
      | some value =>
          have filled := List.find?_some sought
          obtain ⟨name, inGroup, rfl⟩ := List.mem_map.mp (List.mem_of_find?_eq_some sought)
          rw [get_of_sole sole found inGroup] at filled ⊢
          by_cases same : member.1 = name
          · rw [if_pos same] at filled ⊢
            rw [Option.filter_some, if_pos filled]
          · rw [if_neg same] at filled
            contradiction

end Sole

/-! ## Members of respelled objects -/

theorem Synonymous.mem_iff {groups : List (List String)} (apart : Apart groups)
    {name other : String} (synonymous : Synonymous groups name other) {group : List String}
    (listed : group ∈ groups) : name ∈ group ↔ other ∈ group := by
  rcases synonymous with rfl | ⟨common, commonListed, nameIn, otherIn⟩
  · rfl
  · constructor
    · intro inGroup
      rwa [apart group listed common commonListed name inGroup nameIn]
    · intro inGroup
      rwa [apart group listed common commonListed other inGroup otherIn]

theorem Synonymous.contains_eq {groups : List (List String)} (apart : Apart groups)
    {name other : String} (synonymous : Synonymous groups name other) {group : List String}
    (listed : group ∈ groups) : group.contains name = group.contains other := by
  rw [Bool.eq_iff_iff, List.contains_iff_mem, List.contains_iff_mem]
  exact synonymous.mem_iff apart listed

/-- A name outside of all groups has no synonym. -/
theorem Synonymous.eq_iff {groups : List (List String)} {name other plain : String}
    (synonymous : Synonymous groups name other) (outside : ∀ group ∈ groups, plain ∉ group) :
    name = plain ↔ other = plain := by
  rcases synonymous with rfl | ⟨common, commonListed, nameIn, otherIn⟩
  · rfl
  · constructor
    · rintro rfl
      exact absurd nameIn (outside common commonListed)
    · rintro rfl
      exact absurd otherIn (outside common commonListed)

section Respelt

variable {groups : List (List String)} {alike : String → Value → Value → Prop}
  {members others : List (String × Value)}
  (each : List.Forall₂ (fun member other =>
    Synonymous groups member.1 other.1 ∧ alike member.1 member.2 other.2) members others)
  (apart : Apart groups) {group : List String} (listed : group ∈ groups)
include each apart listed

/-- The first members in a group correspond. -/
theorem memberIn?_rel :
    Option.Rel (fun member other => member.1 ∈ group ∧ alike member.1 member.2 other.2)
      (memberIn? group members) (memberIn? group others) := by
  have found : Option.Rel _ (memberIn? group members) (memberIn? group others) :=
    find?_of_forall₂ each fun _ _ related => related.1.contains_eq apart listed
  generalize memberIn? group members = first at found ⊢
  generalize memberIn? group others = second at found ⊢
  cases found with
  | none => exact .none
  | some here =>
      obtain ⟨⟨-, alikeHere⟩, inGroup⟩ := here
      exact .some ⟨List.contains_iff_mem.mp inGroup, alikeHere⟩

theorem length_filter_eq : (others.filter fun member => group.contains member.1).length =
    (members.filter fun member => group.contains member.1).length :=
  (List.rel_filter (fun _ _ related =>
    Bool.eq_iff_iff.mp (related.1.contains_eq apart listed)) each).length_eq.symm

end Respelt

namespace Respelled

variable {groups : List (List String)} {alike : String → Value → Value → Prop}
  {value other : Value} (respelled : Respelled groups alike value other)
include respelled

theorem isObject_eq : value.isObject = other.isObject := by
  cases respelled <;> rfl

/-- A member without synonyms is found under its name. -/
theorem get?_eq {name : String} (outside : ∀ group ∈ groups, name ∉ group)
    (same : ∀ value other, alike name value other → value = other) :
    value.get? name = other.get? name := by
  cases respelled with
  | same => rfl
  | object sole each =>
      rw [Value.get?, Value.get?, Value.members, Value.members]
      clear sole
      induction each with
      | nil => rfl
      | @cons member renamed _ _ first _ ih =>
          obtain ⟨present, value⟩ := member
          obtain ⟨shown, other⟩ := renamed
          obtain ⟨synonymous, alikeHere⟩ := first
          have named : present = name ↔ shown = name := synonymous.eq_iff outside
          rw [List.lookup_cons, List.lookup_cons, ih]
          by_cases here : present = name
          · obtain rfl := here
            obtain rfl : shown = present := named.mp rfl
            rw [same value other alikeHere]
          · have elsewhere : shown ≠ name := fun same => here (named.mpr same)
            rw [beq_eq_false_iff_ne.mpr (Ne.symm here), beq_eq_false_iff_ne.mpr elsewhere.symm]

variable (apart : Apart groups) {group : List String} (listed : group ∈ groups)
include apart listed

/-- The members in a group correspond. -/
theorem firstFilled_rel
    (filled : ∀ name value other, alike name value other → value.isFilled = other.isFilled) :
    Option.Rel (fun value other => value = other ∨ ∃ name ∈ group, alike name value other)
      (firstFilled value group) (firstFilled other group) := by
  cases respelled with
  | same =>
      cases firstFilled value group with
      | none => exact .none
      | some => exact .some (.inl rfl)
  | @object members others sole each =>
      have otherSole : (others.filter fun member => group.contains member.1).length ≤ 1 := by
        rw [length_filter_eq each apart listed]
        exact sole group listed
      have found := memberIn?_rel each apart listed
      rw [firstFilled_of_sole (sole group listed), firstFilled_of_sole otherSole]
      generalize memberIn? group members = first at found ⊢
      generalize memberIn? group others = second at found ⊢
      cases found with
      | none => exact .none
      | some here =>
          obtain ⟨inGroup, alikeHere⟩ := here
          rw [Option.map_some, Option.map_some, Option.filter_some, Option.filter_some,
            filled _ _ _ alikeHere]
          split
          · exact .some (.inr ⟨_, inGroup, alikeHere⟩)
          · exact .none

/-- Members that are the same under every name of a group. -/
theorem firstFilled_eq
    (filled : ∀ name value other, alike name value other → value.isFilled = other.isFilled)
    (same : ∀ name ∈ group, ∀ value other, alike name value other → value = other) :
    firstFilled value group = firstFilled other group := by
  refine eq_of_rel (respelled.firstFilled_rel apart listed filled) ?_
  rintro shown renamed (rfl | ⟨name, inGroup, alikeHere⟩)
  · rfl
  · exact same name inGroup shown renamed alikeHere

end Respelled

end Layout.Tables

end Crowsfoot
