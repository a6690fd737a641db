import Crowsfoot.Proofs.Json.DistinctNames
import Crowsfoot.Proofs.Layout.Respelling

/-!
# Columns under other names

A respelled definition is the same column.  A definition may be named from
outside, and there the names of a column differ: only `name` wins against the
name under which the definition stands.
-/

namespace Crowsfoot

open Json (Value)

namespace Layout.Tables

theorem apart_columnGroups : Apart columnGroups := by
  decide +kernel

/-- The default that a column states. -/
def statedDefault (column : Value) : Value :=
  (column.get? "default").getD (column.get "defaultValue")

theorem statedDefault_of_sole {members : List (String × Value)}
    (sole : (members.filter fun member => defaultNames.contains member.1).length ≤ 1) :
    statedDefault (.object members) =
      ((memberIn? defaultNames members).map Prod.snd).getD .null := by
  have first := get?_of_sole sole (List.mem_cons_self : "default" ∈ defaultNames)
  have second := get?_of_sole sole (by decide : "defaultValue" ∈ defaultNames)
  rw [statedDefault, Value.get, first, second]
  cases found : memberIn? defaultNames members with
  | none => rfl
  | some member =>
      obtain ⟨name, value⟩ := member
      have named : name = "default" ∨ name = "defaultValue" := by
        simpa [defaultNames] using (mem_of_memberIn? found).2
      rcases named with rfl | rfl <;> rfl

/-- Two definitions of one column, apart from its name. -/
structure SameColumn (column other : Value) : Prop where
  type : firstFilled column typeNames = firstFilled other typeNames
  primaryKey : firstFilled column primaryKeyNames = firstFilled other primaryKeyNames
  unique : firstFilled column uniqueNames = firstFilled other uniqueNames
  key : firstFilled column columnKeyNames = firstFilled other columnKeyNames
  default : statedDefault column = statedDefault other
  plain : ∀ name ∈ ["nullable", "optional", "required", "format"],
    column.get? name = other.get? name

theorem SameColumn.columnOf_eq {column other : Value} (same : SameColumn column other)
    (name : String) : columnOf name column = columnOf name other := by
  have got : ∀ name ∈ ["nullable", "optional", "required", "format"],
      column.get name = other.get name := fun name listed => by
    rw [Value.get, same.plain name listed, Value.get]
  have default : defaultOf column = defaultOf other := by
    have stated := same.default
    rw [statedDefault, statedDefault] at stated
    rw [defaultOf, defaultOf, stated]
  simp only [columnOf, firstText, anyFilled, Export.flag, Export.isRefused, same.type,
    same.primaryKey, same.unique, default, got "nullable" (by simp), got "optional" (by simp),
    got "required" (by simp), got "format" (by simp)]

theorem SameColumn.columnKey?_eq {column other : Value} (same : SameColumn column other)
    (name : String) : columnKey? name column = columnKey? name other := by
  rw [columnKey?, columnKey?, same.key]

theorem SameColumn.trans {first second third : Value} (one : SameColumn first second)
    (other : SameColumn second third) : SameColumn first third where
  type := one.type.trans other.type
  primaryKey := one.primaryKey.trans other.primaryKey
  unique := one.unique.trans other.unique
  key := one.key.trans other.key
  default := one.default.trans other.default
  plain name listed := (one.plain name listed).trans (other.plain name listed)

theorem SameColumn.symm {column other : Value} (same : SameColumn column other) :
    SameColumn other column where
  type := same.type.symm
  primaryKey := same.primaryKey.symm
  unique := same.unique.symm
  key := same.key.symm
  default := same.default.symm
  plain name listed := (same.plain name listed).symm

/-- Only the member `name` may differ. -/
theorem SameColumn.of_get? {column other : Value}
    (same : ∀ name, name ≠ "name" → column.get? name = other.get? name) :
    SameColumn column other := by
  have filled {group : List String} (unnamed : "name" ∉ group) :
      firstFilled column group = firstFilled other group := by
    rw [firstFilled, firstFilled]
    refine congrArg (List.find? Value.isFilled) (List.map_congr_left fun name inGroup => ?_)
    have notName : name ≠ "name" := fun isName => unnamed (isName ▸ inGroup)
    rw [Value.get, same name notName, Value.get]
  exact {
    type := filled (by decide)
    primaryKey := filled (by decide)
    unique := filled (by decide)
    key := filled (by decide)
    default := by
      rw [statedDefault, Value.get, same "default" (by decide), same "defaultValue" (by decide)]
      rfl
    plain := fun name listed => same name (by rintro rfl; revert listed; decide) }

namespace RespelledColumn

variable {column other : Value} (respelled : RespelledColumn column other)
include respelled

theorem firstFilled_eq {group : List String} (listed : group ∈ columnGroups) :
    firstFilled column group = firstFilled other group :=
  Respelled.firstFilled_eq respelled apart_columnGroups listed
    (fun _ _ _ same => congrArg Value.isFilled same) fun _ _ _ _ same => same

theorem statedDefault_eq : statedDefault column = statedDefault other := by
  have listed : defaultNames ∈ columnGroups := by decide
  cases respelled with
  | same => rfl
  | @object members others sole each =>
      have otherSole : (others.filter fun member => defaultNames.contains member.1).length ≤ 1 := by
        rw [length_filter_eq each apart_columnGroups listed]
        exact sole _ listed
      have found := memberIn?_rel each apart_columnGroups listed
      rw [statedDefault_of_sole (sole _ listed), statedDefault_of_sole otherSole]
      generalize memberIn? defaultNames members = first at found ⊢
      generalize memberIn? defaultNames others = second at found ⊢
      cases found with
      | none => rfl
      | some here => exact here.2

/-- Other names do not change a column. -/
theorem sameColumn : SameColumn column other where
  type := firstFilled_eq respelled (by decide)
  primaryKey := firstFilled_eq respelled (by decide)
  unique := firstFilled_eq respelled (by decide)
  key := firstFilled_eq respelled (by decide)
  default := statedDefault_eq respelled
  plain name listed := by
    refine Respelled.get?_eq respelled ?_ fun _ _ same => same
    revert name
    decide +kernel

end RespelledColumn

/-- The name under which a column is read. -/
def readName? (column : Value) : Option String :=
  (firstFilled column columnNames).map Value.text

/-- The column that is read from a definition, with its foreign key. -/
def readColumn? (column : Value) : Option (Column × Option ForeignKey) :=
  (readName? column).map fun name => (columnOf name column, columnKey? name column)

theorem readColumn?_congr {column other : Value} (names : readName? column = readName? other)
    (same : SameColumn column other) : readColumn? column = readColumn? other := by
  rw [readColumn?, readColumn?, names]
  refine congrArg (Option.map · _) (funext fun name => ?_)
  rw [same.columnOf_eq, same.columnKey?_eq]

/-- A column shows the name under which it is read. -/
theorem map_name_readColumn? (column : Value) :
    ((readColumn? column).map Prod.fst).map Column.name = readName? column := by
  rw [readColumn?, Option.map_map, Option.map_map]
  exact Option.map_id'

theorem RespelledColumn.readName?_eq {column other : Value}
    (respelled : RespelledColumn column other) : readName? column = readName? other := by
  rw [readName?, respelled.firstFilled_eq (by decide), readName?]

theorem RespelledColumn.readColumn?_eq {column other : Value}
    (respelled : RespelledColumn column other) : readColumn? column = readColumn? other :=
  readColumn?_congr respelled.readName?_eq respelled.sameColumn

section Definition

variable {definition : Value} (distinct : (Assoc.keys definition.members).Nodup)
include distinct

/-- Of its members a named definition changes the name only, where it has none. -/
theorem get?_namedDefinition (name member : String) :
    (namedDefinition name definition).get? member =
      if member = "name" then some ((definition.get? "name").getD (.string name))
      else definition.get? member := by
  have found (member : String) : definition.get? member =
      ((definition.members.filter (·.1 == member)).getLast?).map Prod.snd := by
    rw [Value.get?, ← Assoc.lookup_ofList, Assoc.ofList_of_nodup distinct]
  rw [namedDefinition, Value.get?, Value.members, Assoc.lookup_ofList, found, found]
  by_cases isName : member = "name"
  · subst isName
    rw [if_pos rfl, List.filter_cons, if_pos (beq_self_eq_true _), List.getLast?_cons,
      Option.map_some]
    cases (definition.members.filter (·.1 == "name")).getLast? <;> rfl
  · rw [if_neg isName, List.filter_cons, if_neg (by simpa using Ne.symm isName)]

theorem sameColumn_namedDefinition (name : String) :
    SameColumn (namedDefinition name definition) definition :=
  .of_get? fun member other => by rw [get?_namedDefinition distinct, if_neg other]

/-- A name inside the definition wins, and an empty name does not count. -/
theorem readName?_namedDefinition (name : String) :
    readName? (namedDefinition name definition) =
      if name = "" ∨ definition.has "name" = true then readName? definition else some name := by
  have listed (column : Value) : firstFilled column columnNames =
      [column.get "name", column.get "columnName", column.get "propertyName"].find?
        Value.isFilled := rfl
  have named : (namedDefinition name definition).get "name" =
      (definition.get? "name").getD (.string name) := by
    rw [Value.get, get?_namedDefinition distinct, if_pos rfl, Option.getD_some]
  have others (member : String) (other : member ≠ "name") :
      (namedDefinition name definition).get member = definition.get member := by
    rw [Value.get, get?_namedDefinition distinct, if_neg other, Value.get]
  rw [readName?, readName?, listed, listed, named, others "columnName" (by decide),
    others "propertyName" (by decide), Value.has]
  cases stated : definition.get? "name" with
  | some own =>
      have inside : definition.get "name" = own := by rw [Value.get, stated, Option.getD_some]
      rw [if_pos (.inr rfl), inside]
      rfl
  | none =>
      have inside : definition.get "name" = .null := by rw [Value.get, stated, Option.getD_none]
      rw [inside, Option.getD_none]
      by_cases empty : name = ""
      · rw [if_pos (.inl empty), empty]
        rfl
      · have filled : (Value.string name).isFilled = true := by simpa [Value.isFilled] using empty
        rw [if_neg (by simp [empty]), List.find?_cons_of_pos filled]
        rfl

end Definition

/-- A definition without a name is listed with its outer name first. -/
theorem namedDefinition_of_bare {definition : Value}
    (distinct : (Assoc.keys definition.members).Nodup) (bare : definition.has "name" = false)
    (name : String) :
    namedDefinition name definition = .object (("name", .string name) :: definition.members) := by
  have absent : "name" ∉ Assoc.keys definition.members := by
    intro member
    have present := Value.has_iff.mpr member
    rw [Value.has, Value.get?] at bare present
    rw [Value.members] at present
    rw [bare] at present
    contradiction
  rw [namedDefinition, Assoc.ofList_of_nodup]
  exact List.nodup_cons.mpr ⟨absent, distinct⟩

/-- A definition that is named from outside keeps the name under which it is read:
the outer name is empty, or both definitions have a member `name` or neither
has, or the name inside is the outer one. -/
def KeepsName (name : String) (definition other : Value) : Prop :=
  name = "" ∨ definition.has "name" = other.has "name" ∨ readName? definition = some name

/-- What a definition is read as may be its outer name. -/
theorem readName?_namedDefinition_iff {definition other : Value}
    (distinct : (Assoc.keys definition.members).Nodup)
    (otherDistinct : (Assoc.keys other.members).Nodup)
    (names : readName? definition = readName? other) (name : String) :
    readName? (namedDefinition name definition) = readName? (namedDefinition name other) ↔
      KeepsName name definition other := by
  rw [readName?_namedDefinition distinct, readName?_namedDefinition otherDistinct, ← names,
    KeepsName]
  by_cases empty : name = ""
  · simp [empty]
  · cases definition.has "name" <;> cases other.has "name" <;> simp [empty, eq_comm]

/-! ## Columns of tables -/

/-- The column definitions in a value. -/
def definitionsOf : Value → List Value
  | .object members => members.map fun member => namedDefinition member.1 member.2
  | .array items => items.filter Value.isObject
  | _ => []

theorem columnDefinitions_eq (table : Value) :
    columnDefinitions table =
      ((firstFilled table columnListNames).map definitionsOf).getD [] := by
  rw [columnDefinitions]
  cases firstFilled table columnListNames with
  | none => rfl
  | some columns => cases columns <;> rfl

/-- The columns of a table with their foreign keys. -/
def columnsRead (table : Value) : List (Column × Option ForeignKey) :=
  (columnDefinitions table).filterMap readColumn?

namespace RespelledColumns

variable {columns others : Value} (respelled : RespelledColumns columns others)
include respelled

theorem isFilled_eq : columns.isFilled = others.isFilled := by
  cases respelled with
  | same => rfl
  | list each => cases each <;> rfl
  | mapping each => cases each <;> rfl
  | listed bare each => cases each <;> rfl

end RespelledColumns

/-- The name under which a member of the columns is read. -/
def memberName? (member : String × Value) : Option String :=
  readName? (namedDefinition member.1 member.2)

section Mapping

variable {members others : List (String × Value)}
  (each : List.Forall₂ (fun member other =>
    member.1 = other.1 ∧ RespelledColumn member.2 other.2) members others)
  (distinct : (Value.object members).Distinct) (otherDistinct : (Value.object others).Distinct)
include each distinct otherDistinct

/-- Respelled definitions with distinct members. -/
theorem forall₂_mapping :
    List.Forall₂ (fun member other : String × Value =>
      (member.1 = other.1 ∧ RespelledColumn member.2 other.2) ∧
        (Assoc.keys member.2.members).Nodup ∧ (Assoc.keys other.2.members).Nodup)
      members others := by
  cases distinct with
  | object names parts =>
      cases otherDistinct with
      | object otherNames otherParts =>
          have kept := (List.forall₂_and_left members others).mpr
            ⟨fun member inMembers => (parts member inMembers).nodup, each⟩
          have both := (List.forall₂_and_left others members).mpr
            ⟨fun other inOthers => (otherParts other inOthers).nodup, kept.flip⟩
          exact both.flip.imp fun member other related =>
            ⟨related.2.2, related.2.1, related.1⟩

/-- Definitions whose columns are the same keep their names. -/
theorem keepsName_of_columns
    (same : ((definitionsOf (.object members)).filterMap readColumn?).map Prod.fst =
      ((definitionsOf (.object others)).filterMap readColumn?).map Prod.fst) :
    List.Forall₂ (fun member other => KeepsName member.1 member.2 other.2) members others := by
  have all := forall₂_mapping each distinct otherDistinct
  have names : members.filterMap memberName? = others.filterMap memberName? := by
    have shown := congrArg (List.map Column.name) same
    simp only [definitionsOf, List.filterMap_map, List.map_filterMap, Function.comp_apply,
      map_name_readColumn?] at shown
    exact shown
  have alike : List.Forall₂ (NamedAlike Prod.fst memberName? memberName?) members others := by
    refine all.imp fun member other related => ⟨related.1.1, ?_⟩
    obtain ⟨⟨sameName, respelled⟩, once, otherOnce⟩ := related
    rw [memberName?, readName?_namedDefinition once, memberName?,
      readName?_namedDefinition otherOnce, ← sameName, respelled.readName?_eq]
    split
    · split
      · exact .inl rfl
      · exact .inr (.inr rfl)
    · exact .inr (.inl rfl)
  refine List.Forall₂.mp (fun member other related same => ?_) all
    (forall₂_of_filterMap_eq alike distinct.nodup names)
  obtain ⟨⟨sameName, respelled⟩, once, otherOnce⟩ := related
  rw [memberName?, memberName?, ← sameName] at same
  exact (readName?_namedDefinition_iff once otherOnce respelled.readName?_eq _).mp same

/-- Definitions that keep their names are read as the same columns. -/
theorem filterMap_readColumn?_of_keepsName
    (keeps : List.Forall₂ (fun member other => KeepsName member.1 member.2 other.2) members
      others) :
    (definitionsOf (.object members)).filterMap readColumn? =
      (definitionsOf (.object others)).filterMap readColumn? := by
  have all := forall₂_mapping each distinct otherDistinct
  rw [definitionsOf, definitionsOf, List.filterMap_map, List.filterMap_map]
  refine filterMap_of_forall₂ (List.Forall₂.mp (fun member other related kept => ?_) all keeps)
  obtain ⟨⟨sameName, respelled⟩, once, otherOnce⟩ := related
  have names :=
    (readName?_namedDefinition_iff once otherOnce respelled.readName?_eq member.1).mpr kept
  rw [Function.comp_apply, Function.comp_apply, ← sameName]
  exact readColumn?_congr names ((sameColumn_namedDefinition once _).trans
    (respelled.sameColumn.trans (sameColumn_namedDefinition otherOnce _).symm))

end Mapping

/-- Where columns are an object in both spellings, the definitions keep their
names. -/
def ColumnsKeepNames (columns others : Value) : Prop :=
  ∀ members renamed, columns = .object members → others = .object renamed →
    List.Forall₂ (fun member other => KeepsName member.1 member.2 other.2) members renamed

namespace RespelledColumns

variable {columns others : Value} (respelled : RespelledColumns columns others)
  (distinct : columns.Distinct) (otherDistinct : others.Distinct)
include respelled distinct otherDistinct

theorem keepNames
    (same : ((definitionsOf columns).filterMap readColumn?).map Prod.fst =
      ((definitionsOf others).filterMap readColumn?).map Prod.fst) :
    ColumnsKeepNames columns others := by
  cases respelled with
  | same =>
      rintro members renamed rfl equal
      obtain rfl := Value.object.inj equal
      exact List.forall₂_same.mpr fun _ _ => .inr (.inl rfl)
  | list each =>
      rintro _ _ equal
      contradiction
  | mapping each =>
      intro members renamed equal otherEqual
      rw [← Value.object.inj equal, ← Value.object.inj otherEqual]
      exact keepsName_of_columns each distinct otherDistinct same
  | listed bare each =>
      rintro _ _ _ equal
      contradiction

theorem filterMap_readColumn?_eq (keeps : ColumnsKeepNames columns others) :
    (definitionsOf columns).filterMap readColumn? =
      (definitionsOf others).filterMap readColumn? := by
  cases respelled with
  | same => rfl
  | list each =>
      have objects := List.rel_filter (p := Value.isObject) (q := Value.isObject)
        (fun _ _ related => Bool.eq_iff_iff.mp (Respelled.isObject_eq related)) each
      exact filterMap_of_forall₂ (objects.imp fun _ _ => RespelledColumn.readColumn?_eq)
  | mapping each =>
      exact filterMap_readColumn?_of_keepsName each distinct otherDistinct (keeps _ _ rfl rfl)
  | @listed members items bare each =>
      have objects : items.filter Value.isObject = items := by
        refine List.filter_eq_self.mpr fun item inItems => ?_
        obtain ⟨member, -, related⟩ := exists_of_mem_forall₂ each inItems
        rw [← Respelled.isObject_eq related]
        rfl
      cases distinct with
      | object names parts =>
          have kept := (List.forall₂_and_left members items).mpr
            ⟨fun member inMembers => And.intro (parts member inMembers).nodup
              ((bare member inMembers).2.2 "name" List.mem_cons_self), each⟩
          rw [definitionsOf, definitionsOf, objects, List.filterMap_map]
          refine filterMap_of_forall₂ (kept.imp fun member item related => ?_)
          obtain ⟨⟨once, unnamed⟩, respelled⟩ := related
          rw [Function.comp_apply, namedDefinition_of_bare once unnamed]
          exact respelled.readColumn?_eq

end RespelledColumns

end Layout.Tables

end Crowsfoot
