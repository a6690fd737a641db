import Crowsfoot.Proofs.Conversion.Outcomes
import Crowsfoot.Proofs.Json.Values

/-!
# Refused descriptions

A JSON value is refused if it has neither layout, and otherwise only if the
parts of a value in it are wanted that has none: `true`, or a number other than
zero.  The places where parts are wanted are few, and they are named here.
-/

namespace Crowsfoot

open Json (Value)

/-- The items of an array; other values have none. -/
def Json.Value.items : Value → List Value
  | .array items => items
  | _ => []

/-- A value that says something and has no parts: `true`, or a number other
than zero. -/
inductive Json.Value.Indivisible : Value → ScalarShape → Prop
  | truth : Indivisible (.bool true) .bool
  | int {number : Int} (nonzero : number ≠ 0) : Indivisible (.int number) .int
  | float {number : Float} (nonzero : (number == 0.0) = false) :
      Indivisible (.float number) .float

/-- The parts of a value are listed unless it is indivisible. -/
theorem listed_cases (value : Value) :
    (∃ shape, value.Indivisible shape ∧ value.listed = .error (.notListable shape)) ∨
      ((∀ shape, ¬value.Indivisible shape) ∧ ∃ parts, value.listed = .ok parts) := by
  cases value with
  | null => exact .inr ⟨nofun, [], rfl⟩
  | bool truth =>
      cases truth with
      | false => exact .inr ⟨nofun, [], rfl⟩
      | true => exact .inl ⟨.bool, .truth, rfl⟩
  | int number =>
      by_cases zero : number = 0
      · subst zero
        exact .inr ⟨by rintro shape (_ | nonzero | _); contradiction, [], rfl⟩
      · refine .inl ⟨.int, .int zero, ?_⟩
        simp [Value.listed, Value.isFilled, Value.parts, zero]
  | float number =>
      cases zero : number == 0.0 with
      | true =>
          refine .inr ⟨?_, [], by simp [Value.listed, Value.isFilled, zero]⟩
          rintro shape (_ | _ | nonzero)
          rw [zero] at nonzero
          contradiction
      | false =>
          refine .inl ⟨.float, .float zero, ?_⟩
          simp [Value.listed, Value.isFilled, Value.parts, zero]
  | string text =>
      refine .inr ⟨nofun, ?_⟩
      simp only [Value.listed, Value.parts]
      split <;> exact ⟨_, rfl⟩
  | array items =>
      refine .inr ⟨nofun, ?_⟩
      simp only [Value.listed, Value.parts]
      split <;> exact ⟨_, rfl⟩
  | object members =>
      refine .inr ⟨nofun, ?_⟩
      simp only [Value.listed, Value.parts]
      split <;> exact ⟨_, rfl⟩

/-- Only arrays have objects among their parts. -/
theorem filter_isNamed_of_listed {value : Value} {parts : List Value}
    (listed : value.listed = .ok parts) :
    parts.filter Layout.Export.isNamed = value.items.filter Layout.Export.isNamed := by
  have texts {α : Type} (write : α → String) (all : List α) :
      (all.map fun part => Value.string (write part)).filter Layout.Export.isNamed = [] := by
    rw [List.filter_eq_nil_iff, List.forall_mem_map]
    exact fun _ _ => Bool.false_ne_true
  rw [Value.listed] at listed
  split at listed
  · cases value with
    | array items => rw [← Except.ok.inj listed]; rfl
    | object members => rw [← Except.ok.inj listed]; exact texts Prod.fst members
    | string text => rw [← Except.ok.inj listed]; exact texts String.singleton text.toList
    | null | bool | int | float => contradiction
  · rename_i silent
    rw [← Except.ok.inj listed]
    cases value with
    | array items =>
        cases items with
        | nil => rfl
        | cons => exact absurd rfl silent
    | _ => rfl

/-- A reading that lists the parts of the values at certain places: it is
stopped by an indivisible one among them, and by nothing else. -/
structure Lists {α : Type} (reading : Except SourceError α) (places : Value → Prop) : Prop where
  stopped : ∀ cause, reading = .error cause →
    ∃ place shape, places place ∧ place.Indivisible shape ∧ cause = .notListable shape
  finished : ∀ answer, reading = .ok answer →
    ∀ place shape, places place → ¬place.Indivisible shape

namespace Lists

variable {α β : Type}

theorem pure (answer : α) : Lists (.ok answer) fun _ => False where
  stopped _ failed := nomatch failed
  finished _ _ _ _ := False.elim

theorem listed (value : Value) : Lists value.listed fun place => place = value := by
  rcases listed_cases value with ⟨shape, indivisible, failed⟩ | ⟨divisible, parts, succeeded⟩
  · rw [failed]
    exact ⟨fun cause same => ⟨value, shape, rfl, indivisible, (Except.error.inj same).symm⟩, nofun⟩
  · rw [succeeded]
    refine ⟨nofun, ?_⟩
    rintro _ - _ shape rfl
    exact divisible shape

theorem congr {reading : Except SourceError α} {places others : Value → Prop}
    (lists : Lists reading places) (same : ∀ place, places place ↔ others place) :
    Lists reading others := by
  rwa [← funext fun place => propext (same place)]

/-- Two readings one after the other. -/
theorem bind {reading : Except SourceError α} {next : α → Except SourceError β}
    {places further : Value → Prop} (first : Lists reading places)
    (second : ∀ answer, reading = .ok answer → Lists (next answer) further) :
    Lists (reading >>= next) fun place => places place ∨ further place := by
  cases reading with
  | error cause =>
      refine ⟨fun other same => ?_, nofun⟩
      obtain rfl := Except.error.inj same
      obtain ⟨place, shape, among, indivisible, notListable⟩ := first.stopped cause rfl
      exact ⟨place, shape, .inl among, indivisible, notListable⟩
  | ok answer =>
      have later := second answer rfl
      constructor
      · intro cause failed
        obtain ⟨place, shape, among, indivisible, notListable⟩ := later.stopped cause failed
        exact ⟨place, shape, .inr among, indivisible, notListable⟩
      · rintro last succeeded place shape (inFirst | inSecond)
        · exact first.finished answer rfl place shape inFirst
        · exact later.finished last succeeded place shape inSecond

/-- A list that is read item by item. -/
theorem mapM {read : α → Except SourceError β} {places : α → Value → Prop} {items : List α}
    (each : ∀ item ∈ items, Lists (read item) (places item)) :
    Lists (items.mapM read) fun place => ∃ item ∈ items, places item place := by
  induction items with
  | nil => exact (pure []).congr (by simp)
  | cons item later ih =>
      rw [List.forall_mem_cons] at each
      rw [List.mapM_cons]
      refine (each.1.bind fun _ _ => (ih each.2).bind fun _ _ => pure _).congr fun place => ?_
      simp

/-- A reading fails exactly if one of its places is indivisible. -/
theorem exists_error_iff {reading : Except SourceError α} {places : Value → Prop}
    (lists : Lists reading places) :
    (∃ shape, reading = .error (.notListable shape)) ↔
      ∃ place shape, places place ∧ place.Indivisible shape := by
  constructor
  · rintro ⟨shape, failed⟩
    obtain ⟨place, shape, among, indivisible, -⟩ := lists.stopped _ failed
    exact ⟨place, shape, among, indivisible⟩
  · rintro ⟨place, shape, among, indivisible⟩
    cases read : reading with
    | ok answer => exact absurd indivisible (lists.finished answer read place shape among)
    | error cause =>
        obtain ⟨-, shape, -, -, rfl⟩ := lists.stopped cause read
        exact ⟨shape, rfl⟩

end Lists

/-- An object has a member exactly if the name is among its names. -/
theorem Json.Value.has_iff {members : List (String × Value)} {name : String} :
    (Value.object members).has name = true ↔ name ∈ Assoc.keys members := by
  rw [Value.has, Value.get?, ← Assoc.hasKey_eq_isSome_lookup]
  simp [Assoc.hasKey, Assoc.keys, Value.members]

namespace Layout

/-! ## The export layout -/

namespace Export

/-- The export layout: an object that lists models or enums, or a list that
begins with a named object that has fields. -/
inductive HasLayout : Value → Prop
  | blocks {members : List (String × Value)} {name : String} (listed : name ∈ ["models", "enums"])
      (member : name ∈ Assoc.keys members) : HasLayout (.object members)
  | models {first : Value} {later : List Value} (isObject : first.isObject = true)
      (named : (first.get "name").isFilled = true)
      (hasFields : (first.get "fields").isFilled = true) : HasLayout (.array (first :: later))

/-- The models of a description, which may be a list of models itself. -/
def models : Value → List Value
  | .array items => items
  | description => (description.get "models").items

/-- Whether a field stands for a relation: it names the relation and the
columns at both ends. -/
def isRelation (field : Value) : Bool :=
  flag field "relationName" && flag field "relationFromFields" && flag field "relationToFields"

/-- The places of a description whose parts are wanted. -/
inductive Wants (description : Value) : Value → Prop
  | enums : Wants description (description.get "enums")
  | values {enumeration : Value} (member : enumeration ∈ (description.get "enums").items)
      (named : isNamed enumeration = true) : Wants description (enumeration.get "values")
  | models : Wants description (description.get "models")
  | fields {model : Value} (member : model ∈ Export.models description)
      (named : isNamed model = true) : Wants description (model.get "fields")
  | relation {model field : Value} {name : String} (member : model ∈ Export.models description)
      (named : isNamed model = true) (inModel : field ∈ (model.get "fields").items)
      (fieldNamed : isNamed field = true) (related : isRelation field = true)
      (isEnd : name ∈ ["relationFromFields", "relationToFields"]) :
      Wants description (field.get name)

theorem matchesLayout_iff (description : Value) :
    matchesLayout description = true ↔ HasLayout description := by
  constructor
  · intro fits
    cases description with
    | object members =>
        simp only [matchesLayout, Bool.or_eq_true] at fits
        rcases fits with present | present
        · exact .blocks (by decide : "models" ∈ ["models", "enums"]) (Value.has_iff.mp present)
        · exact .blocks (by decide : "enums" ∈ ["models", "enums"]) (Value.has_iff.mp present)
    | array items =>
        cases items with
        | nil => contradiction
        | cons first later =>
            simp only [matchesLayout, isNamed, flag, Bool.and_eq_true] at fits
            exact .models fits.1.1 fits.1.2 fits.2
    | _ => contradiction
  · rintro (⟨listed, member⟩ | ⟨isObject, named, hasFields⟩)
    · have present := Value.has_iff.mpr member
      simp only [List.mem_cons, List.not_mem_nil, or_false] at listed
      rcases listed with rfl | rfl <;> simp [matchesLayout, present]
    · simp [matchesLayout, isNamed, flag, isObject, named, hasFields]

/-- The places of a field that name the columns of a relation. -/
def KeyPlace (field place : Value) : Prop :=
  isRelation field = true ∧
    ∃ name ∈ ["relationFromFields", "relationToFields"], place = field.get name

/-- The places of a model whose parts are wanted. -/
def ModelPlace (model place : Value) : Prop :=
  place = model.get "fields" ∨
    ∃ field ∈ (model.get "fields").items.filter isNamed, KeyPlace field place

theorem lists_keyOf (field : Value) : Lists (keyOf field) (KeyPlace field) := by
  change Lists (if isRelation field = true then _ else _) _
  by_cases related : isRelation field = true
  · rw [if_pos related]
    refine ((Lists.listed _).bind fun _ _ => (Lists.listed _).bind fun _ _ =>
      Lists.pure _).congr fun place => ?_
    simp [KeyPlace, related]
  · rw [if_neg related]
    exact (Lists.pure none).congr (by simp [KeyPlace, related])

theorem lists_tableOf (model : Value) : Lists (tableOf model) (ModelPlace model) := by
  refine (Lists.listed _).bind fun parts listed => ?_
  rw [filter_isNamed_of_listed listed]
  refine (Lists.bind (Lists.mapM fun field _ => lists_keyOf field) fun _ _ =>
    Lists.pure _).congr fun place => ?_
  simp

theorem lists_enumerationOf (description : Value) :
    Lists (enumerationOf description) fun place => place = description.get "values" :=
  ((Lists.listed _).bind fun _ _ => Lists.pure _).congr fun place => by simp

/-- A value that says nothing stops no reading. -/
theorem lists_ok_null (items : List Value) :
    Lists (Except.ok (ε := SourceError) items) fun place => place = .null := by
  refine ⟨nofun, ?_⟩
  rintro _ - _ shape rfl
  exact nofun

theorem lists_models (enums : List Enumeration) (items : List Value) :
    Lists (do
        let tables ← (items.filter isNamed).mapM tableOf
        pure ({ format := SourceFormat.dsl.name, tables, enums } : Document)) fun place =>
      ∃ model ∈ items.filter isNamed, ModelPlace model place :=
  (Lists.bind (Lists.mapM fun model _ => lists_tableOf model) fun _ _ =>
    Lists.pure _).congr fun place => by simp

/-- The enums of a description are read before its models. -/
theorem lists_parts (description : Value) : Lists (document description) fun place =>
    place = description.get "enums" ∨
      (∃ enumeration ∈ (description.get "enums").items.filter isNamed,
        place = enumeration.get "values") ∨
      place = description.get "models" ∨
      ∃ model ∈ (models description).filter isNamed, ModelPlace model place := by
  refine (Lists.listed _).bind fun enums listed => ?_
  rw [filter_isNamed_of_listed listed]
  refine (Lists.mapM fun enumeration _ => lists_enumerationOf enumeration).bind fun read _ => ?_
  -- a list of models is taken as it stands, and its member `models` is `null`
  cases description with
  | array items =>
      exact (lists_ok_null items).bind fun _ same => Except.ok.inj same ▸ lists_models read _
  | _ =>
      refine (Lists.listed _).bind fun parts listed => ?_
      rw [models, ← filter_isNamed_of_listed listed]
      · exact lists_models read parts
      · exact nofun

/-- A description in the export layout is stopped by one of its places. -/
theorem lists_document (description : Value) :
    Lists (document description) (Wants description) := by
  refine (lists_parts description).congr fun place => ⟨?_, ?_⟩
  · simp only [ModelPlace, KeyPlace, List.mem_filter]
    rintro (rfl | ⟨enumeration, ⟨member, named⟩, rfl⟩ | rfl | ⟨model, ⟨member, named⟩, rfl |
      ⟨field, ⟨inModel, fieldNamed⟩, related, name, isEnd, rfl⟩⟩)
    · exact .enums
    · exact .values member named
    · exact .models
    · exact .fields member named
    · exact .relation member named inModel fieldNamed related isEnd
  · simp only [ModelPlace, KeyPlace, List.mem_filter]
    rintro (_ | ⟨member, named⟩ | _ | ⟨member, named⟩ |
      ⟨member, named, inModel, fieldNamed, related, isEnd⟩)
    · exact .inl rfl
    · exact .inr (.inl ⟨_, ⟨member, named⟩, rfl⟩)
    · exact .inr (.inr (.inl rfl))
    · exact .inr (.inr (.inr ⟨_, ⟨member, named⟩, .inl rfl⟩))
    · exact .inr (.inr (.inr ⟨_, ⟨member, named⟩,
        .inr ⟨_, ⟨inModel, fieldNamed⟩, related, _, isEnd, rfl⟩⟩))

end Export

namespace Tables

/-- The tables layout: an object that lists tables. -/
inductive HasLayout : Value → Prop
  | tables {members : List (String × Value)} {name : String} (listed : name ∈ tableListNames)
      (member : name ∈ Assoc.keys members) : HasLayout (.object members)

/-- The places of a description whose parts are wanted: the relations of its
tables. -/
inductive Wants (description : Value) : Value → Prop
  | relations {tables table listed : Value}
      (selected : firstFilled description tableListNames = some tables)
      (member : table ∈ tables.items) (isObject : table.isObject = true)
      (found : firstFilled table relationListNames = some listed) : Wants description listed

theorem matchesLayout_iff (description : Value) :
    matchesLayout description = true ↔ HasLayout description := by
  rw [matchesLayout, List.any_eq_true]
  constructor
  · rintro ⟨name, listed, present⟩
    cases description with
    | object members => exact .tables listed (Value.has_iff.mp present)
    | _ => contradiction
  · rintro ⟨listed, member⟩
    exact ⟨_, listed, Value.has_iff.mpr member⟩

theorem lists_tableOf (table : Value) :
    Lists (tableOf table) fun place => firstFilled table relationListNames = some place := by
  have listed : Lists (relations table) fun place =>
      firstFilled table relationListNames = some place := by
    rw [relations]
    cases firstFilled table relationListNames with
    | none => exact (Lists.pure []).congr (by simp)
    | some value => exact (Lists.listed value).congr (by simp [eq_comm])
  exact (listed.bind fun _ _ => Lists.pure _).congr (by simp)

/-- A description in the tables layout is stopped by one of its places. -/
theorem lists_document (description : Value) :
    Lists (document description) (Wants description) := by
  have described : ∀ table, table ∈ tableDescriptions description ↔
      ∃ tables, firstFilled description tableListNames = some tables ∧
        table ∈ tables.items ∧ table.isObject = true := by
    intro table
    rw [tableDescriptions]
    split
    · rename_i items selected
      simp [selected, Value.items]
    · rename_i other
      constructor
      · exact fun member => absurd member List.not_mem_nil
      · rintro ⟨tables, selected, member, -⟩
        cases tables with
        | array items => exact absurd selected (other items)
        | _ => contradiction
  refine ((Lists.mapM fun table _ => lists_tableOf table).bind fun _ _ =>
    Lists.pure _).congr fun place => ⟨?_, ?_⟩
  · rintro (⟨table, member, found⟩ | impossible)
    · obtain ⟨tables, selected, inTables, isObject⟩ := (described table).mp member
      exact .relations selected inTables isObject found
    · contradiction
  · rintro ⟨selected, member, isObject, found⟩
    exact .inl ⟨_, (described _).mpr ⟨_, selected, member, isObject⟩, found⟩

end Tables

/-! ## Descriptions -/

/-- The places of a description whose parts are wanted.  Where both layouts
would fit, the export layout counts. -/
inductive Wants (description : Value) : Value → Prop
  | inExport {place : Value} (fits : Export.HasLayout description)
      (wanted : Export.Wants description place) : Wants description place
  | inTables {place : Value} (noExport : ¬Export.HasLayout description)
      (fits : Tables.HasLayout description) (wanted : Tables.Wants description place) :
      Wants description place

/-- Whether a description has one of the layouts. -/
def HasLayout (description : Value) : Prop :=
  Export.HasLayout description ∨ Tables.HasLayout description

/-- Whether the parts of a value are wanted that has none. -/
def Stuck (description : Value) : Prop :=
  ∃ place shape, Wants description place ∧ place.Indivisible shape

/-- A description without a layout is refused as a whole; one with a layout is
stopped by one of its places. -/
theorem ofValue_cases (description : Value) :
    (¬HasLayout description ∧ Document.ofValue description = .error .unknownLayout) ∨
      (HasLayout description ∧ Lists (Document.ofValue description) (Wants description)) := by
  rw [Document.ofValue, HasLayout, ← Export.matchesLayout_iff, ← Tables.matchesLayout_iff]
  cases exported : Export.matchesLayout description with
  | true =>
      have fits := (Export.matchesLayout_iff description).mp exported
      refine .inr ⟨.inl rfl, (Export.lists_document description).congr fun place => ?_⟩
      exact ⟨.inExport fits, by rintro (⟨-, wanted⟩ | ⟨noExport⟩) <;> [exact wanted; contradiction]⟩
  | false =>
      have noExport : ¬Export.HasLayout description := by
        rw [← Export.matchesLayout_iff, exported]
        exact Bool.false_ne_true
      cases listed : Tables.matchesLayout description with
      | true =>
          have fits := (Tables.matchesLayout_iff description).mp listed
          refine .inr ⟨.inr rfl, (Tables.lists_document description).congr fun place => ?_⟩
          exact ⟨.inTables noExport fits,
            by rintro (⟨exported⟩ | ⟨-, -, wanted⟩) <;> [contradiction; exact wanted]⟩
      | false => exact .inl ⟨by simp, rfl⟩

/-- A description without a layout wants no parts. -/
theorem Stuck.hasLayout {description : Value} (stuck : Stuck description) :
    HasLayout description := by
  obtain ⟨-, -, ⟨fits, -⟩ | ⟨-, fits, -⟩, -⟩ := stuck
  · exact .inl fits
  · exact .inr fits

/-- How the reading of a description ends. -/
structure Ends (description : Value) (reading : Except SourceError Document) : Prop where
  unknownLayout : reading = .error .unknownLayout ↔ ¬HasLayout description
  notListable : (∃ shape, reading = .error (.notListable shape)) ↔ Stuck description
  shape : ∀ shape, reading = .error (.notListable shape) →
    ∃ place, Wants description place ∧ place.Indivisible shape
  succeeds : (∃ document, reading = .ok document) ↔
    HasLayout description ∧ ¬Stuck description

theorem ends_ofValue (description : Value) : Ends description (Document.ofValue description) := by
  rcases ofValue_cases description with ⟨noLayout, failed⟩ | ⟨fits, lists⟩
  · have apart : ¬Stuck description := fun stuck => noLayout stuck.hasLayout
    rw [failed]
    constructor <;> simp [noLayout, apart]
  · have stuck : (∃ shape, _) ↔ Stuck description := lists.exists_error_iff
    refine ⟨iff_of_false (fun failed => ?_) (not_not_intro fits), stuck, ?_, ?_⟩
    · obtain ⟨-, shape, -, -, same⟩ := lists.stopped _ failed
      contradiction
    · intro shape failed
      obtain ⟨place, other, wanted, indivisible, same⟩ := lists.stopped _ failed
      obtain rfl := SourceError.notListable.inj same
      exact ⟨place, wanted, indivisible⟩
    · rw [← stuck, and_iff_right fits]
      cases read : Document.ofValue description with
      | ok document => simp
      | error cause =>
          obtain ⟨-, shape, -, -, rfl⟩ := lists.stopped cause read
          simp

end Layout

/-- What the result of a conversion says about a description. -/
structure ConversionResult.Answers (settings : Settings) (text : String) (description : Value)
    (result : ConversionResult) : Prop where
  conversionInternal : result.errorKind = some .conversionInternal ↔ Layout.Stuck description
  noLayout : ¬Layout.HasLayout description → result.errorKind = some .malformedSource ∧
    result.message = "JSON conversion error: Unsupported JSON schema format"
  stuck : Layout.Stuck description → ∃ place shape, Layout.Wants description place ∧
    place.Indivisible shape ∧ result.message = "JSON conversion error: " ++ shape.message
  malformedSource : '\n' ∉ settings.headerComment.text.toList →
    (result.errorKind = some .malformedSource ↔
      ¬Layout.HasLayout description ∨ NamesClash settings .json text)
  noDefinitionsFound : '\n' ∉ settings.headerComment.text.toList →
    (result.errorKind = some .noDefinitionsFound ↔
      DeclaresNothing .json text ∧ ¬NamesClash settings .json text)
  success : '\n' ∉ settings.headerComment.text.toList →
    (result.success = true ↔ Layout.HasLayout description ∧ ¬Layout.Stuck description ∧
      ¬DeclaresNothing .json text ∧ ¬NamesClash settings .json text)

/-- A text that is not read clashes with nothing and declares nothing. -/
theorem clashless_of_error (settings : Settings) {text : String} {cause : SourceError}
    (failed : Document.ofSource .json text = .error cause) :
    ¬NamesClash settings .json text ∧ ¬DeclaresNothing .json text := by
  constructor
  · rintro ⟨-, dslText, read, written, -⟩
    rw [dslTextOf_of_error settings (by decide) failed] at written
    contradiction
  · rintro ⟨document, read, -⟩
    rw [failed] at read
    contradiction

section Answers

variable {settings : Settings} {fileName text : String} {description : Value}
variable (detected : settings.detectFormat? fileName = some .json)
  (filled : isBlankText text = false)
include detected filled

/-- A description that is read is converted as its document is. -/
theorem answers_of_ok {document : Document} (read : Document.ofSource .json text = .ok document)
    (fits : Layout.HasLayout description) (free : ¬Layout.Stuck description) :
    (conversionResult settings fileName text).Answers settings text description := by
  have outcomes := fun oneLine => convert_cases_of_ok oneLine detected filled read
  constructor
  case conversionInternal => simpa [free] using not_internal_of_ok detected filled read
  case noLayout => exact fun noLayout => absurd fits noLayout
  case stuck => exact fun stuck => absurd stuck free
  all_goals
    intro oneLine
    rw [conversionResult]
    rcases outcomes oneLine with ⟨clash, failure, converted, kind⟩ |
      ⟨apart, nothing, converted⟩ | ⟨apart, something, conversion, converted⟩
    · simp [converted, ConversionResult.ofFailure, kind, clash]
    · simp [converted, ConversionResult.ofFailure, Failure.kind, fits, nothing, apart]
    · simp [converted, ConversionResult.ofConversion, fits, free, something, apart]

theorem answers_of_unknownLayout
    (read : Document.ofSource .json text = .error .unknownLayout)
    (noLayout : ¬Layout.HasLayout description) :
    (conversionResult settings fileName text).Answers settings text description := by
  have converted := convert_of_error detected filled (by decide) read
  obtain ⟨apart, something⟩ := clashless_of_error settings read
  have free : ¬Layout.Stuck description := fun stuck => noLayout stuck.hasLayout
  rw [conversionResult, converted]
  refine ⟨?_, fun _ => ⟨rfl, rfl⟩, fun stuck => absurd stuck free, ?_, ?_, ?_⟩ <;>
    simp [ConversionResult.ofFailure, Failure.kind, SourceError.isMalformed, noLayout, free,
      something]

theorem answers_of_notListable {place : Value} {shape : ScalarShape}
    (read : Document.ofSource .json text = .error (.notListable shape))
    (fits : Layout.HasLayout description) (wanted : Layout.Wants description place)
    (indivisible : place.Indivisible shape) :
    (conversionResult settings fileName text).Answers settings text description := by
  have converted := convert_of_error detected filled (by decide) read
  obtain ⟨apart, something⟩ := clashless_of_error settings read
  have stuck : Layout.Stuck description := ⟨place, shape, wanted, indivisible⟩
  rw [conversionResult, converted]
  refine ⟨?_, fun noLayout => absurd fits noLayout,
    fun _ => ⟨place, shape, wanted, indivisible, rfl⟩, ?_, ?_, ?_⟩ <;>
    simp [ConversionResult.ofFailure, Failure.kind, SourceError.isMalformed, fits, stuck, apart,
      something]

end Answers

theorem conversionResult_answers {settings : Settings} {fileName : String}
    (detected : settings.detectFormat? fileName = some .json) {text : String} {description : Value}
    (holds : Json.read text = .ok description) :
    (conversionResult settings fileName text).Answers settings text description := by
  have filled : isBlankText text = false := by
    rw [← Bool.not_eq_true, isBlankText, List.all_eq_true]
    exact Json.not_blank_of_read holds
  have sameReading : Document.ofSource .json text = Document.ofValue description := by
    rw [Document.ofSource, Document.ofJson, holds]
  rcases Layout.ofValue_cases description with ⟨noLayout, failed⟩ | ⟨fits, lists⟩
  · exact answers_of_unknownLayout detected filled (sameReading.trans failed) noLayout
  · cases read : Document.ofValue description with
    | ok document =>
        have free := ((Layout.ends_ofValue description).succeeds.mp ⟨document, read⟩).2
        exact answers_of_ok detected filled (sameReading.trans read) fits free
    | error cause =>
        obtain ⟨place, shape, wanted, indivisible, rfl⟩ := lists.stopped cause read
        exact answers_of_notListable detected filled (sameReading.trans read) fits wanted
          indivisible

/-- A JSON text that holds a value is refused as a whole if the value has
neither layout, fails for an internal reason if an indivisible value stands at
one of its places, and is read as a document otherwise; a conversion answers
accordingly. -/
theorem ofJson_ends_and_conversion_answers {text : String} {description : Value}
    (holds : Json.read text = .ok description) :
    Layout.Ends description (Document.ofJson text) ∧
      ∀ (settings : Settings) (fileName : String),
        settings.detectFormat? fileName = some .json →
          (conversionResult settings fileName text).Answers settings text description := by
  refine ⟨?_, fun settings fileName detected => conversionResult_answers detected holds⟩
  rw [Document.ofJson, holds]
  exact Layout.ends_ofValue description

/-- A model whose fields are a number. -/
def numberedFields : Value :=
  .object [("models", .array [.object [("name", .string "A"), ("fields", .int 5)]])]

/-- The number cannot be listed, which is reported as an internal failure. -/
theorem conversion_answers_numberedFields :
    Json.read (numberedFields.write Json.quoteAscii .line) = .ok numberedFields ∧
      Layout.Stuck numberedFields ∧
      ({} : Settings).detectFormat? "a.json" = some .json ∧
      (conversionResult {} "a.json" (numberedFields.write Json.quoteAscii .line)).errorKind =
        some .conversionInternal := by
  have readable : Json.Readable numberedFields := by
    refine .object (by decide) (List.forall_mem_singleton.mpr (.array
      (List.forall_mem_singleton.mpr (.object (by decide) (List.forall_mem_cons.mpr ?_)))))
    exact ⟨.string "A", List.forall_mem_singleton.mpr (.int (by decide))⟩
  have holds := Json.read_write Json.readsBack_quoteAscii readable .line
  have detected : ({} : Settings).detectFormat? "a.json" = some .json := by decide +kernel
  have kind : (conversionResult {} "a.json"
      (numberedFields.write Json.quoteAscii .line)).errorKind = some .conversionInternal := by
    decide +kernel
  obtain ⟨-, answers⟩ := ofJson_ends_and_conversion_answers holds
  exact ⟨holds, (answers {} "a.json" detected).conversionInternal.mp kind, detected, kind⟩

end Crowsfoot
