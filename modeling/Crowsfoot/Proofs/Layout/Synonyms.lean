import Crowsfoot.Proofs.Json.Values
import Crowsfoot.Proofs.Layout.RespelledColumns

/-!
# Synonyms of the tables layout

It does not matter which name of a group a description uses, or whether columns
are an object or a list, with one exception: the name of a column that is also
named from outside.
-/

namespace Crowsfoot

open Json (Value)

namespace Layout.Tables

theorem apart_relationGroups : Apart relationGroups := by
  decide +kernel

theorem RespelledRelation.relationKey?_eq {relation other : Value}
    (respelled : RespelledRelation relation other) :
    relationKey? relation = relationKey? other := by
  have filled {group : List String} (listed : group ∈ relationGroups) :
      firstFilled relation group = firstFilled other group :=
    Respelled.firstFilled_eq respelled apart_relationGroups listed
      (fun _ _ _ same => congrArg Value.isFilled same) fun _ _ _ _ same => same
  have named : relation.get "name" = other.get "name" := by
    rw [Value.get, Respelled.get?_eq respelled (by decide) fun _ _ same => same, Value.get]
  simp only [relationKey?, firstText, Export.flag, Respelled.isObject_eq respelled, named,
    filled (by decide : relationTargetNames ∈ relationGroups),
    filled (by decide : relationColumnNames ∈ relationGroups),
    filled (by decide : relationReferenceNames ∈ relationGroups)]
  rfl

/-- The foreign keys of the relations in a value. -/
def relationKeysIn (listed : Value) : Except SourceError (List ForeignKey) :=
  listed.listed.map (·.filterMap relationKey?)

theorem RespelledRelations.isFilled_eq {listed other : Value}
    (respelled : RespelledRelations listed other) : listed.isFilled = other.isFilled := by
  cases respelled with
  | same => rfl
  | list each => cases each <;> rfl

theorem RespelledRelations.relationKeysIn_eq {listed other : Value}
    (respelled : RespelledRelations listed other) :
    relationKeysIn listed = relationKeysIn other := by
  have listedItems (items : List Value) : (Value.array items).listed = .ok items := by
    cases items <;> rfl
  cases respelled with
  | same => rfl
  | list each =>
      rw [relationKeysIn, relationKeysIn, listedItems, listedItems]
      exact congrArg Except.ok
        (filterMap_of_forall₂ (each.imp fun _ _ => RespelledRelation.relationKey?_eq))

/-! ## Tables -/

theorem apart_tableGroups : Apart tableGroups := by
  decide +kernel

theorem distinct_of_firstFilled {value found : Value} {group : List String}
    (distinct : value.Distinct) (filled : firstFilled value group = some found) :
    found.Distinct := by
  obtain ⟨name, -, rfl⟩ := List.mem_map.mp (List.mem_of_find?_eq_some filled)
  exact distinct.get name

theorem AlikeInTable.isFilled_eq (name : String) (value other : Value)
    (alike : AlikeInTable name value other) : value.isFilled = other.isFilled := by
  rw [AlikeInTable] at alike
  split at alike
  · exact alike.isFilled_eq
  · split at alike
    · exact alike.isFilled_eq
    · rw [alike]

/-- The foreign keys of the relations of a table. -/
def relationKeys (table : Value) : Except SourceError (List ForeignKey) :=
  ((firstFilled table relationListNames).map relationKeysIn).getD (.ok [])

/-- The table with given foreign keys of relations. -/
def tableWith (table : Value) (keys : List ForeignKey) : Table where
  name := tableName (firstText table tableNames "")
  columns := (columnsRead table).map Prod.fst
  foreignKeys := (columnsRead table).filterMap Prod.snd ++ keys

/-- A table is read from the keys of its relations. -/
theorem tableOf_eq (table : Value) :
    tableOf table = (relationKeys table).map (tableWith table) := by
  have columns : (namedColumns table).map (fun named => columnOf named.1 named.2) =
      (columnsRead table).map Prod.fst := by
    rw [columnsRead, namedColumns, List.map_filterMap, List.map_filterMap]
    refine congrArg (List.filterMap · _) (funext fun column => ?_)
    rw [readColumn?, readName?]
    cases firstFilled column columnNames <;> rfl
  have keys : (namedColumns table).filterMap (fun named => columnKey? named.1 named.2) =
      (columnsRead table).filterMap Prod.snd := by
    rw [columnsRead, namedColumns, List.filterMap_filterMap, List.filterMap_filterMap]
    refine congrArg (List.filterMap · _) (funext fun column => ?_)
    rw [readColumn?, readName?]
    cases firstFilled column columnNames <;> rfl
  have shown (others : List ForeignKey) :
      { name := tableName (firstText table tableNames "")
        columns := (namedColumns table).map fun named => columnOf named.1 named.2
        foreignKeys := (namedColumns table).filterMap (fun named => columnKey? named.1 named.2) ++
          others } = tableWith table others := by
    rw [columns, keys, tableWith]
  rw [tableOf, relationKeys, relations]
  cases firstFilled table relationListNames with
  | none => exact congrArg Except.ok (shown [])
  | some listed =>
      rw [Option.map_some, Option.getD_some, relationKeysIn]
      cases found : listed.listed with
      | error cause =>
          simp only [found]
          rfl
      | ok relations =>
          simp only [found]
          exact congrArg Except.ok (shown _)

/-- Where the columns of two tables are objects, the definitions keep their
names. -/
def KeepsNames (table other : Value) : Prop :=
  ∀ columns others, firstFilled table columnListNames = some columns →
    firstFilled other columnListNames = some others → ColumnsKeepNames columns others

namespace RespelledTable

variable {table other : Value} (respelled : RespelledTable table other)
include respelled

theorem name_eq : firstText table tableNames "" = firstText other tableNames "" := by
  have plain : ∀ name ∈ tableNames,
      columnListNames.contains name = false ∧ relationListNames.contains name = false := by
    decide
  have same : firstFilled table tableNames = firstFilled other tableNames := by
    refine Respelled.firstFilled_eq respelled apart_tableGroups (by decide)
      AlikeInTable.isFilled_eq fun name inGroup value other alike => ?_
    obtain ⟨notColumns, notRelations⟩ := plain name inGroup
    rwa [AlikeInTable, notColumns, notRelations] at alike
  rw [firstText, same, firstText]

theorem relationKeys_eq : relationKeys table = relationKeys other := by
  have relationsOnly : ∀ name ∈ relationListNames, columnListNames.contains name = false := by
    decide
  have found := Respelled.firstFilled_rel respelled apart_tableGroups
    (by decide : relationListNames ∈ tableGroups) AlikeInTable.isFilled_eq
  rw [relationKeys, relationKeys]
  generalize firstFilled table relationListNames = listed at found ⊢
  generalize firstFilled other relationListNames = others at found ⊢
  cases found with
  | none => rfl
  | some here =>
      rw [Option.map_some, Option.map_some, Option.getD_some, Option.getD_some]
      rcases here with rfl | ⟨name, inGroup, alike⟩
      · rfl
      · rw [AlikeInTable, relationsOnly name inGroup, List.contains_iff_mem.mpr inGroup] at alike
        exact RespelledRelations.relationKeysIn_eq alike

theorem columns_cases :
    firstFilled table columnListNames = none ∧ firstFilled other columnListNames = none ∨
      ∃ columns others, firstFilled table columnListNames = some columns ∧
        firstFilled other columnListNames = some others ∧ RespelledColumns columns others := by
  have found := Respelled.firstFilled_rel respelled apart_tableGroups
    (by decide : columnListNames ∈ tableGroups) AlikeInTable.isFilled_eq
  generalize firstFilled table columnListNames = columns at found ⊢
  generalize firstFilled other columnListNames = others at found ⊢
  cases found with
  | none => exact .inl ⟨rfl, rfl⟩
  | some here =>
      refine .inr ⟨_, _, rfl, rfl, ?_⟩
      rcases here with rfl | ⟨name, inGroup, alike⟩
      · exact .same _
      · rwa [AlikeInTable, List.contains_iff_mem.mpr inGroup] at alike

variable (distinct : table.Distinct) (otherDistinct : other.Distinct)
include distinct otherDistinct

theorem columnsRead_eq (keeps : KeepsNames table other) :
    columnsRead table = columnsRead other := by
  rw [columnsRead, columnsRead, columnDefinitions_eq, columnDefinitions_eq]
  rcases columns_cases respelled with ⟨none, otherNone⟩ | ⟨columns, others, some, otherSome, alike⟩
  · rw [none, otherNone]
  · rw [some, otherSome]
    exact alike.filterMap_readColumn?_eq (distinct_of_firstFilled distinct some)
      (distinct_of_firstFilled otherDistinct otherSome) (keeps columns others some otherSome)

theorem keepsNames (same : (columnsRead table).map Prod.fst = (columnsRead other).map Prod.fst) :
    KeepsNames table other := by
  intro columns others found otherFound
  rcases columns_cases respelled with ⟨none, -⟩ | ⟨_, _, some, otherSome, alike⟩
  · rw [none] at found
    contradiction
  · obtain rfl := Option.some.inj (found.symm.trans some)
    obtain rfl := Option.some.inj (otherFound.symm.trans otherSome)
    rw [columnsRead, columnsRead, columnDefinitions_eq, columnDefinitions_eq, found,
      otherFound] at same
    exact alike.keepNames (distinct_of_firstFilled distinct found)
      (distinct_of_firstFilled otherDistinct otherFound) same

/-- Respelled tables are read alike, with the same columns exactly if definitions
keep their names. -/
theorem endAlike_tableOf : EndAlike (KeepsNames table other) (tableOf table) (tableOf other) := by
  rw [tableOf_eq, tableOf_eq, relationKeys_eq respelled]
  cases relationKeys other with
  | error cause => exact .error cause
  | ok keys =>
      refine .ok ⟨fun same => ?_, fun keeps => ?_⟩
      · exact keepsNames respelled distinct otherDistinct (congrArg Table.columns same)
      · rw [tableWith, tableWith, name_eq respelled,
          columnsRead_eq respelled distinct otherDistinct keeps]

end RespelledTable

/-! ## Descriptions -/

theorem apart_descriptionGroups : Apart descriptionGroups := by
  decide

theorem AlikeInDescription.isFilled_eq (name : String) (value other : Value)
    (alike : AlikeInDescription name value other) : value.isFilled = other.isFilled := by
  rw [AlikeInDescription] at alike
  split at alike
  · cases alike with
    | same => rfl
    | list each => cases each <;> rfl
  · rw [alike]

/-- The tables in a value. -/
def tablesIn : Value → List Value
  | .array items => items.filter Value.isObject
  | _ => []

theorem tableDescriptions_eq (description : Value) :
    tableDescriptions description =
      ((firstFilled description tableListNames).map tablesIn).getD [] := by
  rw [tableDescriptions]
  cases firstFilled description tableListNames with
  | none => rfl
  | some tables => cases tables <;> rfl

theorem RespelledTables.forall₂_tablesIn {tables others : Value}
    (respelled : RespelledTables tables others) :
    List.Forall₂ RespelledTable (tablesIn tables) (tablesIn others) := by
  cases respelled with
  | same => exact List.forall₂_same.mpr fun _ _ => .same _
  | list each =>
      exact List.rel_filter (p := Value.isObject) (q := Value.isObject)
        (fun _ _ related => Bool.eq_iff_iff.mp (Respelled.isObject_eq related)) each

theorem distinct_of_mem_tableDescriptions {description table : Value}
    (distinct : description.Distinct) (member : table ∈ tableDescriptions description) :
    table.Distinct := by
  rw [tableDescriptions_eq] at member
  cases found : firstFilled description tableListNames with
  | none =>
      rw [found] at member
      contradiction
  | some tables =>
      rw [found, Option.map_some, Option.getD_some] at member
      cases distinct_of_firstFilled distinct found with
      | array each => exact each table (List.mem_filter.mp member).1
      | _ => contradiction

namespace RespelledDescription

variable {description other : Value} (respelled : RespelledDescription description other)
include respelled

theorem forall₂_tableDescriptions :
    List.Forall₂ RespelledTable (tableDescriptions description) (tableDescriptions other) := by
  have found := Respelled.firstFilled_rel respelled apart_descriptionGroups
    (by decide : tableListNames ∈ descriptionGroups) AlikeInDescription.isFilled_eq
  rw [tableDescriptions_eq, tableDescriptions_eq]
  generalize firstFilled description tableListNames = tables at found ⊢
  generalize firstFilled other tableListNames = others at found ⊢
  cases found with
  | none => exact .nil
  | some here =>
      rw [Option.map_some, Option.map_some, Option.getD_some, Option.getD_some]
      rcases here with rfl | ⟨name, inGroup, alike⟩
      · exact RespelledTables.forall₂_tablesIn (.same _)
      · rw [AlikeInDescription, List.contains_iff_mem.mpr inGroup] at alike
        exact RespelledTables.forall₂_tablesIn alike

theorem has_eq {name : String} (outside : name ∉ tableListNames) :
    description.has name = other.has name := by
  rw [Value.has, Respelled.get?_eq respelled (by simpa [descriptionGroups] using outside) ?_,
    Value.has]
  intro value other alike
  rwa [AlikeInDescription, if_neg (by simpa using outside)] at alike

/-- A respelled description has the tables layout if the description has. -/
theorem matchesLayout_eq : matchesLayout description = matchesLayout other := by
  cases respelled with
  | same => rfl
  | @object members others sole each =>
      have found := memberIn?_rel each apart_descriptionGroups
        (by decide : tableListNames ∈ descriptionGroups)
      rw [matchesLayout, any_has_eq, matchesLayout, any_has_eq]
      generalize memberIn? tableListNames members = first at found ⊢
      generalize memberIn? tableListNames others = second at found ⊢
      cases found <;> rfl

/-- A respelled description has the export layout if the description has. -/
theorem matchesExport_eq :
    Export.matchesLayout description = Export.matchesLayout other := by
  have models := has_eq respelled (by decide : "models" ∉ tableListNames)
  have enums := has_eq respelled (by decide : "enums" ∉ tableListNames)
  cases respelled with
  | same => rfl
  | object sole each => rw [Export.matchesLayout, models, enums, Export.matchesLayout]

/-- Respelled descriptions are read alike, with the same tables exactly if
definitions keep their names. -/
theorem endAlike_document (distinct : description.Distinct) (otherDistinct : other.Distinct) :
    EndAlike (List.Forall₂ KeepsNames (tableDescriptions description) (tableDescriptions other))
      (document description) (document other) := by
  have tables := (List.forall₂_and_left (tableDescriptions description) _).mpr
    ⟨fun _ => distinct_of_mem_tableDescriptions distinct, forall₂_tableDescriptions respelled⟩
  have both := (List.forall₂_and_left (tableDescriptions other) _).mpr
    ⟨fun _ => distinct_of_mem_tableDescriptions otherDistinct, tables.flip⟩
  have each : List.Forall₂ (fun table renamed =>
      EndAlike (KeepsNames table renamed) (tableOf table) (tableOf renamed))
      (tableDescriptions description) (tableDescriptions other) :=
    both.flip.imp fun _ _ related =>
      RespelledTable.endAlike_tableOf related.2.2 related.2.1 related.1
  have read := endAlike_mapM each
  rw [document, document]
  generalize (tableDescriptions description).mapM tableOf = first at read ⊢
  generalize (tableDescriptions other).mapM tableOf = second at read ⊢
  cases read with
  | error cause => exact .error cause
  | ok same =>
      refine .ok (Iff.trans ⟨congrArg Document.tables, fun sameTables => ?_⟩ same)
      exact congrArg (fun tables => ({ format := SourceFormat.json.name, tables } : Document))
        sameTables

end RespelledDescription

end Layout.Tables

open Layout.Tables

/-- A text with the tables layout and a respelling of it end alike: with the same
error, or with documents that are the same exactly if definitions of columns
that are an object in both keep their names. -/
theorem Document.ofJson_respelled {text other : String} {description respelled : Value}
    (read : Json.read text = .ok description) (readOther : Json.read other = .ok respelled)
    (noExport : Layout.Export.matchesLayout description = false)
    (alike : RespelledDescription description respelled) :
    EndAlike (List.Forall₂ KeepsNames (tableDescriptions description)
        (tableDescriptions respelled))
      (Document.ofJson text) (Document.ofJson other) := by
  have respelledNoExport := alike.matchesExport_eq ▸ noExport
  have sameLayout := alike.matchesLayout_eq
  simp only [ofJson, read, readOther, ofValue, noExport, respelledNoExport, ← sameLayout,
    Bool.false_eq_true, if_false]
  split
  · exact alike.endAlike_document (Json.distinct_of_read read) (Json.distinct_of_read readOther)
  · exact .error _

/-- A description of one table. -/
def described (key : String) (table : Value) : Value :=
  .object [(key, .array [table])]

def describedText (key : String) (table : Value) : String :=
  (described key table).write Json.quoteAscii .line

theorem read_describedText {table : Value} (readable : Json.Readable table) (key : String) :
    Json.read (describedText key table) = .ok (described key table) := by
  have description : Json.Readable (described key table) :=
    .object (List.nodup_singleton key)
      (List.forall_mem_singleton.mpr (.array (List.forall_mem_singleton.mpr readable)))
  exact Json.read_write Json.readsBack_quoteAscii description .line

theorem tableDescriptions_described {key : String} {table : Value}
    (named : key ∈ tableListNames) (object : table.isObject = true) :
    tableDescriptions (described key table) = [table] := by
  have sole : ([(key, Value.array [table])].filter fun member =>
      tableListNames.contains member.1).length ≤ 1 := List.length_filter_le _ _
  have filled : firstFilled (described key table) tableListNames = some (.array [table]) := by
    rw [described, firstFilled_of_sole sole, memberIn?,
      List.find?_cons_of_pos (by simpa using named)]
    rfl
  rw [tableDescriptions_eq, filled, Option.map_some, Option.getD_some, tablesIn,
    List.filter_cons_of_pos object, List.filter_nil]

def userKey : Value :=
  .object [("table", .string "user")]

theorem readable_userKey : Json.Readable userKey :=
  .object (List.nodup_singleton "table") (List.forall_mem_singleton.mpr (.string "user"))

def authorColumn : List (String × Value) :=
  [("type", .string "int"), ("references", userKey)]

def listedAuthor : Value :=
  .object [("columnName", .string "author"), ("dataType", .string "int"), ("foreignKey", userKey)]

def mappedTable : Value :=
  .object [("name", .string "post"), ("columns", .object [("author", .object authorColumn)])]

/-- The table with other names and a list of columns. -/
def listedTable : Value :=
  .object [("tableName", .string "post"), ("fields", .array [listedAuthor])]

theorem readable_mappedTable : Json.Readable mappedTable := by
  have column : Json.Readable (.object authorColumn) :=
    .object (by decide) (List.forall_mem_cons.mpr
      ⟨.string "int", List.forall_mem_singleton.mpr readable_userKey⟩)
  have columns : Json.Readable (.object [("author", .object authorColumn)]) :=
    .object (List.nodup_singleton "author") (List.forall_mem_singleton.mpr column)
  exact .object (by decide) (List.forall_mem_cons.mpr
    ⟨.string "post", List.forall_mem_singleton.mpr columns⟩)

theorem readable_listedTable : Json.Readable listedTable := by
  have column : Json.Readable listedAuthor :=
    .object (by decide) (List.forall_mem_cons.mpr ⟨.string "author",
      List.forall_mem_cons.mpr ⟨.string "int", List.forall_mem_singleton.mpr readable_userKey⟩⟩)
  exact .object (by decide) (List.forall_mem_cons.mpr ⟨.string "post",
    List.forall_mem_singleton.mpr (.array (List.forall_mem_singleton.mpr column))⟩)

theorem respelledTable_listedTable : RespelledTable mappedTable listedTable := by
  have author : RespelledColumn (.object (("name", .string "author") :: authorColumn))
      listedAuthor :=
    .object (by decide +kernel)
      (.cons ⟨.inr (by decide), rfl⟩ (.cons ⟨.inr (by decide), rfl⟩
        (.cons ⟨.inr (by decide), rfl⟩ .nil)))
  have columns : RespelledColumns (.object [("author", .object authorColumn)])
      (.array [listedAuthor]) :=
    .listed (List.forall_mem_singleton.mpr (by decide +kernel)) (.cons author .nil)
  exact .object (by decide +kernel)
    (.cons ⟨.inr (by decide), .same _ _⟩
      (.cons ⟨.inr (by decide), .of_columns (by decide) columns⟩ .nil))

/-- The columns of the second table are no object. -/
theorem keepsNames_listedTable : KeepsNames mappedTable listedTable := by
  have listed : firstFilled listedTable columnListNames = some (.array [listedAuthor]) := by
    simp [firstFilled, listedTable, columnListNames, Value.get, Value.get?, Value.members,
      Value.isFilled, List.lookup_cons]
  intro _ others _ found _ _ _ equal
  have array := Option.some.inj (found.symm.trans listed)
  rw [equal] at array
  contradiction

/-- Both texts are read as one document. -/
theorem ofJson_respelled_listedTable :
    Json.read (describedText "tables" mappedTable) = .ok (described "tables" mappedTable) ∧
      Json.read (describedText "schemas" listedTable) = .ok (described "schemas" listedTable) ∧
      Layout.Export.matchesLayout (described "tables" mappedTable) = false ∧
      RespelledDescription (described "tables" mappedTable) (described "schemas" listedTable) ∧
      Document.ofJson (describedText "tables" mappedTable) =
        Document.ofJson (describedText "schemas" listedTable) := by
  have read := read_describedText readable_mappedTable "tables"
  have readOther := read_describedText readable_listedTable "schemas"
  have noExport : Layout.Export.matchesLayout (described "tables" mappedTable) = false := by
    decide +kernel
  have tables : RespelledTables (.array [mappedTable]) (.array [listedTable]) :=
    .list (.cons respelledTable_listedTable .nil)
  have alike : RespelledDescription (described "tables" mappedTable)
      (described "schemas" listedTable) :=
    .object (by decide +kernel) (.cons ⟨.inr (by decide), .of_tables (by decide) tables⟩ .nil)
  have mapped : tableDescriptions (described "tables" mappedTable) = [mappedTable] :=
    tableDescriptions_described (by decide) rfl
  have listed : tableDescriptions (described "schemas" listedTable) = [listedTable] :=
    tableDescriptions_described (by decide) rfl
  have same := (Document.ofJson_respelled read readOther noExport alike).eq_of
    (by rw [mapped, listed]; exact .cons keepsNames_listedTable .nil)
  exact ⟨read, readOther, noExport, alike, same⟩

/-- A column that is named inside of its definition, too. -/
def renamedColumn (key : String) : Value :=
  .object [(key, .string "b"), ("type", .string "int")]

def renamedTable (key : String) : Value :=
  .object [("name", .string "t"), ("columns", .object [("a", renamedColumn key)])]

theorem readable_renamedTable {key : String} (other : key ≠ "type") :
    Json.Readable (renamedTable key) := by
  have column : Json.Readable (renamedColumn key) :=
    .object (by simpa [Assoc.keys] using other)
      (List.forall_mem_cons.mpr ⟨.string "b", List.forall_mem_singleton.mpr (.string "int")⟩)
  have columns : Json.Readable (.object [("a", renamedColumn key)]) :=
    .object (List.nodup_singleton "a") (List.forall_mem_singleton.mpr column)
  exact .object (by simp [Assoc.keys])
    (List.forall_mem_cons.mpr ⟨.string "t", List.forall_mem_singleton.mpr columns⟩)

theorem respelledTable_renamedTable :
    RespelledTable (renamedTable "name") (renamedTable "columnName") := by
  have column : RespelledColumn (renamedColumn "name") (renamedColumn "columnName") :=
    .object (by decide +kernel)
      (.cons ⟨.inr (by decide), rfl⟩ (.cons ⟨.inl rfl, rfl⟩ .nil))
  exact .object (by decide +kernel)
    (.cons ⟨.inl rfl, .same _ _⟩
      (.cons ⟨.inl rfl, .of_columns (by decide) (.mapping (.cons ⟨rfl, column⟩ .nil))⟩ .nil))

/-- The names of the columns of all tables. -/
def columnNamesRead (text : String) : Option (List (List String)) :=
  (Document.ofJson text).toOption.map fun document =>
    document.tables.map fun table => table.columns.map Column.name

/-- Of the names inside of a definition only `name` wins. -/
theorem ofJson_respelled_columnName :
    Json.read (describedText "tables" (renamedTable "name")) =
        .ok (described "tables" (renamedTable "name")) ∧
      Json.read (describedText "tables" (renamedTable "columnName")) =
        .ok (described "tables" (renamedTable "columnName")) ∧
      Layout.Export.matchesLayout (described "tables" (renamedTable "name")) = false ∧
      RespelledDescription (described "tables" (renamedTable "name"))
        (described "tables" (renamedTable "columnName")) ∧
      columnNamesRead (describedText "tables" (renamedTable "name")) = some [["b"]] ∧
      columnNamesRead (describedText "tables" (renamedTable "columnName")) = some [["a"]] := by
  have read := read_describedText (readable_renamedTable (by decide : "name" ≠ "type")) "tables"
  have readOther :=
    read_describedText (readable_renamedTable (by decide : "columnName" ≠ "type")) "tables"
  have tables : RespelledTables (.array [renamedTable "name"])
      (.array [renamedTable "columnName"]) :=
    .list (.cons respelledTable_renamedTable .nil)
  have alike : RespelledDescription (described "tables" (renamedTable "name"))
      (described "tables" (renamedTable "columnName")) :=
    .object (by decide +kernel) (.cons ⟨.inl rfl, .of_tables (by decide) tables⟩ .nil)
  exact ⟨read, readOther, by decide +kernel, alike, by decide +kernel, by decide +kernel⟩

end Crowsfoot
