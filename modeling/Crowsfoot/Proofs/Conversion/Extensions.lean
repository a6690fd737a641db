import Crowsfoot.Command.Run
import Crowsfoot.Proofs.Dsl.CapitalizedNames
import Crowsfoot.Proofs.Dsl.Names
import Crowsfoot.Proofs.Text.Lines
import Crowsfoot.Proofs.Text.SettledCase
import Mathlib.Data.List.Forall2

/-!
# Configured extensions

Settings bring extensions into a form of their own, in lower case and without
leading dots, and a file name is brought into this form again before its
extension is looked up.  The two agree: an extension is found in every case of
its letters.  The extension of a file is what follows its last dot, so an
extension with a dot inside stands for no file of its own.
-/

namespace Crowsfoot

open Json (Value)
open Text (IsSettled pieces)

/-- What follows the last dot of a name; all of it without a dot. -/
def afterLastDot (name : String) : String :=
  String.ofList ((pieces (· == '.') name.toList).getLastD [])

theorem isDot_toLower (c : Char) : (c.toLower == '.') = (c == '.') := by
  have ascii : ∀ code < 128,
      ((Char.ofNat code).toLower == '.') = (Char.ofNat code == '.') := by
    decide +kernel
  by_cases small : c.toNat < 128
  · have table := ascii c.toNat small
    rwa [Char.ofNat_toNat] at table
  · rw [Text.toLower_of_large (Nat.le_of_not_lt small)]

/-- What follows the last dot does not depend on what stands before a dot. -/
theorem afterLastDot_append (front name : String) :
    afterLastDot (front ++ "." ++ name) = afterLastDot name := by
  have split : (front ++ "." ++ name).toList = front.toList ++ '.' :: name.toList := by simp
  obtain ⟨piece, later, found⟩ := List.exists_cons_of_ne_nil
    (Text.pieces_ne_nil (· == '.') name.toList)
  rw [afterLastDot, split, @Text.pieces_append_cons (· == '.') '.' rfl, afterLastDot, found]
  simp [List.getLastD_eq_getLast?, List.getLast?_cons]

/-- A name without a dot is all of its extension. -/
theorem afterLastDot_of_notMem {name : String} (undotted : '.' ∉ name.toList) :
    afterLastDot name = name := by
  have absent : ∀ c ∈ name.toList, (c == '.') = false := fun c member =>
    beq_eq_false_iff_ne.mpr fun same => undotted (same ▸ member)
  rw [afterLastDot, Text.pieces_of_none absent]
  exact String.ofList_toList

theorem mem_of_mem_afterLastDot {name : String} {c : Char}
    (member : c ∈ (afterLastDot name).toList) : c ∈ name.toList := by
  rw [afterLastDot, String.toList_ofList, List.getLastD_eq_getLast?] at member
  cases last : (pieces (· == '.') name.toList).getLast? with
  | none =>
      rw [last] at member
      contradiction
  | some piece =>
      rw [last] at member
      exact Dsl.mem_of_mem_pieces (List.mem_of_getLast? last) member

/-- Names that agree up to case have extensions that do. -/
theorem SameUpToCase.afterLastDot {first second : String} (same : SameUpToCase first second) :
    SameUpToCase (afterLastDot first) (afterLastDot second) := by
  have lowered (name : String) : (Crowsfoot.afterLastDot name).toList.map Char.toLower =
      (pieces (· == '.') (name.toList.map Char.toLower)).getLastD [] := by
    rw [Text.pieces_map_toLower isDot_toLower, Crowsfoot.afterLastDot, String.toList_ofList,
      List.getLastD_eq_getLast?, List.getLastD_eq_getLast?, List.getLast?_map]
    cases (pieces (· == '.') name.toList).getLast? <;> rfl
  rw [SameUpToCase, lowered, lowered, same]

/-- A settled text is the lower case of each text that agrees with it up to
case. -/
theorem SameUpToCase.lower_eq {variant key : String} (same : SameUpToCase variant key)
    (settled : ∀ c ∈ key.toList, IsSettled c) : Text.lower variant = key := by
  rw [Text.lower, Text.lowerChars, ← Text.lowerFrom_map_toLower, same,
    Text.lowerFrom_map_toLower, ← Text.lowerChars, Text.lowerChars_of_settled settled,
    String.ofList_toList]

namespace Settings

theorem extensionOf_append (front name : String) :
    extensionOf (front ++ "." ++ name) = Text.lower (afterLastDot name) := by
  rw [← afterLastDot_append front name, extensionOf, if_pos (by simp)]
  rfl

/-- The extensions of settings are in lower case, and none stands there twice. -/
structure WellKeyed (settings : Settings) : Prop where
  settled : ∀ key ∈ Assoc.keys settings.extensions, ∀ c ∈ key.toList, IsSettled c
  distinct : (Assoc.keys settings.extensions).Nodup

theorem isSettled_extensionKey (key : Value) : ∀ c ∈ (extensionKey key).toList, IsSettled c := by
  intro c member
  rw [extensionKey, String.toList_ofList] at member
  have lowered := (List.dropWhile_sublist _).subset member
  rw [Text.lower, String.toList_ofList] at lowered
  exact Text.isSettled_of_mem_lowerChars lowered

/-- Extensions that were read are in lower case, and none was read twice. -/
theorem wellKeyed_of_extensionsOf {value : Value} {settings : Settings}
    (read : extensionsOf value = .ok settings.extensions) : settings.WellKeyed := by
  rw [extensionsOf] at read
  cases entered : entriesOf value with
  | error cause =>
      rw [entered] at read
      contradiction
  | ok entries =>
      rw [entered] at read
      simp only at read
      split at read
      · have spelled := (Except.ok.inj read).symm
        constructor
        · intro key member
          rw [Assoc.keys, spelled] at member
          obtain ⟨_, known, rfl⟩ := List.mem_map.mp member
          obtain ⟨entry, inNamed, named⟩ := List.mem_filterMap.mp known
          obtain ⟨format, -, rfl⟩ := Option.map_eq_some_iff.mp named
          obtain ⟨given, -, rfl⟩ := List.mem_map.mp (Assoc.mem_of_mem_ofList inNamed)
          exact isSettled_extensionKey given.1
        · rw [Assoc.keys, List.Nodup, List.pairwise_map, spelled]
          refine List.Pairwise.filterMap _ (fun first second apart => ?_)
            (List.pairwise_map.mp (Assoc.nodup_keys_ofList _))
          intro one oneNamed other otherNamed
          obtain ⟨-, -, rfl⟩ := Option.map_eq_some_iff.mp oneNamed
          obtain ⟨-, -, rfl⟩ := Option.map_eq_some_iff.mp otherNamed
          exact apart
      · contradiction

/-- The extensions of accepted settings are those that are given, or the standard
ones. -/
theorem extensions_of_ofValue {data : Value} {settings : Settings}
    (accepted : ofValue data = .ok settings) :
    (∃ given, extensionsOf given = .ok settings.extensions) ∨
      settings.extensions = ({} : Settings).extensions := by
  simp only [ofValue, bind, Except.bind, pure, Except.pure] at accepted
  split at accepted
  · contradiction
  · cases listed : data.get? "extensions" with
    | none =>
        rw [listed] at accepted
        simp only at accepted
        split at accepted
        · split at accepted
          · contradiction
          · exact .inr (congrArg Settings.extensions (Except.ok.inj accepted)).symm
        · exact .inr (congrArg Settings.extensions (Except.ok.inj accepted)).symm
    | some given =>
        rw [listed] at accepted
        cases read : extensionsOf given with
        | error cause =>
            simp only [read] at accepted
            contradiction
        | ok extensions =>
            simp only [read] at accepted
            have same : extensions = settings.extensions := by
              split at accepted
              · split at accepted
                · contradiction
                · exact congrArg Settings.extensions (Except.ok.inj accepted)
              · exact congrArg Settings.extensions (Except.ok.inj accepted)
            exact .inl ⟨given, same ▸ read⟩

/-- Settings that are accepted are well keyed. -/
theorem wellKeyed_of_ofValue {data : Value} {settings : Settings}
    (accepted : ofValue data = .ok settings) : settings.WellKeyed := by
  rcases extensions_of_ofValue accepted with ⟨given, read⟩ | standard
  · exact wellKeyed_of_extensionsOf read
  · constructor
    · rw [standard]
      decide +kernel
    · rw [standard]
      decide

/-! ## Files with configured extensions -/

/-- A file whose name ends in an extension, up to case, has the notation of what
follows the last dot of the extension. -/
theorem detectFormat?_append {settings : Settings} {variant key : String}
    (same : SameUpToCase variant key) (settled : ∀ c ∈ key.toList, IsSettled c)
    (front : String) :
    settings.detectFormat? (front ++ "." ++ variant) =
      settings.extensions.lookup (afterLastDot key) := by
  have lowered := same.afterLastDot.lower_eq fun c member =>
    settled c (mem_of_mem_afterLastDot member)
  have again : SameUpToCase (afterLastDot key) (afterLastDot key) := rfl
  rw [detectFormat?, formatFor?, extensionOf_append, lowered, again.lower_eq]
  exact fun c member => settled c (mem_of_mem_afterLastDot member)

/-- The line of an extension in the list of notations. -/
def formatLine (settings : Settings) (key : String) : String :=
  "." ++ key ++ "\t" ++
    ((settings.extensions.lookup (afterLastDot key)).map SourceFormat.name).getD "" ++ "\n"

theorem WellKeyed.formatList_eq {settings : Settings} (keyed : settings.WellKeyed) :
    formatList settings =
      String.join ((Assoc.keys settings.extensions).map settings.formatLine) := by
  rw [formatList, supportedExtensions, Assoc.keys, List.map_map, List.map_map]
  refine congrArg String.join (List.map_congr_left fun entry member => ?_)
  have found : settings.detectFormat? ("schema" ++ "." ++ entry.1) = _ :=
    detectFormat?_append rfl (keyed.settled _ (List.mem_map_of_mem member)) "schema"
  rw [String.append_assoc] at found
  simp only [Function.comp_apply, formatLine, found]

/-- Every extension of accepted settings is looked up alike in each case of its
ASCII letters: a file with it has the notation of what follows the last dot.
Without a dot inside this is the extension itself, so the file has its notation,
and the list of notations shows it.  A file has no notation but those that are
configured. -/
theorem detectFormat?_of_ofValue {data : Value} {settings : Settings}
    (accepted : ofValue data = .ok settings) :
    (∀ key format, settings.extensions.lookup key = some format →
      format.name ∈ ["dsl", "sql", "json"] ∧
      ∀ variant, SameUpToCase variant key →
        settings.detectFormat? ("schema." ++ variant) =
          settings.extensions.lookup (afterLastDot key) ∧
        ('.' ∉ key.toList → settings.detectFormat? ("schema." ++ variant) = some format)) ∧
    (∀ fileName format, settings.detectFormat? fileName = some format →
      ∃ key, settings.extensions.lookup key = some format) ∧
    ∃ lines, formatList settings = String.join lines ∧
      List.Forall₂ (fun (key, format) line => '.' ∉ key.toList →
        line = "." ++ key ++ "\t" ++ format.name ++ "\n") settings.extensions lines := by
  have keyed := wellKeyed_of_ofValue accepted
  refine ⟨fun key format configured => ⟨?name, fun variant same => ?files⟩, ?known, ?lines⟩
  case name => cases format <;> decide
  case files =>
    have member := List.mem_map_of_mem (f := Prod.fst) (Assoc.mem_of_lookup configured)
    have found : settings.detectFormat? ("schema." ++ variant) = _ :=
      detectFormat?_append same (keyed.settled key member) "schema"
    refine ⟨found, fun undotted => ?_⟩
    rw [found, afterLastDot_of_notMem undotted, configured]
  case known => exact fun fileName format found => ⟨_, found⟩
  case lines =>
    refine ⟨_, keyed.formatList_eq, ?_⟩
    rw [Assoc.keys, List.map_map, List.forall₂_map_right_iff, List.forall₂_same]
    rintro ⟨key, format⟩ member undotted
    have configured := Assoc.lookup_of_mem keyed.distinct member
    simp only [Function.comp_apply, formatLine, afterLastDot_of_notMem undotted, configured]
    rfl

/-- Extensions with a leading dot, in capitals, and with a dot inside. -/
def scriptSettings : Value :=
  .object [("extensions", .object [(".DDL", .string "SQL"), ("d.ts", .string "json")])]

/-- The capitals are found in either case. -/
theorem detectFormat?_scriptSettings :
    ∃ settings, ofValue scriptSettings = .ok settings ∧
      settings.extensions.lookup "ddl" = some .sql ∧ SameUpToCase "DdL" "ddl" ∧
      settings.detectFormat? "schema.DdL" = some .sql := by
  have listed : (ofValue scriptSettings).toOption.map Settings.extensions =
      some [("ddl", .sql), ("d.ts", .json)] := by
    decide +kernel
  cases accepted : ofValue scriptSettings with
  | error cause =>
      rw [accepted] at listed
      contradiction
  | ok settings =>
      rw [accepted] at listed
      have configured : settings.extensions.lookup "ddl" = some .sql := by
        rw [Option.some.inj listed]
        decide
      have same : SameUpToCase "DdL" "ddl" := by decide
      obtain ⟨recognized, -, -⟩ := detectFormat?_of_ofValue accepted
      obtain ⟨-, files⟩ := recognized "ddl" .sql configured
      exact ⟨settings, rfl, configured, same, (files "DdL" same).2 (by decide)⟩

/-- A dot inside makes the extension of a file another one, with no notation. -/
theorem detectFormat?_dottedExtension :
    (ofValue scriptSettings).toOption.map (fun settings =>
      (settings.extensions.lookup "d.ts", settings.detectFormat? "schema.d.ts")) =
      some (some .json, none) := by
  decide +kernel

end Settings

end Crowsfoot
