/-!
# Insertion order

Finite maps whose answers show the order in which keys were first entered:
the members of a JSON object, the table of file extensions, the junctions of a
schema.  Such a map is a list of pairs; `List.lookup` reads it, and entering a
key again replaces the value without moving the key.
-/

namespace Crowsfoot.Assoc

variable {κ α : Type} [BEq κ]

/-- Enter a value under a key. -/
def insert (entries : List (κ × α)) (key : κ) (value : α) : List (κ × α) :=
  match entries with
  | [] => [(key, value)]
  | (present, old) :: later =>
      if present == key then (present, value) :: later
      else (present, old) :: insert later key value

/-- The map that results from entering pairs one after another. -/
def ofList (pairs : List (κ × α)) : List (κ × α) :=
  pairs.foldl (fun entries pair => insert entries pair.1 pair.2) []

/-- The keys in the order of their first entry. -/
def keys (entries : List (κ × α)) : List κ :=
  entries.map Prod.fst

/-- Whether a key has a value. -/
def hasKey (entries : List (κ × α)) (key : κ) : Bool :=
  entries.any (·.1 == key)

/-- Entering a key keeps all keys, and adds the key if it is new. -/
theorem keys_insert (entries : List (κ × α)) (key : κ) (value : α) :
    keys (insert entries key value) =
      if hasKey entries key then keys entries else keys entries ++ [key] := by
  induction entries with
  | nil => rfl
  | cons entry later ih =>
      obtain ⟨present, old⟩ := entry
      by_cases same : (present == key) = true
      · simp [insert, keys, hasKey, same]
      · have tail := ih
        simp only [keys, hasKey] at tail
        simp only [insert, keys, hasKey, same, List.any_cons, Bool.false_or, List.map_cons]
        simp only [Bool.false_eq_true, if_false, List.map_cons, tail]
        by_cases known : (later.any fun entry => entry.1 == key) = true <;> simp [known]

end Crowsfoot.Assoc
