import Crowsfoot.Assoc
import Mathlib.Data.List.Induction

/-!
# Laws of insertion order

What a map made from pairs answers: every entry is one of the pairs, the last
one with a key counts, and pairs with distinct keys are the map as they stand.
-/

namespace Crowsfoot.Assoc

variable {κ α : Type} [BEq κ] [LawfulBEq κ]

theorem mem_of_lookup {entries : List (κ × α)} {key : κ} {value : α}
    (found : entries.lookup key = some value) : (key, value) ∈ entries := by
  obtain ⟨before, after, rfl, -⟩ := List.lookup_eq_some_iff.mp found
  exact List.mem_append_right _ List.mem_cons_self

/-- A key has a value exactly if one is found under it. -/
theorem hasKey_eq_isSome_lookup (entries : List (κ × α)) (key : κ) :
    hasKey entries key = (entries.lookup key).isSome := by
  induction entries with
  | nil => rfl
  | cons entry later ih =>
      obtain ⟨present, value⟩ := entry
      rw [hasKey] at ih ⊢
      rw [List.any_cons, ih, List.lookup_cons, BEq.comm (a := key)]
      cases present == key <;> rfl

theorem mem_of_mem_insert {entries : List (κ × α)} {key : κ} {value : α} {entry : κ × α}
    (member : entry ∈ insert entries key value) : entry ∈ entries ∨ entry = (key, value) := by
  induction entries with
  | nil => exact .inr (List.mem_singleton.mp member)
  | cons first later ih =>
      obtain ⟨present, old⟩ := first
      simp only [insert] at member
      split at member
      · rename_i same
        rcases List.mem_cons.mp member with here | inLater
        · exact .inr (here.trans (by rw [beq_iff_eq.mp same]))
        · exact .inl (List.mem_cons_of_mem _ inLater)
      · rcases List.mem_cons.mp member with here | inLater
        · exact .inl (here ▸ List.mem_cons_self)
        · rcases ih inLater with old | new
          · exact .inl (List.mem_cons_of_mem _ old)
          · exact .inr new

/-- Every entry of a map is one of the pairs it was made from. -/
theorem mem_of_mem_ofList {pairs : List (κ × α)} {entry : κ × α}
    (member : entry ∈ ofList pairs) : entry ∈ pairs := by
  have fromEntries : ∀ (pairs entries : List (κ × α)),
      entry ∈ pairs.foldl (fun entries pair => insert entries pair.1 pair.2) entries →
        entry ∈ entries ∨ entry ∈ pairs := by
    intro pairs
    induction pairs with
    | nil => exact fun entries inEntries => .inl inEntries
    | cons first later ih =>
        intro entries inFold
        rcases ih _ inFold with inInsert | inLater
        · rcases mem_of_mem_insert inInsert with old | rfl
          · exact .inl old
          · exact .inr List.mem_cons_self
        · exact .inr (List.mem_cons_of_mem _ inLater)
  rcases fromEntries pairs [] member with inNone | inPairs
  · contradiction
  · exact inPairs

/-- A key that is new to a map is entered at its end. -/
theorem insert_of_notMem {entries : List (κ × α)} {key : κ} (new : key ∉ keys entries)
    (value : α) : insert entries key value = entries ++ [(key, value)] := by
  induction entries with
  | nil => rfl
  | cons first later ih =>
      obtain ⟨present, old⟩ := first
      simp only [keys, List.map_cons, List.mem_cons, not_or] at new
      have other : (present == key) = false := by
        simp only [beq_eq_false_iff_ne, ne_eq]
        exact fun same => new.1 same.symm
      simp only [insert, other, Bool.false_eq_true, if_false]
      rw [ih new.2, List.cons_append]

/-- Pairs with distinct keys are a map as they stand. -/
theorem ofList_of_nodup {pairs : List (κ × α)} (distinct : (keys pairs).Nodup) :
    ofList pairs = pairs := by
  have fromEntries : ∀ (pairs entries : List (κ × α)), (keys (entries ++ pairs)).Nodup →
      pairs.foldl (fun entries pair => insert entries pair.1 pair.2) entries =
        entries ++ pairs := by
    intro pairs
    induction pairs with
    | nil => exact fun entries _ => by simp
    | cons first later ih =>
        intro entries distinct
        have new : first.1 ∉ keys entries := by
          simp only [keys, List.map_append, List.map_cons] at distinct
          exact fun member => (List.nodup_append.mp distinct).2.2 _ member _
            List.mem_cons_self rfl
        rw [List.foldl_cons, insert_of_notMem new, ih _ (by simpa using distinct)]
        simp
  exact fromEntries pairs [] distinct

theorem lookup_of_mem {entries : List (κ × α)} (distinct : (keys entries).Nodup) {key : κ}
    {value : α} (member : (key, value) ∈ entries) : entries.lookup key = some value := by
  induction entries with
  | nil => contradiction
  | cons first later ih =>
      obtain ⟨present, old⟩ := first
      simp only [keys, List.map_cons, List.nodup_cons] at distinct
      rcases List.mem_cons.mp member with here | inLater
      · obtain ⟨rfl, rfl⟩ := Prod.mk.inj here
        exact List.lookup_cons_self
      · have other : (key == present) = false := by
          simp only [beq_eq_false_iff_ne, ne_eq]
          rintro rfl
          exact distinct.1 (List.mem_map_of_mem inLater)
        rw [List.lookup_cons, other]
        exact ih distinct.2 inLater

/-- The value that was entered is found under its key; other keys keep theirs. -/
theorem lookup_insert (entries : List (κ × α)) (key : κ) (value : α) (sought : κ) :
    (insert entries key value).lookup sought =
      if sought == key then some value else entries.lookup sought := by
  induction entries with
  | nil =>
      rw [insert, List.lookup_cons, List.lookup_nil]
      cases sought == key <;> rfl
  | cons first later ih =>
      obtain ⟨present, old⟩ := first
      rw [insert]
      by_cases same : present = key
      · subst same
        rw [if_pos (beq_self_eq_true _), List.lookup_cons, List.lookup_cons]
        cases sought == present <;> rfl
      · have other : (present == key) = false := beq_eq_false_iff_ne.mpr same
        rw [other, if_neg Bool.false_ne_true, List.lookup_cons, List.lookup_cons, ih]
        by_cases here : sought = present
        · subst here
          simp [other]
        · have elsewhere : (sought == present) = false := beq_eq_false_iff_ne.mpr here
          rw [elsewhere]

/-- Of several pairs with one key the last one counts. -/
theorem lookup_ofList (pairs : List (κ × α)) (key : κ) :
    (ofList pairs).lookup key = ((pairs.filter (·.1 == key)).getLast?).map Prod.snd := by
  induction pairs using List.reverseRecOn with
  | nil => rfl
  | append_singleton before last ih =>
      rw [ofList, List.foldl_append, ← ofList, List.foldl_cons, List.foldl_nil, lookup_insert, ih,
        List.filter_append]
      by_cases same : key = last.1
      · subst same
        simp
      · have other : (key == last.1) = false := beq_eq_false_iff_ne.mpr same
        have filtered : (last.1 == key) = false := beq_eq_false_iff_ne.mpr (Ne.symm same)
        simp [other, filtered]

/-- Entering a key keeps the keys distinct. -/
theorem nodup_keys_insert {entries : List (κ × α)} (distinct : (keys entries).Nodup) (key : κ)
    (value : α) : (keys (insert entries key value)).Nodup := by
  rw [keys_insert]
  split
  · exact distinct
  · rename_i new
    have absent : key ∉ keys entries := by
      intro member
      obtain ⟨entry, inEntries, rfl⟩ := List.mem_map.mp member
      exact new (List.any_eq_true.mpr ⟨entry, inEntries, beq_self_eq_true _⟩)
    refine List.nodup_append.mpr ⟨distinct, List.pairwise_singleton _ _, ?_⟩
    intro present inEntries added isKey same
    rw [same, List.mem_singleton.mp isKey] at inEntries
    exact absent inEntries

/-- A map has no key twice. -/
theorem nodup_keys_ofList (pairs : List (κ × α)) : (keys (ofList pairs)).Nodup := by
  induction pairs using List.reverseRecOn with
  | nil => exact List.nodup_nil
  | append_singleton before last ih =>
      rw [ofList, List.foldl_append, ← ofList]
      exact nodup_keys_insert ih _ _

end Crowsfoot.Assoc
