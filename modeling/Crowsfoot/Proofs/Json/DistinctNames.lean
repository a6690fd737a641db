import Crowsfoot.Json.Reader
import Crowsfoot.Proofs.Assoc
import Crowsfoot.Proofs.Parts

/-!
# Distinct member names

A member name that is repeated in a text takes its last value, so the objects
that are read have no two members with one name.
-/

namespace Crowsfoot.Json

/-- A value in which no object has two members with one name. -/
inductive Value.Distinct : Value → Prop
  | null : Distinct .null
  | bool (truth : Bool) : Distinct (.bool truth)
  | int (number : Int) : Distinct (.int number)
  | float (number : Float) : Distinct (.float number)
  | string (text : String) : Distinct (.string text)
  | array {items : List Value} (each : ∀ item ∈ items, Distinct item) : Distinct (.array items)
  | object {members : List (String × Value)} (distinct : (Assoc.keys members).Nodup)
      (each : ∀ member ∈ members, Distinct member.2) : Distinct (.object members)

theorem Value.Distinct.nodup {value : Value} (distinct : value.Distinct) :
    (Assoc.keys value.members).Nodup := by
  cases distinct with
  | object names each => exact names
  | _ => exact List.nodup_nil

/-- The members of distinct values are distinct. -/
theorem Value.Distinct.get {value : Value} (distinct : value.Distinct) (name : String) :
    (value.get name).Distinct := by
  rw [Value.get, Value.get?]
  cases found : value.members.lookup name with
  | none => exact .null
  | some member =>
      cases distinct with
      | object names each => exact each _ (Assoc.mem_of_lookup found)
      | _ => contradiction

theorem distinct_of_readWord {text rest : List Char} {value : Value}
    (read : readWord text = some (value, rest)) : value.Distinct := by
  obtain ⟨⟨word, meaning⟩, member, found⟩ := List.exists_of_findSome?_eq_some read
  simp only at found
  split at found
  · obtain ⟨rfl, -⟩ := Prod.mk.inj (Option.some.inj found)
    simp only [words, List.mem_cons, Prod.mk.injEq, List.not_mem_nil, or_false] at member
    rcases member with ⟨-, rfl⟩ | ⟨-, rfl⟩ | ⟨-, rfl⟩ | ⟨-, rfl⟩ | ⟨-, rfl⟩ | ⟨-, rfl⟩ <;>
      constructor
  · contradiction

theorem distinct_of_readNumber {text rest : List Char} {value : Value}
    (read : readNumber text = some (.ok (value, rest))) : value.Distinct := by
  simp only [readNumber] at read
  split at read
  · contradiction
  · split at read
    · split at read
      · split at read
        · have oversized := Option.some.inj read
          contradiction
        · obtain ⟨rfl, -⟩ := Prod.mk.inj (Except.ok.inj (Option.some.inj read))
          exact .int _
      · obtain ⟨rfl, -⟩ := Prod.mk.inj (Except.ok.inj (Option.some.inj read))
        exact .float _
    · obtain ⟨rfl, -⟩ := Prod.mk.inj (Except.ok.inj (Option.some.inj read))
      exact .float _

/-- What the readers give with some fuel is distinct. -/
structure ReadsDistinct (fuel : Nat) : Prop where
  value {text rest : List Char} {value : Value} :
    readValue fuel text = .ok (value, rest) → value.Distinct
  items {text rest : List Char} {items : List Value} :
    readItems fuel text = .ok (items, rest) → ∀ item ∈ items, item.Distinct
  members {text rest : List Char} {members : List (String × Value)} :
    readMembers fuel text = .ok (members, rest) → ∀ member ∈ members, member.2.Distinct

theorem distinct_ofList {members : List (String × Value)}
    (each : ∀ member ∈ members, member.2.Distinct) :
    (Value.object (Assoc.ofList members)).Distinct :=
  .object (Assoc.nodup_keys_ofList members) fun member inMap =>
    each member (Assoc.mem_of_mem_ofList inMap)

theorem ReadsDistinct.readValue_succ {fuel : Nat} (inner : ReadsDistinct fuel)
    {text rest : List Char} {value : Value}
    (read : readValue (fuel + 1) text = .ok (value, rest)) : value.Distinct := by
  cases text with
  | nil => contradiction
  | cons c later =>
      rw [readValue] at read
      split at read
      · obtain ⟨⟨text, after⟩, -, done⟩ := exists_of_bind read
        obtain ⟨rfl, -⟩ := Prod.mk.inj (Except.ok.inj done)
        exact .string text
      · split at read
        · split at read
          · obtain ⟨rfl, -⟩ := Prod.mk.inj (Except.ok.inj read)
            exact .array (by simp)
          · obtain ⟨⟨items, after⟩, found, done⟩ := exists_of_bind read
            obtain ⟨rfl, -⟩ := Prod.mk.inj (Except.ok.inj done)
            exact .array (inner.items found)
        · split at read
          · split at read
            · obtain ⟨rfl, -⟩ := Prod.mk.inj (Except.ok.inj read)
              exact .object List.nodup_nil (by simp)
            · obtain ⟨⟨members, after⟩, found, done⟩ := exists_of_bind read
              obtain ⟨rfl, -⟩ := Prod.mk.inj (Except.ok.inj done)
              exact distinct_ofList (inner.members found)
          · split at read
            · rename_i word
              obtain ⟨rfl, -⟩ := Prod.mk.inj (Except.ok.inj read)
              exact distinct_of_readWord word
            · split at read
              · rename_i number
                obtain ⟨rfl, -⟩ := Prod.mk.inj (Except.ok.inj read)
                exact distinct_of_readNumber number
              · contradiction
              · contradiction

theorem ReadsDistinct.readItems_succ {fuel : Nat} (inner : ReadsDistinct fuel)
    {text rest : List Char} {items : List Value}
    (read : readItems (fuel + 1) text = .ok (items, rest)) : ∀ item ∈ items, item.Distinct := by
  rw [readItems] at read
  obtain ⟨⟨item, after⟩, first, further⟩ := exists_of_bind read
  simp only at further
  split at further
  · obtain ⟨rfl, -⟩ := Prod.mk.inj (Except.ok.inj further)
    exact List.forall_mem_singleton.mpr (inner.value first)
  · obtain ⟨⟨later, behind⟩, found, done⟩ := exists_of_bind further
    obtain ⟨rfl, -⟩ := Prod.mk.inj (Except.ok.inj done)
    exact List.forall_mem_cons.mpr ⟨inner.value first, inner.items found⟩
  · contradiction

theorem ReadsDistinct.readMembers_succ {fuel : Nat} (inner : ReadsDistinct fuel)
    {text rest : List Char} {members : List (String × Value)}
    (read : readMembers (fuel + 1) text = .ok (members, rest)) :
    ∀ member ∈ members, member.2.Distinct := by
  unfold readMembers at read
  split at read
  · obtain ⟨⟨name, afterName⟩, -, further⟩ := exists_of_bind read
    simp only at further
    split at further
    · obtain ⟨⟨value, afterValue⟩, first, last⟩ := exists_of_bind further
      simp only at last
      split at last
      · obtain ⟨rfl, -⟩ := Prod.mk.inj (Except.ok.inj last)
        exact List.forall_mem_singleton.mpr (inner.value first)
      · obtain ⟨⟨later, behind⟩, found, done⟩ := exists_of_bind last
        obtain ⟨rfl, -⟩ := Prod.mk.inj (Except.ok.inj done)
        exact List.forall_mem_cons.mpr ⟨inner.value first, inner.members found⟩
      · contradiction
    · contradiction
  · contradiction

theorem readsDistinct (fuel : Nat) : ReadsDistinct fuel := by
  induction fuel with
  | zero => exact ⟨nofun, nofun, nofun⟩
  | succ fuel ih => exact ⟨ih.readValue_succ, ih.readItems_succ, ih.readMembers_succ⟩

/-- Every value that is read is distinct. -/
theorem distinct_of_read {text : String} {value : Value} (found : read text = .ok value) :
    value.Distinct := by
  simp only [read] at found
  split at found
  · rename_i whole
    obtain rfl := Except.ok.inj found
    rw [readWhole?] at whole
    split at whole
    · contradiction
    · obtain ⟨⟨first, rest⟩, inner, last⟩ := exists_of_bind whole
      simp only at last
      split at last
      · obtain rfl := Except.ok.inj last
        exact (readsDistinct _).value inner
      · contradiction
  · contradiction
  · contradiction

end Crowsfoot.Json
