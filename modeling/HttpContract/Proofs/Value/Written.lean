import HttpContract.Proofs.Success
import HttpContract.Value.Text
import Mathlib.Algebra.Group.Int.Defs

/-!
Which values can be written down: those that no integer of too many digits is part of. It makes no
difference whether a value is written by itself, inside of another one, or in a message.
-/
namespace HttpContract.Value

/-! ## Values and what they are made of -/

theorem sizeOf_lt_list {v : Value} {items : List Value} (h : v ∈ items) :
    sizeOf v < sizeOf (list items) := by
  have := List.sizeOf_lt_of_mem h
  rw [list.sizeOf_spec]
  omega

theorem sizeOf_lt_tuple {v : Value} {items : List Value} (h : v ∈ items) :
    sizeOf v < sizeOf (tuple items) := by
  have := List.sizeOf_lt_of_mem h
  rw [tuple.sizeOf_spec]
  omega

theorem sizeOf_lt_map {e : Value × Value} {entries : List (Value × Value)} (h : e ∈ entries) :
    sizeOf e.1 < sizeOf (map entries) ∧ sizeOf e.2 < sizeOf (map entries) := by
  have := List.sizeOf_lt_of_mem h
  obtain ⟨k, v⟩ := e
  rw [Prod.mk.sizeOf_spec] at this
  rw [map.sizeOf_spec]
  dsimp only
  omega

/-- What holds of leaves, and of a collection if it holds of its members, holds of every value. -/
@[elab_as_elim]
theorem members_induction {P : Value → Prop} (leaf : ∀ v, v.isCollection = false → P v)
    (list : ∀ items, (∀ v ∈ items, P v) → P (list items))
    (tuple : ∀ items, (∀ v ∈ items, P v) → P (tuple items))
    (map : ∀ entries, (∀ e ∈ entries, P e.1 ∧ P e.2) → P (map entries)) (v : Value) : P v := by
  induction hn : sizeOf v using Nat.strongRecOn generalizing v with
  | _ n ih =>
    subst hn
    cases v with
    | list items => exact list items fun v hv => ih _ (sizeOf_lt_list hv) v rfl
    | tuple items => exact tuple items fun v hv => ih _ (sizeOf_lt_tuple hv) v rfl
    | map entries =>
      exact map entries fun e he =>
        ⟨ih _ (sizeOf_lt_map he).1 e.1 rfl, ih _ (sizeOf_lt_map he).2 e.2 rfl⟩
    | _ => exact leaf _ rfl

section Every

mutual

/-- The property holds of the value and of all that it is made of, keys included. Elements and media
types count as one piece. -/
def every (p : Value → Bool) : Value → Bool
  | list items => p (list items) && everyItem p items
  | tuple items => p (tuple items) && everyItem p items
  | map entries => p (map entries) && everyEntry p entries
  | v => p v

def everyItem (p : Value → Bool) : List Value → Bool
  | [] => true
  | v :: rest => every p v && everyItem p rest

def everyEntry (p : Value → Bool) : List (Value × Value) → Bool
  | [] => true
  | (k, v) :: rest => every p k && every p v && everyEntry p rest

end

variable {p : Value → Bool}

theorem every_leaf {v : Value} (h : v.isCollection = false) : v.every p = p v := by
  cases v with
  | list | tuple | map => cases h
  | _ => rfl

theorem everyItem_iff {items : List Value} :
    everyItem p items = true ↔ ∀ v ∈ items, v.every p = true := by
  induction items with
  | nil => simp [everyItem]
  | cons v items ih => simp [everyItem, ih]

theorem everyEntry_iff {entries : List (Value × Value)} :
    everyEntry p entries = true ↔ ∀ e ∈ entries, e.1.every p = true ∧ e.2.every p = true := by
  induction entries with
  | nil => simp [everyEntry]
  | cons e entries ih => simp [everyEntry, ih, and_assoc]

theorem every_list_iff {items : List Value} :
    (list items).every p = true ↔ p (list items) = true ∧ ∀ v ∈ items, v.every p = true := by
  rw [every, Bool.and_eq_true, everyItem_iff]

theorem every_tuple_iff {items : List Value} :
    (tuple items).every p = true ↔ p (tuple items) = true ∧ ∀ v ∈ items, v.every p = true := by
  rw [every, Bool.and_eq_true, everyItem_iff]

theorem every_map_iff {entries : List (Value × Value)} :
    (map entries).every p = true ↔
      p (map entries) = true ∧ ∀ e ∈ entries, e.1.every p = true ∧ e.2.every p = true := by
  rw [every, Bool.and_eq_true, everyEntry_iff]

end Every

/-! ## Integers that can be written -/

/-- An integer with more digits than can be written. Like its text, this is only unfolded where it is
asked for. -/
@[irreducible] def isLongInteger : Value → Bool
  | int n => !Number.isPrintableInteger n
  | _ => false

theorem isLongInteger_int (n : Int) : (int n).isLongInteger = !Number.isPrintableInteger n := by
  unfold isLongInteger
  rfl

theorem exists_of_isLongInteger {v : Value} (h : v.isLongInteger = true) :
    ∃ n, v = .int n ∧ Number.isPrintableInteger n = false := by
  unfold isLongInteger at h
  split at h
  · exact ⟨_, rfl, (Bool.not_eq_true' _).mp h⟩
  · cases h

theorem isLongInteger_of_ne {v : Value} (h : ∀ n, v ≠ int n) : v.isLongInteger = false := by
  refine Bool.eq_false_iff.mpr fun hlong => ?_
  obtain ⟨n, hn, -⟩ := exists_of_isLongInteger hlong
  exact h n hn

@[simp] theorem isLongInteger_bool (b : Bool) : (bool b).isLongInteger = false :=
  isLongInteger_of_ne fun n h => by cases h

@[simp] theorem isLongInteger_real (x : Number.Real64) : (real x).isLongInteger = false :=
  isLongInteger_of_ne fun n h => by cases h

@[simp] theorem isLongInteger_decimal (d : Number.Decimal) : (decimal d).isLongInteger = false :=
  isLongInteger_of_ne fun n h => by cases h

@[simp] theorem isLongInteger_text (s : String) : (text s).isLongInteger = false :=
  isLongInteger_of_ne fun n h => by cases h

theorem integerShown_of_short {n : Int} (h : Number.isPrintableInteger n = true) :
    integerShown n = .ok (Number.integerText n) := by
  unfold integerShown
  exact if_pos h

theorem integerShown_of_long {n : Int} (h : Number.isPrintableInteger n = false) :
    integerShown n = .error .unusableValue := by
  unfold integerShown
  exact if_neg fun hshort => Bool.false_ne_true (h.symm.trans hshort)

theorem exists_integerShown_iff {n : Int} :
    (∃ s, integerShown n = .ok s) ↔ Number.isPrintableInteger n = true := by
  cases h : Number.isPrintableInteger n with
  | true => exact iff_of_true ⟨_, integerShown_of_short h⟩ rfl
  | false =>
    rw [integerShown_of_long h]
    exact iff_of_false (fun ⟨s, hs⟩ => by cases hs) Bool.false_ne_true

/-! ## Values that can be written -/

def isWritable (v : Value) : Bool := v.every fun v => !v.isLongInteger

theorem isWritable_leaf {v : Value} (h : v.isCollection = false) : v.isWritable = !v.isLongInteger :=
  every_leaf h

theorem isWritable_int (n : Int) : (int n).isWritable = Number.isPrintableInteger n := by
  rw [isWritable_leaf rfl, isLongInteger_int, Bool.not_not]

theorem not_isLongInteger_collection {v : Value} (h : v.isCollection = true) :
    (!v.isLongInteger) = true := by
  have hint (n : Int) (hn : v = int n) : False := by
    rw [hn] at h
    cases h
  rw [isLongInteger_of_ne hint, Bool.not_false]

theorem isWritable_list_iff {items : List Value} :
    (list items).isWritable = true ↔ ∀ v ∈ items, v.isWritable = true :=
  every_list_iff.trans (and_iff_right (not_isLongInteger_collection rfl))

theorem itemsShown_eq_mapM (items : List Value) : itemsShown items = items.mapM shown := by
  induction items with
  | nil => rfl
  | cons v items ih => rw [itemsShown, List.mapM_cons, ih]

def entryShown (e : Value × Value) : Result (List Char) := do
  let key ← shown e.1
  let value ← shown e.2
  return key ++ ": ".toList ++ value

theorem entriesShown_eq_mapM (entries : List (Value × Value)) :
    entriesShown entries = entries.mapM entryShown := by
  induction entries with
  | nil => rfl
  | cons e entries ih =>
    rw [entriesShown, List.mapM_cons, ih, entryShown]
    cases shown e.1 with
    | error fault => rfl
    | ok key => cases shown e.2 <;> rfl

theorem exists_entryShown_iff {e : Value × Value} :
    (∃ s, entryShown e = .ok s) ↔ (∃ s, shown e.1 = .ok s) ∧ ∃ s, shown e.2 = .ok s :=
  exists_both_iff

/-- A value can be written inside of another one exactly if no integer in it has too many digits. -/
theorem exists_shown_iff {v : Value} : (∃ s, shown v = .ok s) ↔ v.isWritable = true := by
  induction v using members_induction with
  | leaf v hleaf =>
    cases v with
    | int n =>
      rw [shown, isWritable_int]
      exact exists_integerShown_iff
    | list | tuple | map => cases hleaf
    | _ =>
      rw [isWritable_leaf rfl, isLongInteger_of_ne fun n h => by cases h]
      exact iff_of_true ⟨_, rfl⟩ rfl
  | list items ih =>
    rw [isWritable_list_iff, shown, itemsShown_eq_mapM]
    exact exists_bind_pure_iff.trans (exists_mapM_ok_iff.trans (forall₂_congr ih))
  | tuple items ih =>
    rw [isWritable, every_tuple_iff, and_iff_right (not_isLongInteger_collection rfl), shown,
      itemsShown_eq_mapM]
    refine exists_bind_pure_iff.trans (exists_mapM_ok_iff.trans ?_)
    exact forall₂_congr ih
  | map entries ih =>
    rw [isWritable, every_map_iff, and_iff_right (not_isLongInteger_collection rfl), shown,
      entriesShown_eq_mapM]
    refine exists_bind_pure_iff.trans (exists_mapM_ok_iff.trans (forall₂_congr fun e he => ?_))
    exact exists_entryShown_iff.trans (and_congr (ih e he).1 (ih e he).2)

theorem failsOnly_shown (v : Value) : FailsOnly (· = .unusableValue) (shown v) := by
  induction v using members_induction with
  | leaf v hleaf =>
    cases v with
    | int n =>
      rw [shown]
      cases h : Number.isPrintableInteger n with
      | true => exact integerShown_of_short h ▸ .ok _
      | false => exact integerShown_of_long h ▸ .error rfl
    | list | tuple | map => cases hleaf
    | _ => exact .ok _
  | list items ih =>
    rw [shown, itemsShown_eq_mapM]
    exact (FailsOnly.mapM ih).bind fun pieces _ => .ok _
  | tuple items ih =>
    rw [shown, itemsShown_eq_mapM]
    exact (FailsOnly.mapM ih).bind fun pieces _ => .ok _
  | map entries ih =>
    rw [shown, entriesShown_eq_mapM]
    refine (FailsOnly.mapM fun e he => ?_).bind fun pieces _ => .ok _
    exact (ih e he).1.bind fun key _ => (ih e he).2.bind fun value _ => .ok _

theorem failsOnly_plain (v : Value) : FailsOnly (· = .unusableValue) v.plain := by
  cases v with
  | text | decimal | mediaType => exact .ok _
  | _ => exact failsOnly_shown _

theorem isWritable_of_shown {v : Value} {s : List Char} (h : shown v = .ok s) :
    v.isWritable = true := exists_shown_iff.mp ⟨s, h⟩

theorem exists_map_ofList_iff {x : Result (List Char)} :
    (∃ s, x.map String.ofList = .ok s) ↔ ∃ s, x = .ok s := by
  cases x with
  | ok s => exact iff_of_true ⟨_, rfl⟩ ⟨s, rfl⟩
  | error fault => exact iff_of_false (fun ⟨s, hs⟩ => by cases hs) fun ⟨s, hs⟩ => by cases hs

/-- A power of ten has one digit more than its exponent says. -/
theorem isLongInteger_pow {n : Nat} (h : Number.digitLimit ≤ n) :
    (int (10 ^ n)).isLongInteger = true := by
  have hpow : ((10 : Int) ^ n).natAbs = 10 ^ n := Int.natAbs_pow 10 n
  rw [isLongInteger_int, Bool.not_eq_true', Number.isPrintableInteger, decide_eq_false_iff_not, hpow,
    Nat.not_lt]
  generalize Number.digitLimit = limit at h ⊢
  exact Nat.pow_le_pow_right (Nat.zero_lt_succ 9) h

theorem described_of_long {v : Value} (h : v.isLongInteger = true) :
    v.described = .error .unusableValue := by
  obtain ⟨n, rfl, hn⟩ := exists_of_isLongInteger h
  exact congrArg (Except.map String.ofList) (integerShown_of_long hn)

/-- A comparison can name a value exactly if it can be written. -/
theorem exists_described_iff {v : Value} : (∃ s, v.described = .ok s) ↔ v.isWritable = true := by
  cases v with
  | null | text | element =>
    exact iff_of_true ⟨_, rfl⟩ (isWritable_of_shown rfl)
  | _ => simp only [described, exists_map_ofList_iff, exists_shown_iff]

section

variable {v : Value} (h : v.isWritable = true)

include h

theorem exists_plainText : ∃ s, v.plainText = .ok s := by
  refine exists_map_ofList_iff.mpr ?_
  cases v with
  | text | decimal | mediaType => exact ⟨_, rfl⟩
  | _ => exact exists_shown_iff.mpr h

theorem exists_content : ∃ s, v.content = .ok s := by
  cases v with
  | null | element | bytes | text | decimal | mediaType => exact ⟨_, rfl⟩
  | _ => exact exists_shown_iff.mpr h

end

end HttpContract.Value
