import HttpContract.Proofs.Number.Amount

/-!
When two JSON values are the same: numbers by what they amount to, lists item by item, maps by what
stands under each key. For JSON a truth value is no number; equality of values counts it as 0 or 1,
and says the same otherwise.
-/
namespace HttpContract

theorem forall₂_iff_getElem? {α β : Type} {R : α → β → Prop} {xs : List α} {ys : List β} :
    List.Forall₂ R xs ys ↔ ∀ i : Nat, Option.Rel R xs[i]? ys[i]? := by
  constructor
  · intro h
    induction h with
    | nil => exact fun i => .none
    | cons hx _ ih =>
      intro i
      cases i with
      | zero => exact .some hx
      | succ i => exact ih i
  · intro h
    induction xs generalizing ys with
    | nil =>
      cases ys with
      | nil => exact .nil
      | cons y ys => cases h 0
    | cons x xs ih =>
      cases ys with
      | nil => cases h 0
      | cons y ys =>
        cases h 0 with
        | some hx => exact .cons hx (ih fun i => h (i + 1))

section Related

variable {α β : Type} {R S C : α → β → Prop} {x : Option α} {y : Option β}

theorem rel_congr (h : ∀ a b, x = some a → y = some b → (R a b ↔ S a b)) :
    Option.Rel R x y ↔ Option.Rel S x y := by
  cases x <;> cases y <;> simp_all

/-- A relation that is another one without exceptions is so wherever something is found. -/
theorem rel_and_not_iff (h : ∀ a b, x = some a → y = some b → (R a b ↔ S a b ∧ ¬C a b)) :
    Option.Rel R x y ↔ Option.Rel S x y ∧ ¬∃ a b, x = some a ∧ y = some b ∧ C a b := by
  cases x <;> cases y <;> simp_all

end Related

namespace Value

inductive IsJson : Value → Prop
  | null : IsJson null
  | bool (b : Bool) : IsJson (bool b)
  | int (n : Int) : IsJson (int n)
  | real (negative : Bool) (m : Nat) (e : Int) : IsJson (real (.finite negative m e))
  | text (s : String) : IsJson (text s)
  | list {items : List Value} (h : ∀ v ∈ items, IsJson v) : IsJson (list items)
  | record {fields : Keyed String Value} (hkeys : (Keyed.keys fields).Nodup)
    (h : ∀ e ∈ fields, IsJson e.2) : IsJson (record fields)

/-- The values are the same. Truth values are the same as the numbers 0 and 1 if they are `counted`;
if they are not, this is to be the same JSON value. -/
inductive SameBy (counted : Bool) : Value → Value → Prop
  | null : SameBy counted null null
  | bool (b : Bool) : SameBy counted (bool b) (bool b)
  | number {v w : Value} {q : ℚ} (hv : v.amount? counted = some q) (hw : w.amount? counted = some q) :
    SameBy counted v w
  | text (s : String) : SameBy counted (text s) (text s)
  | list {xs ys : List Value} (h : List.Forall₂ (SameBy counted) xs ys) :
    SameBy counted (list xs) (list ys)
  | map {xs ys : List (Value × Value)}
    (h : ∀ key, Option.Rel (SameBy counted) (lookup xs key) (lookup ys key)) :
    SameBy counted (map xs) (map ys)

inductive Confused : Value → Value → Prop
  | bool_number {b : Bool} {w : Value} (h : w.isNumber = true) : Confused (bool b) w
  | number_bool {v : Value} {b : Bool} (h : v.isNumber = true) : Confused v (bool b)
  | list {xs ys : List Value} {i : Nat} {v w : Value} (hv : xs[i]? = some v) (hw : ys[i]? = some w)
    (h : Confused v w) : Confused (list xs) (list ys)
  | map {xs ys : List (Value × Value)} {key : String} {v w : Value} (hv : lookup xs key = some v)
    (hw : lookup ys key = some w) (h : Confused v w) : Confused (map xs) (map ys)

/-! ## Leaves and collections -/

section SameBy

variable {counted : Bool} {w : Value}

theorem sameBy_null_iff : SameBy counted null w ↔ w = null := by
  constructor
  · intro h
    cases h with
    | null => rfl
    | number hv => cases hv
  · rintro rfl
    exact .null

theorem sameBy_text_iff {s : String} : SameBy counted (text s) w ↔ w = text s := by
  constructor
  · intro h
    cases h with
    | text => rfl
    | number hv => cases hv
  · rintro rfl
    exact .text s

/-- A truth value is the same as itself, unless it is counted. -/
theorem sameBy_bool_iff {b : Bool} : SameBy false (bool b) w ↔ w = bool b := by
  constructor
  · intro h
    cases h with
    | bool => rfl
    | number hv => cases hv
  · rintro rfl
    exact .bool b

theorem sameBy_amount_iff {v : Value} {q : ℚ} (hv : v.amount? counted = some q) :
    SameBy counted v w ↔ w.amount? counted = some q := by
  constructor
  · intro h
    cases h with
    | bool => exact hv
    | number hv' hw => exact hw.trans (hv'.symm.trans hv)
    | null | text | list | map => cases hv
  · exact .number hv

theorem eq_list_of_sameBy {xs : List Value} (h : SameBy counted (list xs) w) :
    ∃ ys, w = list ys := by
  cases h with
  | list => exact ⟨_, rfl⟩
  | number hv => cases hv

theorem eq_map_of_sameBy {xs : List (Value × Value)} (h : SameBy counted (map xs) w) :
    ∃ ys, w = map ys := by
  cases h with
  | map => exact ⟨_, rfl⟩
  | number hv => cases hv

theorem sameBy_list_iff {xs ys : List Value} :
    SameBy counted (list xs) (list ys) ↔ ∀ i : Nat, Option.Rel (SameBy counted) xs[i]? ys[i]? := by
  rw [← forall₂_iff_getElem?]
  constructor
  · intro h
    cases h with
    | list h => exact h
    | number hv => cases hv
  · exact .list

theorem sameBy_map_iff {xs ys : List (Value × Value)} :
    SameBy counted (map xs) (map ys) ↔
      ∀ key, Option.Rel (SameBy counted) (lookup xs key) (lookup ys key) := by
  constructor
  · intro h
    cases h with
    | map h => exact h
    | number hv => cases hv
  · exact .map

end SameBy

theorem confused_list_iff {xs ys : List Value} :
    Confused (list xs) (list ys) ↔
      ∃ (i : Nat) (v w : Value), xs[i]? = some v ∧ ys[i]? = some w ∧ Confused v w := by
  constructor
  · intro h
    cases h with
    | list hv hw h => exact ⟨_, _, _, hv, hw, h⟩
  · rintro ⟨i, v, w, hv, hw, h⟩
    exact .list hv hw h

theorem confused_map_iff {xs ys : List (Value × Value)} :
    Confused (map xs) (map ys) ↔
      ∃ key v w, lookup xs key = some v ∧ lookup ys key = some w ∧ Confused v w := by
  constructor
  · intro h
    cases h with
    | map hv hw h => exact ⟨_, _, _, hv, hw, h⟩
  · rintro ⟨key, v, w, hv, hw, h⟩
    exact .map hv hw h

/-! ## Equality of values -/

section Same

variable {w : Value}

theorem same_list_of {xs ys : List Value} {R : Value → Value → Prop}
    (h : ∀ v ∈ xs, ∀ w ∈ ys, (same v w = true ↔ R v w)) :
    same (list xs) (list ys) = true ↔ ∀ i : Nat, Option.Rel R xs[i]? ys[i]? := by
  rw [same_list_iff, forall₂_iff_getElem?]
  refine forall_congr' fun i => rel_congr fun v w hv hw => ?_
  exact h v (List.mem_of_getElem? hv) w (List.mem_of_getElem? hw)

theorem same_record_of {xs ys : Keyed String Value} {R : Value → Value → Prop}
    (hx : (Keyed.keys xs).Nodup) (hy : (Keyed.keys ys).Nodup)
    (h : ∀ d ∈ xs, ∀ e ∈ ys, (same d.2 e.2 = true ↔ R d.2 e.2)) :
    same (record xs) (record ys) = true ↔
      ∀ key, Option.Rel R (Keyed.get? xs key) (Keyed.get? ys key) := by
  rw [same_record_iff hx hy]
  refine forall_congr' fun key => rel_congr fun v w hv hw => ?_
  exact h _ (Keyed.mem_of_get? hv) _ (Keyed.mem_of_get? hw)

theorem same_of_form {v : Value} {f : Number.Form} (hv : numberForm? v = some f)
    (hw : numberForm? w = none) : same v w = false := by
  cases v with
  | bool | int | real | decimal =>
    cases w with
    | bool | int | real | decimal => cases hw
    | _ => rfl
  | _ => cases hv

/-- What amounts to something is equal to what amounts to the same. -/
theorem same_amount_iff {v : Value} {q : ℚ} (hv : v.amount? true = some q) (hw : w.IsJson) :
    same v w = true ↔ w.amount? true = some q := by
  cases hq : w.amount? true with
  | some r => rw [same_of_amount hv hq, decide_eq_true_iff, Option.some.injEq, eq_comm]
  | none =>
    obtain ⟨f, hf, -⟩ := exists_form_of_amount hv
    have hform : numberForm? w = none := by
      cases hw with
      | bool | int | real => cases hq
      | _ => rfl
    rw [same_of_form hf hform]
    exact iff_of_false Bool.false_ne_true fun h => by cases h

theorem same_null_iff : same null w = true ↔ w = null := by
  cases w with
  | null => exact iff_of_true rfl rfl
  | _ => exact iff_of_false Bool.false_ne_true Value.noConfusion

theorem same_text_iff {s : String} : same (text s) w = true ↔ w = text s := by
  cases w with
  | text t => rw [same_text, decide_eq_true_iff, text.injEq, eq_comm]
  | _ => exact iff_of_false Bool.false_ne_true Value.noConfusion

/-- Equality of JSON values is sameness with truth values counted. -/
theorem same_iff_sameBy {v : Value} (hv : v.IsJson) (hw : w.IsJson) :
    same v w = true ↔ SameBy true v w := by
  induction hv generalizing w with
  | null => rw [sameBy_null_iff, same_null_iff]
  | text s => rw [sameBy_text_iff, same_text_iff]
  | bool b =>
    rw [sameBy_amount_iff rfl]
    exact same_amount_iff rfl hw
  | int n =>
    rw [sameBy_amount_iff rfl]
    exact same_amount_iff rfl hw
  | real negative m e =>
    rw [sameBy_amount_iff rfl]
    exact same_amount_iff rfl hw
  | list h ih =>
    cases hw with
    | list h' =>
      rw [sameBy_list_iff]
      exact same_list_of fun v hv w hw => ih v hv (h' w hw)
    | _ =>
      refine iff_of_false Bool.false_ne_true fun h => ?_
      obtain ⟨_, ⟨⟩⟩ := eq_list_of_sameBy h
  | @record fields hkeys h ih =>
    cases hw with
    | @record others hkeys' h' =>
      rw [record, record, sameBy_map_iff]
      simp only [lookup_record]
      exact same_record_of hkeys hkeys' fun d hd e he => ih d hd (h' e he)
    | _ =>
      refine iff_of_false Bool.false_ne_true fun h => ?_
      obtain ⟨_, ⟨⟩⟩ := eq_map_of_sameBy h

end Same

/-! ## Truth values and numbers -/

section Confused

variable {v w : Value}

def isTruth : Value → Bool
  | bool _ => true
  | _ => false

theorem isTruth_of_isNumber (h : v.isNumber = true) : v.isTruth = false := by
  cases v with
  | bool => cases h
  | _ => rfl

theorem confused_bool_iff {b : Bool} : Confused (bool b) w ↔ w.isNumber = true := by
  constructor
  · intro h
    cases h with
    | bool_number h => exact h
    | number_bool h => cases h
  · exact .bool_number

theorem confused_number_iff (hv : v.isNumber = true) : Confused v w ↔ w.isTruth = true := by
  constructor
  · intro h
    cases h with
    | number_bool => rfl
    | bool_number | list | map => cases hv
  · intro h
    cases w with
    | bool b => exact .number_bool hv
    | _ => cases h

theorem amount?_uncounted {q : ℚ} :
    w.amount? false = some q ↔ w.amount? true = some q ∧ ¬w.isTruth = true := by
  cases w with
  | bool b => exact iff_of_false (fun h => by cases h) fun h => h.2 rfl
  | _ => exact (and_iff_left Bool.false_ne_true).symm

theorem isTruth_of_sameBy (h : SameBy false v w) : v.isTruth = w.isTruth := by
  cases h with
  | number hv hw =>
    rw [(Bool.not_eq_true _).mp (amount?_uncounted.mp hv).2,
      (Bool.not_eq_true _).mp (amount?_uncounted.mp hw).2]
  | _ => rfl

theorem isTruth_of_collection {counted : Bool} (h : SameBy counted v w)
    (hcollection : v.isCollection = true) : v.isTruth = w.isTruth := by
  cases h with
  | number hv hw =>
    cases v with
    | list | tuple | map => cases hv
    | _ => cases hcollection
  | _ => rfl

theorem sameBy_false_number_iff {q : ℚ} (hv : v.amount? false = some q) (hnumber : v.isNumber = true) :
    SameBy false v w ↔ SameBy true v w ∧ ¬Confused v w := by
  rw [sameBy_amount_iff hv, sameBy_amount_iff (amount?_uncounted.mp hv).1,
    confused_number_iff hnumber, amount?_uncounted]

theorem sameBy_false_bool_iff {b : Bool} :
    SameBy false (bool b) w ↔ SameBy true (bool b) w ∧ ¬Confused (bool b) w := by
  rw [sameBy_bool_iff, confused_bool_iff]
  constructor
  · rintro rfl
    exact ⟨.bool b, Bool.false_ne_true⟩
  · rintro ⟨h, hnumber⟩
    cases h with
    | bool => rfl
    | number hv hw =>
      cases w with
      | bool c =>
        have hbits : (if b then 1 else 0 : ℚ) = if c then 1 else 0 :=
          Option.some.inj (hv.trans hw.symm)
        cases b <;> cases c <;> simp_all
      | int | real | decimal => exact absurd rfl hnumber
      | _ => cases hw

/-- Being the same everywhere is being counted as the same everywhere, where no place is confused. -/
theorem sameBy_false_places_iff {ι : Type} {x y : ι → Option Value}
    (h : ∀ i v w, x i = some v → y i = some w → (SameBy false v w ↔ SameBy true v w ∧ ¬Confused v w)) :
    (∀ i, Option.Rel (SameBy false) (x i) (y i)) ↔ (∀ i, Option.Rel (SameBy true) (x i) (y i))
      ∧ ¬∃ i v w, x i = some v ∧ y i = some w ∧ Confused v w := by
  rw [not_exists, ← forall_and]
  exact forall_congr' fun i => rel_and_not_iff (h i)

/-- The same JSON values are those that are the same with truth values counted, where no truth value
stands opposite a number. -/
theorem sameBy_false_iff (hv : v.IsJson) (hw : w.IsJson) :
    SameBy false v w ↔ SameBy true v w ∧ ¬Confused v w := by
  induction hv generalizing w with
  | null =>
    rw [sameBy_null_iff, sameBy_null_iff, iff_self_and]
    rintro rfl h
    cases h
  | text s =>
    rw [sameBy_text_iff, sameBy_text_iff, iff_self_and]
    rintro rfl h
    cases h
  | bool b => exact sameBy_false_bool_iff
  | int n => exact sameBy_false_number_iff rfl rfl
  | real negative m e => exact sameBy_false_number_iff rfl rfl
  | @list xs h ih =>
    cases hw with
    | list h' =>
      rw [sameBy_list_iff, sameBy_list_iff, confused_list_iff]
      exact sameBy_false_places_iff fun i v w hv hw =>
        ih v (List.mem_of_getElem? hv) (h' w (List.mem_of_getElem? hw))
    | _ =>
      refine iff_of_false (fun h => ?_) fun h => ?_
      · obtain ⟨_, ⟨⟩⟩ := eq_list_of_sameBy h
      · obtain ⟨_, ⟨⟩⟩ := eq_list_of_sameBy h.1
  | @record xs hkeys h ih =>
    cases hw with
    | record hkeys' h' =>
      rw [record, record, sameBy_map_iff, sameBy_map_iff, confused_map_iff]
      simp only [lookup_record]
      exact sameBy_false_places_iff fun key v w hv hw =>
        ih _ (Keyed.mem_of_get? hv) (h' _ (Keyed.mem_of_get? hw))
    | _ =>
      refine iff_of_false (fun h => ?_) fun h => ?_
      · obtain ⟨_, ⟨⟩⟩ := eq_map_of_sameBy h
      · obtain ⟨_, ⟨⟩⟩ := eq_map_of_sameBy h.1

end Confused

end Value

end HttpContract
