import HttpContract.Matching.Comparison
import HttpContract.Proofs.Value.SameJson
import HttpContract.Proofs.Value.Written

/-!
What is compared by equality, and what by equality in any order. Equality of JSON values counts truth
values as numbers below the top of the two values, but not at the top itself. In any order, lists are
not compared at all but for their sizes.
-/
namespace HttpContract.Comparison

open Value (IsJson SameBy Confused)

variable (path : List String) {e a : Value}

/-! ## Equality -/

/-- Values agree and can be written, or something is found or fails. -/
theorem equality_nil_iff : equality path e a = .ok [] ↔
    agrees e a = .ok true ∧ e.isWritable = true ∧ a.isWritable = true := by
  rw [← Value.exists_described_iff, ← Value.exists_described_iff]
  constructor
  · intro h
    obtain ⟨same, hsame, h⟩ := exists_of_bind_ok h
    obtain ⟨s, hs, h⟩ := exists_of_bind_ok h
    obtain ⟨t, ht, h⟩ := exists_of_bind_ok h
    cases same with
    | true => exact ⟨hsame, ⟨t, ht⟩, ⟨s, hs⟩⟩
    | false => cases h
  · rintro ⟨hsame, ⟨t, ht⟩, ⟨s, hs⟩⟩
    rw [equality, hsame, hs, ht]
    rfl

/-- At the top, truth values agree with each other only. -/
theorem agrees_json_iff (he : e.IsJson) (ha : a.IsJson) :
    agrees e a = .ok true ↔ e.isTruth = a.isTruth ∧ SameBy true e a := by
  rw [← Value.same_iff_sameBy he ha]
  cases he with
  | bool b =>
    cases ha with
    | bool c =>
      have hagrees : agrees (.bool b) (.bool c) = .ok (Value.same (.bool b) (.bool c)) := by
        cases b <;> cases c <;> rfl
      rw [hagrees, Except.ok.injEq]
      exact (and_iff_right rfl).symm
    | _ => exact iff_of_false (fun h => by cases h) fun h => by cases h.1
  | _ =>
    cases ha with
    | bool c => exact iff_of_false (fun h => by cases h) fun h => by cases h.1
    | _ => exact Value.same_iff_equal.symm.trans (and_iff_right rfl).symm

/-- What agrees is the same JSON value, or a collection in which a truth value stands opposite the
number that it counts as. -/
theorem agrees_json_cases (he : e.IsJson) (ha : a.IsJson) : agrees e a = .ok true ↔
    SameBy false e a ∨ e.isCollection = true ∧ SameBy true e a ∧ Confused e a := by
  have hsame : SameBy false e a ↔ SameBy true e a ∧ ¬Confused e a := Value.sameBy_false_iff he ha
  rw [agrees_json_iff he ha]
  constructor
  · rintro ⟨htruth, h⟩
    by_cases hc : Confused e a
    · refine .inr ⟨?_, h, hc⟩
      cases hc with
      | bool_number ha => cases htruth.trans (Value.isTruth_of_isNumber ha)
      | number_bool he => cases htruth.symm.trans (Value.isTruth_of_isNumber he)
      | list | map => rfl
    · exact .inl (hsame.mpr ⟨h, hc⟩)
  · rintro (h | ⟨hcollection, h, -⟩)
    · exact ⟨Value.isTruth_of_sameBy h, (hsame.mp h).1⟩
    · exact ⟨Value.isTruth_of_collection h hcollection, h⟩

/-- Equality finds nothing if the values can be written and are the same JSON value, or are the same
but for truth values that stand opposite 0 or 1 somewhere inside of them. -/
theorem equality_json_iff (he : e.IsJson) (ha : a.IsJson) : equality path e a = .ok [] ↔
    e.isWritable = true ∧ a.isWritable = true
      ∧ (SameBy false e a ∨ e.isCollection = true ∧ SameBy true e a ∧ Confused e a) := by
  rw [equality_nil_iff, agrees_json_cases he ha]
  tauto

/-- Numbers of two types and a truth value. -/
theorem equality_json_one :
    let whole : Value := .list [.int 1, .bool true]
    let binary : Value := .list [.real (.finite false 1 0), .bool true]
    whole.IsJson ∧ binary.IsJson ∧ equality ["$"] whole binary = .ok [] := by
  intro whole binary
  have hwhole : whole.IsJson := .list (by simp [IsJson.int, IsJson.bool])
  have hbinary : binary.IsJson := .list (by simp [IsJson.real, IsJson.bool])
  have hshort : (Value.int 1).isWritable = true := by
    rw [Value.isWritable_int]
    decide +kernel
  have htrue : (Value.bool true).isWritable = true := Value.isWritable_of_shown rfl
  have hwritten : whole.isWritable = true := Value.isWritable_list_iff.mpr (by simp [hshort, htrue])
  have hone : (Value.real (.finite false 1 0)).amount? false = some ((1 : Int) : ℚ) := by
    simp [Value.amount?, Number.Real64.amount?, Number.signed]
  have hsame : SameBy false whole binary := .list (.cons (.number rfl hone) (.cons (.bool true) .nil))
  exact ⟨hwhole, hbinary, (equality_json_iff ["$"] hwhole hbinary).mpr
    ⟨hwritten, Value.isWritable_of_shown rfl, .inl hsame⟩⟩

/-- In a list, 1 is found equal to what is true. -/
theorem one_equals_true_in_list :
    let one : Value := .list [.int 1]
    let truth : Value := .list [.bool true]
    one.IsJson ∧ truth.IsJson ∧ equality ["$"] one truth = .ok [] ∧ ¬SameBy false one truth := by
  intro one truth
  have hone : one.IsJson := .list (by simp [IsJson.int])
  have htruth : truth.IsJson := .list (by simp [IsJson.bool])
  have hwritten : one.isWritable = true := by
    rw [Value.isWritable_list_iff, List.forall_mem_singleton, Value.isWritable_int]
    decide +kernel
  have hconfused : Confused one truth :=
    .list (i := 0) rfl rfl (.number_bool rfl)
  refine ⟨hone, htruth, (equality_nil_iff _).mpr ⟨rfl, hwritten, ?_⟩, fun h => ?_⟩
  · exact Value.isWritable_of_shown rfl
  · exact ((Value.sameBy_false_iff hone htruth).mp h).2 hconfused

/-! ## Equality in any order -/

/-- Lists that can be written are compared by their sizes, whatever is in them. -/
theorem ignoreOrder_list {xs ys : List Value} (hx : (Value.list xs).isWritable = true)
    (hy : (Value.list ys).isWritable = true) :
    ∃ found, ignoreOrder path (.list xs) (.list ys) = .ok found
      ∧ (found = [] ↔ xs.length = ys.length) := by
  obtain ⟨s, hs⟩ := Value.exists_described_iff.mpr hy
  obtain ⟨t, ht⟩ := Value.exists_described_iff.mpr hx
  rw [ignoreOrder, hs, ht]
  dsimp only [bind, Except.bind, Value.size?]
  split
  · rename_i hlength
    exact ⟨[], rfl, iff_of_true rfl hlength⟩
  · rename_i hlength
    exact ⟨_, rfl, iff_of_false (List.cons_ne_nil _ _) hlength⟩

theorem isWritable_texts (xs : List String) : (Value.list (xs.map .text)).isWritable = true := by
  refine Value.isWritable_list_iff.mpr fun v hv => ?_
  obtain ⟨s, -, rfl⟩ := List.mem_map.mp hv
  exact Value.isWritable_of_shown rfl

/-- Lists of texts in any order are told apart by their sizes: no rearrangement is refused, and no
other list of that size is. -/
theorem ignoreOrder_texts (xs ys : List String) :
    ∃ found, Rule.ignoreOrder.check path (.list (xs.map .text)) (.list (ys.map .text)) = .ok found
      ∧ (found = [] ↔ xs.length = ys.length) ∧ (xs.Perm ys → found = []) := by
  obtain ⟨found, hfound, hsizes⟩ := ignoreOrder_list path (isWritable_texts xs) (isWritable_texts ys)
  rw [List.length_map, List.length_map] at hsizes
  exact ⟨found, hfound, hsizes, fun h => hsizes.mpr h.length_eq⟩

theorem other_text_in_any_order : ¬["a"].Perm ["b"]
    ∧ Rule.ignoreOrder.check ["$"] (.list [.text "a"]) (.list [.text "b"]) = .ok [] := by
  refine ⟨by decide, ?_⟩
  obtain ⟨found, hfound, hsizes⟩ := ignoreOrder_list ["$"] (isWritable_texts ["a"])
    (isWritable_texts ["b"])
  rw [hsizes.mpr rfl] at hfound
  exact hfound

end HttpContract.Comparison
