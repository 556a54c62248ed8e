import HttpContract.Proofs.Matching.Equality

/-!
What it is to be of one type. Every value that the rule about types knows belongs to one family, and
the rule finds nothing exactly if the two families are the same and both values can be written. So being
of one type is symmetric and transitive, every value that can be written is of its own type, and equal
values are of one type.
-/
namespace HttpContract

/-- The types that are told apart: numbers of all kinds are of one, and so are lists and tuples, while
elements of different tags are of different types. -/
inductive Value.Family
  | null
  | truth
  | number
  | text
  | sequence
  | map
  | element (tag : String)

namespace Value

def family? : Value → Option Family
  | null => some .null
  | bool _ => some .truth
  | int _ | real _ | decimal _ => some .number
  | text _ => some .text
  | list _ | tuple _ => some .sequence
  | map _ => some .map
  | element e => some (.element e.tag)
  | bytes _ | mediaType _ | foreign _ => none

def Akin (e a : Value) : Prop := ∃ f, e.family? = some f ∧ a.family? = some f

variable {e a v : Value}

theorem Akin.symm (h : Akin e a) : Akin a e := by
  obtain ⟨f, he, ha⟩ := h
  exact ⟨f, ha, he⟩

theorem Akin.trans (h : Akin e v) (h' : Akin v a) : Akin e a := by
  obtain ⟨f, he, hv⟩ := h
  obtain ⟨g, hv', ha⟩ := h'
  obtain rfl : f = g := Option.some.inj (hv.symm.trans hv')
  exact ⟨f, he, ha⟩

theorem akin_self_iff : Akin v v ↔ v.family?.isSome = true := by
  rw [Option.isSome_iff_exists]
  exact exists_congr fun _ => and_self_iff

end Value

namespace Comparison

open Value (Akin Family akin_self_iff)

variable (path : List String) {e a u v w : Value}

theorem akin_iff_sameType : Akin e a ↔ sameType e a = true ∨ e = .null ∧ a = .null := by
  cases e <;> cases a <;>
    simp [Akin, Value.family?, sameType, Value.isNumber, areContainers, eq_comm]

/-- Nothing is found if the values are of one family and can be written. -/
theorem type_nil_iff : type path e a = .ok [] ↔
    Akin e a ∧ e.isWritable = true ∧ a.isWritable = true := by
  rw [akin_iff_sameType, ← Value.exists_described_iff, ← Value.exists_described_iff]
  constructor
  · intro h
    obtain ⟨s, hs, h⟩ := exists_of_bind_ok h
    obtain ⟨t, ht, h⟩ := exists_of_bind_ok h
    refine ⟨?_, ⟨t, ht⟩, ⟨s, hs⟩⟩
    split at h
    · exact .inl ‹_›
    · split at h
      · exact .inr ⟨rfl, rfl⟩
      · cases h
      · cases h
  · rintro ⟨hsame, ⟨t, ht⟩, ⟨s, hs⟩⟩
    rw [type, hs, ht]
    rcases hsame with hsame | ⟨rfl, rfl⟩
    · rw [hsame]
      rfl
    · rfl

/-- Values that agree are of one family, if they are of a family at all. -/
theorem akin_of_agrees (h : agrees e a = .ok true) (he : e.family?.isSome = true) : Akin e a := by
  cases e with
  | null =>
    cases a with
    | null => exact akin_self_iff.mpr he
    | _ => cases h
  | bool b =>
    cases a with
    | bool c => exact akin_self_iff.mpr he
    | _ => cases h
  | int | real | decimal =>
    cases a with
    | int | real | decimal => exact ⟨.number, rfl, rfl⟩
    | _ => cases h
  | text s =>
    cases a with
    | text t => exact ⟨.text, rfl, rfl⟩
    | _ => cases h
  | list xs =>
    cases a with
    | list ys => exact ⟨.sequence, rfl, rfl⟩
    | _ => cases h
  | tuple xs =>
    cases a with
    | tuple ys => exact ⟨.sequence, rfl, rfl⟩
    | _ => cases h
  | map m =>
    cases a with
    | map n => exact ⟨.map, rfl, rfl⟩
    | _ => cases h
  | element x =>
    cases a with
    | element y =>
      have htag : x.tag = y.tag := of_decide_eq_true (Except.ok.inj h)
      exact ⟨.element x.tag, rfl, congrArg (fun tag => some (Family.element tag)) htag.symm⟩
    | _ => cases h
  | bytes | mediaType | foreign => cases he

/-- Nothing is ever found between a value of a family and itself, and there is an answer if the value
can be written. -/
theorem type_self (h : v.family?.isSome = true) :
    (type path v v = .ok [] ↔ v.isWritable = true)
      ∧ ∀ found, type path v v = .ok found → found = [] := by
  have hself : type path v v = .ok [] ↔ v.isWritable = true := by
    rw [type_nil_iff, and_iff_right (akin_self_iff.mpr h), and_self_iff]
  refine ⟨hself, fun found hfound => ?_⟩
  obtain ⟨s, hs, -⟩ := exists_of_bind_ok hfound
  have hnil := hself.mpr (Value.exists_described_iff.mp ⟨s, hs⟩)
  exact Except.ok.inj (hfound.symm.trans hnil)

/-- Being of one type is symmetric and transitive, every value of a family that can be written is of its
own type, and equal values are of one type. -/
theorem type_equivalence :
    (∀ v : Value, v.family?.isSome = true →
      (type path v v = .ok [] ↔ v.isWritable = true)
        ∧ ∀ found, type path v v = .ok found → found = [])
    ∧ (∀ e a, type path e a = .ok [] → type path a e = .ok [])
    ∧ (∀ u v w, type path u v = .ok [] → type path v w = .ok [] → type path u w = .ok [])
    ∧ ∀ e a : Value, e.family?.isSome = true → equality path e a = .ok [] → type path e a = .ok [] := by
  refine ⟨fun v hv => type_self path hv, fun e a h => ?_, fun u v w huv hvw => ?_, fun e a he h => ?_⟩
  · rw [type_nil_iff] at h ⊢
    exact ⟨h.1.symm, h.2.2, h.2.1⟩
  · rw [type_nil_iff] at huv hvw ⊢
    exact ⟨huv.1.trans hvw.1, huv.2.1, hvw.2.2⟩
  · obtain ⟨hagrees, hwritable⟩ := (equality_nil_iff path).mp h
    exact (type_nil_iff path).mpr ⟨akin_of_agrees hagrees he, hwritable⟩

/-- A half as a decimal number and as a binary one. -/
theorem type_equivalence_half :
    let half : Value := .decimal (.finite false 5 (-1))
    let binary : Value := .real (.finite false 1 (-1))
    half.family?.isSome = true ∧ half.isWritable = true ∧ equality ["$"] half binary = .ok []
      ∧ type ["$"] half binary = .ok [] ∧ type ["$"] binary half = .ok []
      ∧ type ["$"] binary binary = .ok [] ∧ type ["$"] half half = .ok [] := by
  intro half binary
  obtain ⟨hrefl, hsymm, htrans, hequal⟩ := type_equivalence ["$"]
  have hwritable : half.isWritable = true := Value.isWritable_of_shown rfl
  have hagrees : equality ["$"] half binary = .ok [] :=
    (equality_nil_iff ["$"]).mpr ⟨rfl, hwritable, Value.isWritable_of_shown rfl⟩
  have htype := hequal half binary rfl hagrees
  have htype' := hsymm half binary htype
  exact ⟨rfl, hwritable, hagrees, htype, htype', htrans _ _ _ htype' htype,
    (hrefl half rfl).1.mpr hwritable⟩

/-- An integer of 4301 digits belongs to the numbers, but cannot even be compared with itself. -/
theorem type_of_long_integer :
    let long : Value := .int (10 ^ 4300)
    long.family?.isSome = true ∧ type ["$"] long long = .error .unusableValue := by
  intro long
  have hlong : long.described = .error .unusableValue :=
    Value.described_of_long (Value.isLongInteger_pow (Nat.le_refl _))
  refine ⟨rfl, ?_⟩
  rw [type, hlong]
  rfl

end Comparison

end HttpContract
