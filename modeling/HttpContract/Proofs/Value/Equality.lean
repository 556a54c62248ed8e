import HttpContract.Proofs.Value.Written
import HttpContract.Value.Equality
import Mathlib.Algebra.Group.Nat.Defs
import Mathlib.Data.List.Forall2
import Mathlib.Data.List.Perm.Subperm

/-!
What it means that two values are equal: for integers and texts that they are the same, for lists
that they are equal member by member, and for maps with keys of text that what is found under each
key is equal, whatever the order of the keys.
-/
namespace HttpContract

namespace Number

/-- Zeros that are dropped from a coefficient are counted by the exponent. -/
theorem exists_dropZeros (steps n : Nat) (e : Int) :
    ∃ c k : Nat, dropZeros steps n e = (c, e + k) ∧ c * 10 ^ k = n := by
  induction steps generalizing n e with
  | zero => exact ⟨n, 0, by simp [dropZeros], Nat.mul_one n⟩
  | succ steps ih =>
    by_cases h : n % 10 = 0
    · obtain ⟨c, k, hd, hc⟩ := ih (n / 10) (e + 1)
      refine ⟨c, k + 1, ?_, ?_⟩
      · rw [dropZeros, if_pos h, hd, Int.natCast_succ, Int.add_assoc, Int.add_comm 1]
      · rw [Nat.pow_succ, ← Nat.mul_assoc, hc, Nat.div_mul_cancel (Nat.dvd_of_mod_eq_zero h)]
    · exact ⟨n, 0, by simp [dropZeros, h], Nat.mul_one n⟩

/-- The form of an integer tells its sign and its magnitude. -/
theorem exists_intForm (n : Int) :
    ∃ c k : Nat, intForm n = .finite (n < 0) c k ∧ c * 10 ^ k = n.natAbs := by
  by_cases hn : n.natAbs = 0
  · have hz : n = 0 := Int.natAbs_eq_zero.mp hn
    subst hz
    exact ⟨0, 0, rfl, rfl⟩
  · obtain ⟨c, k, hd, hc⟩ := exists_dropZeros (Nat.log2 n.natAbs) n.natAbs 0
    refine ⟨c, k, ?_, hc⟩
    rw [intForm, Form.ofPower, if_neg hn, hd, Int.zero_add]

theorem intForm_inj {m n : Int} : intForm m = intForm n ↔ m = n := by
  constructor
  · intro h
    obtain ⟨c, k, hm, hmc⟩ := exists_intForm m
    obtain ⟨d, l, hn, hnd⟩ := exists_intForm n
    rw [hm, hn, Form.finite.injEq, decide_eq_decide, Int.natCast_inj] at h
    obtain ⟨hsign, rfl, rfl⟩ := h
    have hmagnitude : m.natAbs = n.natAbs := hmc.symm.trans hnd
    omega
  · rintro rfl
    rfl

theorem Form.exists_equal {f g : Form} (hf : f ≠ .signaling) (hg : g ≠ .signaling) :
    ∃ answer, f.equal g = .ok answer := by
  cases f <;> cases g <;> first | exact ⟨_, rfl⟩ | exact absurd rfl hf | exact absurd rfl hg

end Number

namespace Keyed

variable {α β γ : Type} [DecidableEq α]

theorem mem_keys_iff {m : Keyed α β} {key : α} : key ∈ keys m ↔ ∃ v, get? m key = some v := by
  constructor
  · intro h
    cases hv : get? m key with
    | some v => exact ⟨v, rfl⟩
    | none =>
      induction m with
      | nil => cases h
      | cons e m ih =>
        by_cases he : e.1 = key
        · simp [get?, he] at hv
        · rw [get?, if_neg he] at hv
          exact ih ((List.mem_cons.mp h).resolve_left fun hk => he hk.symm) hv
  · rintro ⟨v, hv⟩
    exact List.mem_map_of_mem (mem_of_get? hv)

theorem keys_perm_of_rel {R : β → γ → Prop} {m : Keyed α β} {n : Keyed α γ}
    (hm : (keys m).Nodup) (hn : (keys n).Nodup)
    (h : ∀ key, Option.Rel R (get? m key) (get? n key)) : (keys m).Perm (keys n) := by
  refine (List.perm_ext_iff_of_nodup hm hn).mpr fun key => ?_
  rw [mem_keys_iff, mem_keys_iff]
  have hk := h key
  revert hk
  cases get? m key <;> cases get? n key <;> rintro ⟨⟩ <;> simp

/-- Maps of one length agree under every key if what stands in one is found in the other. -/
theorem forall_rel_get?_iff {R : β → γ → Prop} {m : Keyed α β} {n : Keyed α γ}
    (hm : (keys m).Nodup) (hn : (keys n).Nodup) :
    (m.length = n.length ∧ ∀ e ∈ m, ∃ w, get? n e.1 = some w ∧ R e.2 w) ↔
      ∀ key, Option.Rel R (get? m key) (get? n key) := by
  have hlength : m.length = n.length ↔ (keys m).length = (keys n).length := by
    rw [keys, keys, List.length_map, List.length_map]
  constructor
  · rintro ⟨hl, h⟩ key
    have hsub : keys m ⊆ keys n := by
      intro k hk
      obtain ⟨v, hv⟩ := mem_keys_iff.mp hk
      obtain ⟨w, hw, -⟩ := h _ (mem_of_get? hv)
      exact mem_keys_iff.mpr ⟨w, hw⟩
    -- Distinct keys that all occur among as many others are these others.
    have hperm : (keys m).Perm (keys n) :=
      (hm.subperm hsub).perm_of_length_le (Nat.le_of_eq (hlength.mp hl).symm)
    cases hv : get? m key with
    | some v =>
      obtain ⟨w, hw, hr⟩ := h _ (mem_of_get? hv)
      rw [hw]
      exact .some hr
    | none =>
      have hk : key ∉ keys n := by
        rw [← hperm.mem_iff, mem_keys_iff, hv]
        rintro ⟨v, ⟨⟩⟩
      rw [get?_eq_none hk]
      exact .none
  · intro h
    refine ⟨hlength.mpr (keys_perm_of_rel hm hn h).length_eq, fun e he => ?_⟩
    have hk := h e.1
    rw [get?_of_mem hm he] at hk
    revert hk
    cases get? n e.1 with
    | none => rintro ⟨⟩
    | some w =>
      rintro ⟨hr⟩
      exact ⟨w, rfl, hr⟩

theorem sameEntries_iff [DecidableEq β] {m n : Keyed α β} (hm : (keys m).Nodup)
    (hn : (keys n).Nodup) : sameEntries m n = true ↔ ∀ key, get? m key = get? n key := by
  have hrel := forall_rel_get?_iff (R := Eq) hm hn
  simp only [exists_eq_right'] at hrel
  rw [sameEntries, Bool.and_eq_true, beq_iff_eq, List.all_eq_true]
  simp only [beq_iff_eq]
  rw [hrel]
  refine forall_congr' fun key => ?_
  cases get? m key <;> cases get? n key <;> simp

end Keyed

namespace Value

theorem same_iff_equal {v w : Value} : same v w = true ↔ equal v w = .ok true := by
  unfold same
  split
  · rename_i answer h
    rw [h, Except.ok.injEq]
  · rename_i e h
    rw [h]
    exact iff_of_false Bool.false_ne_true (by rintro ⟨⟩)

theorem same_text (k name : String) : same (text k) (text name) = decide (k = name) := rfl

/-- Entries with names for keys are put into a map as under these names. -/
theorem putEntry_record (entries : Keyed String Value) (name : String) (w : Value) :
    putEntry (entries.map fun e => (text e.1, e.2)) (text name) w =
      (Keyed.put entries name w).map fun e => (text e.1, e.2) := by
  induction entries with
  | nil => rfl
  | cons e entries ih =>
    obtain ⟨k, v⟩ := e
    by_cases hk : k = name
    · simp [Keyed.put, putEntry, same_text, hk]
    · simpa [Keyed.put, putEntry, same_text, hk] using ih

theorem foldl_putEntry_record (m entries : Keyed String Value) :
    (entries.map fun e => (text e.1, e.2)).foldl (fun m e => putEntry m e.1 e.2)
      (m.map fun e => (text e.1, e.2)) = (Keyed.putAll m entries).map fun e => (text e.1, e.2) := by
  induction entries generalizing m with
  | nil => rfl
  | cons e entries ih =>
    rw [List.map_cons, List.foldl_cons, putEntry_record, ih]
    rfl

theorem same_int (m n : Int) : same (int m) (int n) = decide (m = n) := by
  have hforms : same (int m) (int n) = decide (Number.intForm m = Number.intForm n) := by
    obtain ⟨c, k, hm, -⟩ := Number.exists_intForm m
    obtain ⟨d, l, hn, -⟩ := Number.exists_intForm n
    have hequal : equal (int m) (int n) = (Number.intForm m).equal (Number.intForm n) := rfl
    rw [same, hequal, hm, hn]
    rfl
  rw [hforms, decide_eq_decide, Number.intForm_inj]

theorem equalItems_iff {a b : List Value} :
    equalItems a b = .ok true ↔ List.Forall₂ (fun v w => same v w = true) a b := by
  induction a generalizing b with
  | nil => cases b <;> simp [equalItems]
  | cons v a ih =>
    cases b with
    | nil => simp [equalItems]
    | cons w b =>
      rw [List.forall₂_cons, same_iff_equal, ← ih, equalItems]
      cases equal v w with
      | error e => exact iff_of_false (by rintro ⟨⟩) (by rintro ⟨⟨⟩, -⟩)
      | ok answer =>
        cases answer with
        | false => exact iff_of_false (by rintro ⟨⟩) (by rintro ⟨⟨⟩, -⟩)
        | true => exact (and_iff_right rfl).symm

theorem same_list_iff {a b : List Value} :
    same (list a) (list b) = true ↔ List.Forall₂ (fun v w => same v w = true) a b := by
  rw [same_iff_equal, equal, ← equalItems_iff]
  split
  · exact Iff.rfl
  · rename_i hl
    exact iff_of_false (by rintro ⟨⟩) fun h => hl (equalItems_iff.mp h).length_eq

/-- Keys of text are compared as texts. -/
theorem equalEntries_iff {xs ys : Keyed String Value} :
    equalEntries (xs.map fun e => (text e.1, e.2)) (ys.map fun e => (text e.1, e.2)) = .ok true ↔
      ∀ e ∈ xs, ∃ w, Keyed.get? ys e.1 = some w ∧ same e.2 w = true := by
  have hfind (key : String) : (ys.map fun e => (text e.1, e.2)).find?
      (fun e => same (text key) e.1) = (Keyed.get? ys key).map fun w => (text key, w) := by
    have hkey : (fun e : String × Value => decide (key = e.1)) = fun e => decide (e.1 = key) :=
      funext fun e => decide_eq_decide.mpr eq_comm
    have hmap : (ys.map fun e => (text e.1, e.2)).find? (fun e => same (text key) e.1) =
        (ys.find? fun e => decide (key = e.1)).map fun e => (text e.1, e.2) := List.find?_map
    rw [hmap, hkey, Keyed.find?_key, Option.map_map]
    rfl
  induction xs with
  | nil => simp [equalEntries]
  | cons e xs ih =>
    rw [List.forall_mem_cons, List.map_cons, equalEntries]
    refine Iff.trans ?_ (and_congr_right fun _ => ih)
    have hfirst := hfind e.1
    unfold same at hfirst
    rw [hfirst]
    cases Keyed.get? ys e.1 with
    | none => exact iff_of_false (by rintro ⟨⟩) (by rintro ⟨⟨w, ⟨⟩, -⟩, -⟩)
    | some w =>
      simp only [Option.map_some, Option.some.injEq, exists_eq_left', same_iff_equal]
      cases equal e.2 w with
      | error e => exact iff_of_false (by rintro ⟨⟩) (by rintro ⟨⟨⟩, -⟩)
      | ok answer =>
        cases answer with
        | false => exact iff_of_false (by rintro ⟨⟩) (by rintro ⟨⟨⟩, -⟩)
        | true => exact (and_iff_right rfl).symm

/-- A map is equal to another one of its length in which all of it is found. -/
theorem same_record_iff_mem {xs ys : Keyed String Value} :
    same (record xs) (record ys) = true ↔
      xs.length = ys.length
        ∧ ∀ e ∈ xs, ∃ w, Keyed.get? ys e.1 = some w ∧ same e.2 w = true := by
  rw [same_iff_equal, record, record, equal, List.length_map, List.length_map, ← equalEntries_iff]
  split
  · rename_i hl
    exact (and_iff_right hl).symm
  · rename_i hl
    exact iff_of_false (by rintro ⟨⟩) fun h => hl h.1

/-- Maps are equal if the same is found in them under every key. -/
theorem same_record_iff {xs ys : Keyed String Value} (hx : (Keyed.keys xs).Nodup)
    (hy : (Keyed.keys ys).Nodup) :
    same (record xs) (record ys) = true ↔
      ∀ key, Option.Rel (fun v w => same v w = true) (Keyed.get? xs key) (Keyed.get? ys key) := by
  rw [same_record_iff_mem, ← Keyed.forall_rel_get?_iff hx hy]

/-! ## When there is an answer -/

def isQuiet (v : Value) : Bool := v.every fun
  | decimal d => !d.isSignaling
  | _ => true

theorem numberForm?_ne_signaling {v : Value} {f : Number.Form} (h : v.isQuiet = true)
    (hf : numberForm? v = some f) : f ≠ .signaling := by
  have hpower (negative : Bool) (c : Nat) (e : Int) :
      Number.Form.ofPower negative c e ≠ .signaling := by
    unfold Number.Form.ofPower
    split <;> exact Number.Form.noConfusion
  rintro rfl
  cases v with
  | bool b => exact hpower _ _ _ (Option.some.inj hf)
  | int n => exact hpower _ _ _ (Option.some.inj hf)
  | real x =>
    cases x with
    | nan | infinite => cases hf
    | finite negative m e =>
      have hform := Option.some.inj hf
      rw [Number.Real64.form] at hform
      split at hform <;> exact hpower _ _ _ hform
  | decimal d =>
    cases d with
    | infinite => cases hf
    | finite negative c e => exact hpower _ _ _ (Option.some.inj hf)
    | nan negative signaling payload =>
      cases signaling with
      | true => cases h
      | false => cases hf
  | _ => cases hf

/-- Leaves are compared as numbers if both are, and then at once. -/
theorem equal_leaf_cases {v : Value} (h : v.isCollection = false) (w : Value) :
    (∃ answer, equal v w = .ok answer) ∨
      ∃ f g, numberForm? v = some f ∧ numberForm? w = some g ∧ equal v w = f.equal g := by
  cases v with
  | list | tuple | map => cases h
  | bool | int | real | decimal =>
    cases w with
    | bool | int | real | decimal => exact .inr ⟨_, _, rfl, rfl, rfl⟩
    | _ => exact .inl ⟨_, rfl⟩
  | _ => cases w <;> exact .inl ⟨_, rfl⟩

theorem exists_equalItems {a b : List Value}
    (h : ∀ v ∈ a, ∀ w ∈ b, ∃ answer, equal v w = .ok answer) :
    ∃ answer, equalItems a b = .ok answer := by
  induction a generalizing b with
  | nil => cases b <;> exact ⟨_, rfl⟩
  | cons v a ih =>
    cases b with
    | nil => exact ⟨_, rfl⟩
    | cons w b =>
      obtain ⟨answer, hanswer⟩ := h v List.mem_cons_self w List.mem_cons_self
      rw [equalItems, hanswer]
      cases answer with
      | false => exact ⟨_, rfl⟩
      | true =>
        exact ih fun v hv w hw => h v (List.mem_cons_of_mem _ hv) w (List.mem_cons_of_mem _ hw)

theorem exists_equalEntries {a b : List (Value × Value)}
    (h : ∀ e ∈ a, ∀ d ∈ b, ∃ answer, equal e.2 d.2 = .ok answer) :
    ∃ answer, equalEntries a b = .ok answer := by
  induction a with
  | nil => exact ⟨_, rfl⟩
  | cons e a ih =>
    obtain ⟨k, v⟩ := e
    rw [equalEntries]
    split
    · rename_i d hd
      obtain ⟨answer, hanswer⟩ := h (k, v) List.mem_cons_self d (List.mem_of_find?_eq_some hd)
      rw [hanswer]
      cases answer with
      | false => exact ⟨_, rfl⟩
      | true => exact ih fun e he => h e (List.mem_cons_of_mem _ he)
    · exact ⟨_, rfl⟩

/-- Values without a number that refuses it can be compared. -/
theorem exists_equal {v w : Value} (hv : v.isQuiet = true) (hw : w.isQuiet = true) :
    ∃ answer, equal v w = .ok answer := by
  induction v using members_induction generalizing w with
  | leaf v hleaf =>
    rcases equal_leaf_cases hleaf w with hanswer | ⟨f, g, hf, hg, hequal⟩
    · exact hanswer
    · rw [hequal]
      exact Number.Form.exists_equal (numberForm?_ne_signaling hv hf) (numberForm?_ne_signaling hw hg)
  | list a ih =>
    cases w with
    | list b =>
      rw [equal]
      split
      · exact exists_equalItems fun v hmem w hmem' =>
          ih v hmem ((every_list_iff.mp hv).2 v hmem) ((every_list_iff.mp hw).2 w hmem')
      · exact ⟨_, rfl⟩
    | _ => exact ⟨_, rfl⟩
  | tuple a ih =>
    cases w with
    | tuple b =>
      rw [equal]
      exact exists_equalItems fun v hmem w hmem' =>
        ih v hmem ((every_tuple_iff.mp hv).2 v hmem) ((every_tuple_iff.mp hw).2 w hmem')
    | _ => exact ⟨_, rfl⟩
  | map a ih =>
    cases w with
    | map b =>
      rw [equal]
      split
      · exact exists_equalEntries fun e hmem d hmem' =>
          (ih e hmem).2 ((every_map_iff.mp hv).2 e hmem).2 ((every_map_iff.mp hw).2 d hmem').2
      · exact ⟨_, rfl⟩
    | _ => exact ⟨_, rfl⟩

end Value

end HttpContract
