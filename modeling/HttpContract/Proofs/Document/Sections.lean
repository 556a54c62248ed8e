import HttpContract.Proofs.Value.Equality

/-!
Documents in sections. A section has documents under keys; one that stands alone under the empty key
is written without it, and can still be told from what stands under keys. Empty sections are left
out, so that they are no different from missing ones.
-/
namespace HttpContract

namespace Keyed

variable {α β γ δ : Type} [DecidableEq α]

def sectionAt (s : Keyed α (Keyed String β)) (name : α) : Keyed String β := (get? s name).getD []

def Distinct (s : Keyed α (Keyed String β)) : Prop :=
  (keys s).Nodup ∧ ∀ e ∈ s, (keys e.2).Nodup

instance (s : Keyed α (Keyed String β)) : Decidable (Distinct s) :=
  inferInstanceAs (Decidable (_ ∧ _))

theorem Distinct.sectionAt {s : Keyed α (Keyed String β)} (h : Distinct s) (name : α) :
    (keys (sectionAt s name)).Nodup := by
  unfold Keyed.sectionAt
  cases hm : get? s name with
  | none => exact List.nodup_nil
  | some m => exact h.2 _ (mem_of_get? hm)

theorem Distinct.put {s : Keyed α (Keyed String β)} (h : Distinct s) (name : α)
    {m : Keyed String β} (hm : (keys m).Nodup) : Distinct (put s name m) := by
  refine ⟨nodup_keys_put h.1 name m, fun e he => ?_⟩
  rcases mem_put he with rfl | he
  · exact hm
  · exact h.2 e he

/-- Only what is not empty is found where empty sections are left out. -/
theorem get?_filter_sections {s : Keyed α (Keyed String β)} (h : Distinct s) (name : α) :
    get? (s.filter fun e => !e.2.isEmpty) name =
      if sectionAt s name = [] then none else some (sectionAt s name) := by
  rw [get?_filter h.1 (fun m => !m.isEmpty), sectionAt]
  cases get? s name with
  | none => rfl
  | some m => cases m <;> rfl

/-- The sections that are not empty are related name by name exactly if all sections have the same
core under each key, where one that is missing counts as empty. -/
theorem forall_rel_sections_iff {R : Keyed String β → Keyed String β → Prop} {core : β → γ}
    (hR : ∀ m n, (keys m).Nodup → (keys n).Nodup →
      (R m n ↔ ∀ key, (get? m key).map core = (get? n key).map core))
    {s t : Keyed α (Keyed String β)} (hs : Distinct s) (ht : Distinct t) :
    (∀ name, Option.Rel R (get? (s.filter fun e => !e.2.isEmpty) name)
      (get? (t.filter fun e => !e.2.isEmpty) name)) ↔
        ∀ name key, (get? (sectionAt s name) key).map core =
          (get? (sectionAt t name) key).map core := by
  refine forall_congr' fun name => ?_
  rw [get?_filter_sections hs, get?_filter_sections ht]
  have hnil {m : Keyed String β} (h : ∀ key, (get? m key).map core = none) : m = [] :=
    eq_nil_of_get? fun key => Option.map_eq_none_iff.mp (h key)
  by_cases hsn : sectionAt s name = [] <;> by_cases htn : sectionAt t name = []
  · simp [hsn, htn]
  · rw [if_pos hsn, if_neg htn, hsn]
    exact iff_of_false (by rintro ⟨⟩) fun h => htn (hnil fun key => (h key).symm)
  · rw [if_neg hsn, if_pos htn, htn]
    exact iff_of_false (by rintro ⟨⟩) fun h => hsn (hnil h)
  · rw [if_neg hsn, if_neg htn, Option.rel_some_some]
    exact hR _ _ (hs.sectionAt name) (ht.sectionAt name)

omit [DecidableEq α] in
theorem nodup_keys_filter {m : Keyed α β} (h : (keys m).Nodup) (p : α × β → Bool) :
    (keys (m.filter p)).Nodup := h.sublist (List.filter_sublist.map Prod.fst)

theorem get?_mapKeys [DecidableEq γ] {name : α → γ} (h : Function.Injective name) (f : β → δ)
    (m : Keyed α β) (key : α) :
    get? (m.map fun e => (name e.1, f e.2)) (name key) = (get? m key).map f := by
  induction m with
  | nil => rfl
  | cons e m ih =>
    by_cases he : e.1 = key
    · subst he
      simp [get?]
    · simp [get?, he, h.ne he, ih]

end Keyed

namespace Value

/-! ## Documents under keys -/

inductive Plain : Value → Prop
  | text (s : String) : Plain (.text s)
  | int (n : Int) : Plain (.int n)

theorem Plain.same_iff {v w : Value} (hv : Plain v) (hw : Plain w) : same v w = true ↔ v = w := by
  cases hv with
  | text s =>
    cases hw with
    | text t => rw [same_text, decide_eq_true_iff, text.injEq]
    | int n => exact iff_of_false Bool.false_ne_true (by rintro ⟨⟩)
  | int m =>
    cases hw with
    | text t => exact iff_of_false Bool.false_ne_true (by rintro ⟨⟩)
    | int n => rw [same_int, decide_eq_true_iff, int.injEq]

/-- Records of plain values are equal if a reader of fields cannot tell them apart. -/
theorem same_record_plain_iff {xs ys : Keyed String Value} (hx : (Keyed.keys xs).Nodup)
    (hy : (Keyed.keys ys).Nodup) (hxp : ∀ e ∈ xs, Plain e.2) (hyp : ∀ e ∈ ys, Plain e.2) :
    same (record xs) (record ys) = true ↔ Keyed.get? xs = Keyed.get? ys := by
  rw [same_record_iff hx hy, funext_iff]
  refine forall_congr' fun key => ?_
  cases hv : Keyed.get? xs key with
  | none => cases Keyed.get? ys key <;> simp
  | some v =>
    cases hw : Keyed.get? ys key with
    | none => simp
    | some w =>
      have hvw := (hxp _ (Keyed.mem_of_get? hv)).same_iff (hyp _ (Keyed.mem_of_get? hw))
      simpa using hvw

/-- What is read back from the fields of a record is told by the record. -/
theorem same_record_of_reader {β γ : Type} {fields : β → Keyed String Value}
    {read : (String → Option Value) → Option γ} {core : β → γ}
    (hkeys : ∀ b, (Keyed.keys (fields b)).Nodup) (hplain : ∀ b, ∀ e ∈ fields b, Plain e.2)
    (hread : ∀ b, read (Keyed.get? (fields b)) = some (core b))
    (hcore : ∀ a b, core a = core b → fields a = fields b) (a b : β) :
    same (record (fields a)) (record (fields b)) = true ↔ core a = core b := by
  rw [same_record_plain_iff (hkeys a) (hkeys b) (hplain a) (hplain b)]
  constructor
  · intro h
    have hsame := congrArg read h
    rw [hread, hread] at hsame
    exact Option.some.inj hsame
  · intro h
    rw [hcore a b h]

def IsLeaf (v : Value) : Prop :=
  ∃ xs key w, v = record xs ∧ (Keyed.keys xs).Nodup ∧ Keyed.get? xs key = some w ∧ w.map? = none

theorem same_map_of_map?_none {w : Value} (h : w.map? = none) (entries : List (Value × Value)) :
    same w (map entries) = false ∧ same (map entries) w = false := by
  cases w with
  | map entries => cases h
  | _ => exact ⟨rfl, rfl⟩

/-- What stands under keys is never one of the things that stand there. -/
theorem IsLeaf.not_same_record {v : Value} (hv : IsLeaf v) {n : Keyed String Value}
    (hn : (Keyed.keys n).Nodup) (hleaf : ∀ e ∈ n, IsLeaf e.2) :
    same v (record n) ≠ true ∧ same (record n) v ≠ true := by
  obtain ⟨xs, key, w, rfl, hx, hw, hmap⟩ := hv
  have hother {u : Value} (hu : Keyed.get? n key = some u) :
      same w u = false ∧ same u w = false := by
    obtain ⟨ys, -, -, rfl, -⟩ := hleaf _ (Keyed.mem_of_get? hu)
    exact same_map_of_map?_none hmap _
  rw [Ne, Ne, same_record_iff hx hn, same_record_iff hn hx]
  constructor
  · intro h
    have hk := h key
    rw [hw] at hk
    generalize hu : Keyed.get? n key = u at hk
    cases hk with
    | some hsame => exact Bool.false_ne_true ((hother hu).1.symm.trans hsame)
  · intro h
    have hk := h key
    rw [hw] at hk
    generalize hu : Keyed.get? n key = u at hk
    cases hk with
    | some hsame => exact Bool.false_ne_true ((hother hu).2.symm.trans hsame)

def nested : Keyed String Value → Value
  | [("", v)] => v
  | m => record m

theorem nested_cases (m : Keyed String Value) :
    (∃ v, m = [("", v)] ∧ nested m = v) ∨ (Keyed.keys m ≠ [""] ∧ nested m = record m) := by
  unfold nested
  split
  · exact .inl ⟨_, rfl, rfl⟩
  · rename_i h
    refine .inr ⟨fun hk => ?_, rfl⟩
    obtain ⟨e, rfl, he⟩ := List.map_eq_singleton_iff.mp hk
    obtain ⟨k, v⟩ := e
    exact h v (by rw [← he])

/-- Nested documents are equal if the same stands under every key; one that is keyed never equals
one that is not. -/
theorem same_nested_iff {m n : Keyed String Value} (hm : (Keyed.keys m).Nodup)
    (hn : (Keyed.keys n).Nodup) (hml : ∀ e ∈ m, IsLeaf e.2) (hnl : ∀ e ∈ n, IsLeaf e.2) :
    same (nested m) (nested n) = true ↔
      ∀ key, Option.Rel (fun v w => same v w = true) (Keyed.get? m key) (Keyed.get? n key) := by
  rcases nested_cases m with ⟨v, rfl, hv⟩ | ⟨hmk, hmr⟩
  · rcases nested_cases n with ⟨w, rfl, hw⟩ | ⟨hnk, hnr⟩
    · rw [hv, hw]
      constructor
      · intro h key
        by_cases hk : "" = key <;> simp [Keyed.get?, hk, h]
      · intro h
        simpa [Keyed.get?] using h ""
    · rw [hv, hnr]
      refine iff_of_false ((hml _ (List.mem_singleton_self _)).not_same_record hn hnl).1 fun h => ?_
      exact hnk (List.perm_singleton.mp (Keyed.keys_perm_of_rel hm hn h).symm)
  · rcases nested_cases n with ⟨w, rfl, hw⟩ | ⟨hnk, hnr⟩
    · rw [hmr, hw]
      refine iff_of_false ((hnl _ (List.mem_singleton_self _)).not_same_record hm hml).2 fun h => ?_
      exact hmk (List.perm_singleton.mp (Keyed.keys_perm_of_rel hm hn h))
    · rw [hmr, hnr, same_record_iff hm hn]

/-! ## Sections -/

section Sections

variable {α β γ : Type} [DecidableEq α] {name : α → String} {document : β → Value} {core : β → γ}

def ofSection (document : β → Value) (m : Keyed String β) : Value :=
  nested (Keyed.mapValues document m)

def ofSections (name : α → String) (document : β → Value) (s : Keyed α (Keyed String β)) : Value :=
  record ((s.filter fun e => !e.2.isEmpty).map fun e => (name e.1, ofSection document e.2))

/-- The same documents stand in two sections if they have the same keys, with the same core of
what stands under each. -/
theorem same_ofSection_iff (hleaf : ∀ b, IsLeaf (document b))
    (hcore : ∀ a b, same (document a) (document b) = true ↔ core a = core b)
    {m n : Keyed String β} (hm : (Keyed.keys m).Nodup) (hn : (Keyed.keys n).Nodup) :
    same (ofSection document m) (ofSection document n) = true ↔
      ∀ key, (Keyed.get? m key).map core = (Keyed.get? n key).map core := by
  have hkeys (m : Keyed String β) : Keyed.keys (Keyed.mapValues document m) = Keyed.keys m := by
    rw [Keyed.keys, Keyed.mapValues, List.map_map]
    rfl
  have hleaves (m : Keyed String β) : ∀ e ∈ Keyed.mapValues document m, IsLeaf e.2 := by
    intro e he
    obtain ⟨d, -, rfl⟩ := List.mem_map.mp he
    exact hleaf d.2
  rw [ofSection, ofSection, same_nested_iff (by rwa [hkeys]) (by rwa [hkeys]) (hleaves m)
    (hleaves n)]
  refine forall_congr' fun key => ?_
  rw [Keyed.get?_mapValues, Keyed.get?_mapValues]
  cases Keyed.get? m key <;> cases Keyed.get? n key <;> simp [hcore]

/-- Sections are told by their document, up to their order and what is empty in them. -/
theorem same_ofSections_iff (hname : Function.Injective name) (hleaf : ∀ b, IsLeaf (document b))
    (hcore : ∀ a b, same (document a) (document b) = true ↔ core a = core b)
    {s t : Keyed α (Keyed String β)} (hs : Keyed.Distinct s) (ht : Keyed.Distinct t) :
    same (ofSections name document s) (ofSections name document t) = true ↔
      ∀ place key, (Keyed.get? (Keyed.sectionAt s place) key).map core =
        (Keyed.get? (Keyed.sectionAt t place) key).map core := by
  have hget := Keyed.get?_mapKeys hname (ofSection document)
  rw [ofSections, ofSections, same_record_iff_mem, List.length_map, List.length_map,
    List.forall_mem_map]
  simp only [hget, Option.map_eq_some_iff, exists_exists_and_eq_and]
  refine (Keyed.forall_rel_get?_iff
    (R := fun m n => same (ofSection document m) (ofSection document n) = true)
    (Keyed.nodup_keys_filter hs.1 _) (Keyed.nodup_keys_filter ht.1 _)).trans ?_
  exact Keyed.forall_rel_sections_iff (fun m n hm hn => same_ofSection_iff hleaf hcore hm hn) hs ht

end Sections

end Value

end HttpContract
