/-!
Maps that keep the order in which their keys were first put. A look-up sees the last value put
under its key, and no other key.
-/
namespace HttpContract

abbrev Keyed (α β : Type) := List (α × β)

namespace Keyed

variable {α β γ : Type} [DecidableEq α]

def get? : Keyed α β → α → Option β
  | [], _ => none
  | (k, v) :: rest, key => if k = key then some v else get? rest key

/-- A key that is there keeps its place and takes the new value; any other goes to the end. -/
def put : Keyed α β → α → β → Keyed α β
  | [], key, value => [(key, value)]
  | (k, v) :: rest, key, value =>
    if k = key then (k, value) :: rest else (k, v) :: put rest key value

def keys (m : Keyed α β) : List α := m.map Prod.fst

def values (m : Keyed α β) : List β := m.map Prod.snd

def mapValues (f : β → γ) (m : Keyed α β) : Keyed α γ := m.map fun e => (e.1, f e.2)

def putAll (m entries : Keyed α β) : Keyed α β := entries.foldl (fun m e => put m e.1 e.2) m

def sameEntries [DecidableEq β] (m n : Keyed α β) : Bool :=
  m.length == n.length && m.all fun e => get? n e.1 == some e.2

theorem get?_put (m : Keyed α β) (key other : α) (value : β) :
    get? (put m key value) other = if key = other then some value else get? m other := by
  induction m with
  | nil => simp [put, get?]
  | cons e rest ih =>
    obtain ⟨k, v⟩ := e
    by_cases h : k = key
    · subst h
      by_cases ho : k = other <;> simp [put, get?, ho]
    · rw [put, if_neg h, get?, ih, get?]
      by_cases ho : k = other
      · have : ¬ key = other := fun e => h (ho.trans e.symm)
        simp [ho, this]
      · simp [ho]

theorem keys_put (m : Keyed α β) (key : α) (value : β) :
    keys (put m key value) = if key ∈ keys m then keys m else keys m ++ [key] := by
  induction m with
  | nil => simp [put, keys]
  | cons e rest ih =>
    obtain ⟨k, v⟩ := e
    by_cases h : k = key
    · simp [put, keys, h]
    · have hk : ¬ key = k := fun e => h e.symm
      simp only [put, h, if_false, keys, List.map_cons] at ih ⊢
      rw [ih]
      by_cases hm : key ∈ rest.map Prod.fst <;> simp [hm, hk]

theorem put_of_not_mem {m : Keyed α β} {key : α} (h : key ∉ keys m) (value : β) :
    put m key value = m ++ [(key, value)] := by
  induction m with
  | nil => rfl
  | cons e rest ih =>
    have hk : e.1 ≠ key := fun he => h (he ▸ List.mem_cons_self)
    rw [put, if_neg hk, ih fun hm => h (List.mem_cons_of_mem _ hm)]
    rfl

theorem putAll_of_nodup {m entries : Keyed α β} (h : (keys (m ++ entries)).Nodup) :
    putAll m entries = m ++ entries := by
  induction entries generalizing m with
  | nil => exact (List.append_nil m).symm
  | cons e rest ih =>
    have hm : e.1 ∉ keys m := by
      rw [keys, List.map_append, List.map_cons, List.nodup_append] at h
      exact fun hm => h.2.2 e.1 hm e.1 List.mem_cons_self rfl
    have hassoc : m ++ e :: rest = (m ++ [e]) ++ rest := (List.append_assoc m [e] rest).symm
    rw [hassoc] at h ⊢
    rw [putAll, List.foldl_cons, put_of_not_mem hm]
    exact ih h

/-- Of two values put under a key the last one stays. -/
theorem put_put (m : Keyed α β) (key : α) (value last : β) :
    put (put m key value) key last = put m key last := by
  induction m with
  | nil => exact if_pos rfl
  | cons e rest ih =>
    obtain ⟨k, v⟩ := e
    by_cases h : k = key
    · rw [put, if_pos h, put, if_pos h, put, if_pos h]
    · rw [put, if_neg h, put, if_neg h, put, if_neg h, ih]

theorem mem_keys_put {m : Keyed α β} {key other : α} {value : β} :
    other ∈ keys (put m key value) ↔ other ∈ keys m ∨ other = key := by
  rw [keys_put]
  split
  · rename_i h
    exact ⟨.inl, fun ho => ho.elim id fun he => he ▸ h⟩
  · rw [List.mem_append, List.mem_singleton]

theorem nodup_keys_put {m : Keyed α β} (h : (keys m).Nodup) (key : α) (value : β) :
    (keys (put m key value)).Nodup := by
  rw [keys_put]
  split
  · exact h
  · rename_i hk
    refine List.nodup_append.mpr ⟨h, by simp, ?_⟩
    rintro a ha b hb rfl
    exact hk (List.mem_singleton.mp hb ▸ ha)

theorem mem_put {m : Keyed α β} {key : α} {value : β} {e : α × β} (h : e ∈ put m key value) :
    e = (key, value) ∨ e ∈ m := by
  induction m with
  | nil => exact .inl (List.mem_singleton.mp h)
  | cons d rest ih =>
    obtain ⟨k, v⟩ := d
    by_cases hk : k = key
    · rw [put, if_pos hk] at h
      rcases List.mem_cons.mp h with rfl | hr
      · exact .inl (by rw [hk])
      · exact .inr (List.mem_cons_of_mem _ hr)
    · rw [put, if_neg hk] at h
      rcases List.mem_cons.mp h with rfl | hr
      · exact .inr (List.mem_cons_self ..)
      · exact (ih hr).imp_right (List.mem_cons_of_mem _)

theorem mem_of_get? {m : Keyed α β} {key : α} {value : β} (h : get? m key = some value) :
    (key, value) ∈ m := by
  induction m with
  | nil => cases h
  | cons d rest ih =>
    obtain ⟨k, v⟩ := d
    by_cases hk : k = key
    · rw [get?, if_pos hk] at h
      cases h
      simp [hk]
    · rw [get?, if_neg hk] at h
      exact List.mem_cons_of_mem _ (ih h)

theorem get?_eq_none {m : Keyed α β} {key : α} (h : key ∉ keys m) : get? m key = none := by
  cases hv : get? m key with
  | none => rfl
  | some value => exact absurd (List.mem_map_of_mem (mem_of_get? hv)) h

theorem get?_of_mem {m : Keyed α β} (hn : (keys m).Nodup) {key : α} {value : β}
    (h : (key, value) ∈ m) : get? m key = some value := by
  induction m with
  | nil => cases h
  | cons e rest ih =>
    obtain ⟨hk, hrest⟩ := List.nodup_cons.mp hn
    rw [get?.eq_def]
    rcases List.mem_cons.mp h with rfl | h
    · exact if_pos rfl
    · have hne : e.1 ≠ key := fun he => hk (he ▸ List.mem_map_of_mem h)
      exact (if_neg hne).trans (ih hrest h)

/-- Where every key stands once, leaving out values leaves out nothing else. -/
theorem get?_filter {m : Keyed α β} (hn : (keys m).Nodup) (p : β → Bool) (key : α) :
    get? (m.filter fun e => p e.2) key = (get? m key).filter p := by
  induction m with
  | nil => rfl
  | cons e rest ih =>
    obtain ⟨k, v⟩ := e
    obtain ⟨hk, hrest⟩ := List.nodup_cons.mp hn
    have ih := ih hrest
    by_cases he : k = key
    · subst he
      have hnone : get? rest k = none := get?_eq_none hk
      rw [hnone] at ih
      cases hp : p v <;> simp [get?, Option.filter, hp, ih]
    · cases hp : p v <;> simp [get?, hp, he, ih]

theorem get?_filter_keys (m : Keyed α β) (p : α → Bool) (key : α) :
    get? (m.filter fun e => p e.1) key = if p key then get? m key else none := by
  induction m with
  | nil => simp [get?]
  | cons e rest ih =>
    obtain ⟨k, v⟩ := e
    by_cases he : k = key
    · subst he
      cases hp : p k <;> simp [get?, hp, ih]
    · cases hp : p k <;> simp [get?, hp, he, ih]

theorem find?_keys_put (m : Keyed α β) (key : α) (value : β) (p : α → Bool) :
    (keys (put m key value)).find? p = ((keys m).find? p).or (if p key then some key else none) := by
  rw [keys_put]
  split
  · rename_i hmem
    cases hp : p key with
    | true =>
      have hsome : ((keys m).find? p).isSome := List.find?_isSome.mpr ⟨key, hmem, hp⟩
      rw [Option.or_of_isSome hsome]
    | false => exact Option.or_none.symm
  · rw [List.find?_append, List.find?_singleton]

theorem find?_key (m : Keyed α β) (key : α) :
    (m.find? fun e => decide (e.1 = key)) = (get? m key).map fun value => (key, value) := by
  induction m with
  | nil => rfl
  | cons e rest ih =>
    obtain ⟨k, v⟩ := e
    by_cases he : k = key
    · subst he
      simp [get?]
    · simp [get?, he, ih]

theorem get?_append (m entries : Keyed α β) (key : α) :
    get? (m ++ entries) key = (get? m key).or (get? entries key) := by
  induction m with
  | nil => rfl
  | cons e rest ih =>
    by_cases he : e.1 = key
    · rw [List.cons_append, get?, get?, if_pos he, if_pos he]
      rfl
    · rw [List.cons_append, get?, get?, if_neg he, if_neg he, ih]

/-- Where every key stands once, what stands there is found, and nothing else. -/
theorem mem_iff_get? {m : Keyed α β} (hn : (keys m).Nodup) {e : α × β} :
    e ∈ m ↔ get? m e.1 = some e.2 :=
  ⟨fun h => get?_of_mem hn h, fun h => mem_of_get? h⟩

theorem eq_nil_of_get? {m : Keyed α β} (h : ∀ key, get? m key = none) : m = [] := by
  cases m with
  | nil => rfl
  | cons e rest =>
    have := h e.1
    simp [get?] at this

/-- Entries with keys of their own are all found, and hide what was there. -/
theorem get?_putAll (m : Keyed α β) {entries : Keyed α β} (h : (keys entries).Nodup) (key : α) :
    get? (putAll m entries) key = (get? entries key).or (get? m key) := by
  induction entries generalizing m with
  | nil => rfl
  | cons e rest ih =>
    obtain ⟨hk, hrest⟩ := List.nodup_cons.mp h
    rw [putAll, List.foldl_cons]
    refine (ih (put m e.1 e.2) hrest).trans ?_
    rw [get?_put]
    by_cases he : e.1 = key
    · have hn : get? rest key = none := get?_eq_none (he ▸ hk)
      rw [hn, if_pos he, get?, if_pos he]
      rfl
    · rw [if_neg he, get?, if_neg he]

theorem get?_mapValues (f : β → γ) (m : Keyed α β) (key : α) :
    get? (mapValues f m) key = (get? m key).map f := by
  induction m with
  | nil => rfl
  | cons e rest ih =>
    by_cases h : e.1 = key <;> simp_all [mapValues, get?]

theorem eq_of_get? {m n : Keyed α β} (hn : (keys m).Nodup) (hk : keys m = keys n)
    (h : ∀ key, get? m key = get? n key) : m = n := by
  induction m generalizing n with
  | nil =>
    cases n with
    | nil => rfl
    | cons d n => cases hk
  | cons e m ih =>
    cases n with
    | nil => cases hk
    | cons d n =>
      obtain ⟨k, v⟩ := e
      obtain ⟨l, w⟩ := d
      obtain ⟨hd, hrest⟩ := List.nodup_cons.mp hn
      obtain ⟨rfl, hkeys⟩ : k = l ∧ keys m = keys n := by simpa [keys] using hk
      have hv : v = w := by simpa [get?] using h k
      have hmn : m = n := by
        refine ih hrest hkeys fun key => ?_
        by_cases he : k = key
        · subst he
          rw [get?_eq_none hd, get?_eq_none (hkeys ▸ hd)]
        · simpa [get?, he] using h key
      rw [hv, hmn]

end Keyed

end HttpContract
