import HttpContract.Proofs.Draft.Reachable
import HttpContract.Proofs.Session.Change

/-!
What holds of every session that operations lead to: what an entry refers to is there, and all
drafts are reachable.
-/
namespace HttpContract.Session

variable {s t : Session}

structure Sound (s : Session) : Prop where
  providers : ∀ p ∈ s.providers, p.consumer < s.consumers.length
  states : ∀ e ∈ s.states, s.Knows e.origin.consumer
  requests : ∀ q ∈ s.requests, s.Knows q.origin.consumer ∧ q.draft.Reachable
  responses : ∀ r ∈ s.responses, s.Knows r.consumer ∧ r.draft.Reachable
  answered : ∀ r ∈ s.responses, ∀ m, r.request = some m → m < s.requests.length

theorem sound_empty : empty.Sound where
  providers _ hp := absurd hp List.not_mem_nil
  states _ he := absurd he List.not_mem_nil
  requests _ hq := absurd hq List.not_mem_nil
  responses _ hr := absurd hr List.not_mem_nil
  answered _ hr := absurd hr List.not_mem_nil

theorem Knows.mono {consumer : Option Nat} (h : s.Knows consumer)
    (hle : s.consumers.length ≤ t.consumers.length) : t.Knows consumer :=
  fun n hn => Nat.lt_of_lt_of_le (h n hn) hle

theorem Sound.withConsumers (h : s.Sound) {consumers : List ConsumerEntry}
    (hle : s.consumers.length ≤ consumers.length) : { s with consumers := consumers }.Sound where
  providers p hp := Nat.lt_of_lt_of_le (h.providers p hp) hle
  states e he := (h.states e he).mono hle
  requests q hq := ⟨(h.requests q hq).1.mono hle, (h.requests q hq).2⟩
  responses r hr := ⟨(h.responses r hr).1.mono hle, (h.responses r hr).2⟩
  answered := h.answered

theorem length_withInteraction (s : Session) (c : Nat) (i : Interaction) :
    (s.withInteraction c i).consumers.length = s.consumers.length := List.length_modify ..

theorem Sound.finishing (h : s.Sound) (op : Operation) : (s.finishing op).Sound := by
  unfold Session.finishing
  split
  · rename_i r _
    obtain ⟨c, m, q, -, -, -, -, hs⟩ | ⟨e, hs, -⟩ := perform_store r s
    · rw [hs]
      exact h.withConsumers (Nat.le_of_eq (length_withInteraction s c _).symm)
    · rw [hs]
      exact h
  · exact h

theorem Sound.knows_of_offers (h : s.Sound) {o : Origin} (ho : s.Offers o) :
    s.Knows o.consumer := by
  cases ho with
  | detached => exact nofun
  | provider hc =>
    intro n hn
    cases hn
    exact (List.getElem?_eq_some_iff.mp hc).1
  | states he => exact h.states _ he
  | previous hr hq hn => exact hn ▸ (h.responses _ hr).1
  | request hq => exact (h.requests _ hq).1

theorem Sound.reachable_request (h : s.Sound) {d : RequestDraft} (hd : s.DraftsRequest d) :
    d.Reachable := by
  induction hd with
  | fresh c => exact .fresh c
  | own hq => exact (h.requests _ hq).2
  | copy c _ ih => exact .copy c ih
  | edit e _ ih => exact .edit e ih
  | editPath e _ ih => exact .editPath e ih

theorem Sound.reachable_response (h : s.Sound) {d : ResponseDraft} (hd : s.DraftsResponse d) :
    d.Reachable := by
  induction hd with
  | fresh c => exact .fresh c
  | own hr => exact (h.responses _ hr).2
  | copy c _ ih => exact .copy c ih
  | edit e _ ih => exact .edit e ih

theorem Sound.known_of_attaches (h : s.Sound) {consumer request : Option Nat}
    (ha : s.Attaches consumer request) :
    s.Knows consumer ∧ ∀ m, request = some m → m < s.requests.length := by
  cases ha with
  | detached => exact ⟨nofun, nofun⟩
  | given hc hq => exact ⟨hc, hq⟩
  | answer hq =>
    refine ⟨(h.requests _ (List.mem_of_getElem? hq)).1, ?_⟩
    intro m hm
    cases hm
    exact (List.getElem?_eq_some_iff.mp hq).1

theorem mem_modify {α : Type} {l : List α} {n : Nat} {f : α → α} {a : α}
    (h : a ∈ l.modify n f) : a ∈ l ∨ ∃ b ∈ l, a = f b := by
  obtain ⟨i, hi⟩ := List.mem_iff_getElem?.mp h
  rw [List.getElem?_modify] at hi
  cases hl : l[i]? with
  | none => simp [hl] at hi
  | some b =>
    have hb : b ∈ l := List.mem_of_getElem? hl
    simp only [hl, Option.map_eq_map, Option.map_some, Option.some.injEq] at hi
    split at hi
    · exact .inr ⟨b, hb, hi.symm⟩
    · exact .inl (hi ▸ hb)

theorem Sound.change (h : s.Sound) (hc : Change s t) : t.Sound := by
  -- A change touches one list, so that of the invariant only the part about that list is new.
  cases hc with
  | none => exact h
  | consumer name config => exact h.withConsumers (by simp)
  | provider hp =>
    refine { h with providers := fun p hm => ?_ }
    rcases List.mem_append.mp hm with hm | hm
    · exact h.providers p hm
    · rw [List.mem_singleton.mp hm]
      exact hp
  | defaults n f =>
    refine { h with providers := fun p hm => ?_ }
    obtain hm | ⟨b, hb, rfl⟩ := mem_modify hm
    · exact h.providers p hm
    · exact h.providers b hb
  | states ho =>
    refine { h with states := fun e hm => ?_ }
    rcases List.mem_append.mp hm with hm | hm
    · exact h.states e hm
    · rw [List.mem_singleton.mp hm]
      exact h.knows_of_offers ho
  | state n state =>
    refine { h with states := fun e hm => ?_ }
    obtain hm | ⟨b, hb, rfl⟩ := mem_modify hm
    · exact h.states e hm
    · exact h.states b hb
  | request ho hd =>
    refine { h with requests := fun q hm => ?_, answered := fun r hr m hm => ?_ }
    · rcases List.mem_append.mp hm with hm | hm
      · exact h.requests q hm
      · rw [List.mem_singleton.mp hm]
        exact ⟨h.knows_of_offers ho, h.reachable_request hd⟩
    · have := h.answered r hr m hm
      rw [List.length_append]
      omega
  | requestDraft n hd =>
    refine { h with requests := fun q hm => ?_, answered := fun r hr m hm => ?_ }
    · obtain hm | ⟨b, hb, rfl⟩ := mem_modify hm
      · exact h.requests q hm
      · exact ⟨(h.requests b hb).1, h.reachable_request hd⟩
    · rw [List.length_modify]
      exact h.answered r hr m hm
  | response ha hd =>
    obtain ⟨hc, hq⟩ := h.known_of_attaches ha
    refine { h with responses := fun r hm => ?_, answered := fun r hm => ?_ }
    · rcases List.mem_append.mp hm with hm | hm
      · exact h.responses r hm
      · rw [List.mem_singleton.mp hm]
        exact ⟨hc, h.reachable_response hd⟩
    · rcases List.mem_append.mp hm with hm | hm
      · exact h.answered r hm
      · rw [List.mem_singleton.mp hm]
        exact hq
  | responseDraft n hd =>
    refine { h with responses := fun r hm => ?_, answered := fun r hm => ?_ }
    · obtain hm | ⟨b, hb, rfl⟩ := mem_modify hm
      · exact h.responses r hm
      · exact ⟨(h.responses b hb).1, h.reachable_response hd⟩
    · obtain hm | ⟨b, hb, rfl⟩ := mem_modify hm
      · exact h.answered r hm
      · exact h.answered b hb

theorem Sound.step (h : s.Sound) (op : Operation) : (s.step op).2.Sound :=
  (h.finishing op).change (change_step s op)

/-- Soundness lasts through any operations. -/
theorem Sound.after (h : s.Sound) (ops : List Operation) : (s.after ops).Sound := by
  induction ops generalizing s with
  | nil => exact h
  | cons op ops ih => exact ih (h.step op)

end HttpContract.Session
