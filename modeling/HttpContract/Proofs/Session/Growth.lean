import HttpContract.Proofs.Session.Sound

/-!
The finished interactions of a consumer grow at their end only: by the one interaction of each
response that is finished, as its request and it stand then.
-/
namespace HttpContract.Session

open Editing

variable {s t : Session} {op : Operation}

def interactions (s : Session) (consumer : Nat) : List Interaction :=
  match s.consumers[consumer]? with
  | some c => c.interactions
  | none => []

theorem interactions_withInteraction {c : Nat} (hc : c < s.consumers.length) (i : Interaction) :
    (s.withInteraction c i).interactions c = s.interactions c ++ [i] := by
  unfold interactions withInteraction
  rw [List.getElem?_modify_eq, List.getElem?_eq_getElem hc]
  rfl

theorem interactions_withInteraction_of_ne {c other : Nat} (h : other ≠ c) (i : Interaction) :
    (s.withInteraction c i).interactions other = s.interactions other := by
  unfold interactions withInteraction
  rw [List.getElem?_modify_ne _ _ h.symm]

theorem Change.interactions (h : Change s t) (c : Nat) : t.interactions c = s.interactions c := by
  cases h with
  | consumer name config =>
    unfold Session.interactions
    obtain hc | hc | hc := Nat.lt_trichotomy c s.consumers.length
    · rw [List.getElem?_append_left hc]
    · simp [hc]
    · rw [List.getElem?_eq_none (by simp; omega), List.getElem?_eq_none (by omega)]
  | _ => rfl

theorem interactions_step (s : Session) (op : Operation) (c : Nat) :
    (s.step op).2.interactions c = (s.finishing op).interactions c :=
  (change_step s op).interactions c

theorem interactions_of_unfinished (h : s.finished? op = none) (c : Nat) :
    (s.step op).2.interactions c = s.interactions c := by
  rw [interactions_step, finishing, h]

/-- What is stored stays, and stays where it is. -/
theorem interactions_grow_step (s : Session) (op : Operation) (c : Nat) :
    s.interactions c <+: (s.step op).2.interactions c := by
  rw [interactions_step, finishing]
  split
  · rename_i r _
    obtain ⟨d, m, q, -, -, -, hd, hs⟩ | ⟨e, hs, -⟩ := perform_store r s
    · rw [hs]
      by_cases h : c = d
      · rw [h, interactions_withInteraction hd]
        exact List.prefix_append _ _
      · simp only [interactions_withInteraction_of_ne h, List.prefix_rfl]
    · simp only [hs, List.prefix_rfl]
  · exact List.prefix_rfl

theorem interactions_grow_after (s : Session) (ops : List Operation) (c : Nat) :
    s.interactions c <+: (s.after ops).interactions c := by
  induction ops generalizing s with
  | nil => exact List.prefix_rfl
  | cons op ops ih => exact (interactions_grow_step s op c).trans (ih (s.step op).2)

/-- What finishes a response stores it before anything else. -/
theorem run_of_finished {n : Nat} (h : op.finished? = some n) :
    ∃ f : ResponseEntry → Nat × RequestEntry → Run Outcome,
      op.run = find responses n >>= fun r => store r >>= f r := by
  cases op with
  | given place name parameters =>
    cases place with
    | response m =>
      cases h
      exact ⟨_, rfl⟩
    | _ => cases h
  | uponReceiving place description =>
    cases place with
    | response m =>
      cases h
      exact ⟨_, rfl⟩
    | _ => cases h
  | finish m =>
    cases h
    exact ⟨_, rfl⟩
  | _ => cases h

theorem step_of_unstored {r : ResponseEntry} (h : s.finished? op = some r) {e : Error}
    (hs : perform (store r) s = (.error e, s)) : s.step op = (.error e, s) := by
  obtain ⟨n, hn, hr⟩ := Option.bind_eq_some_iff.mp h
  obtain ⟨f, hf⟩ := run_of_finished hn
  rw [step, hf, perform_bind, perform_find, hr]
  dsimp only
  rw [perform_bind, hs]

/-! ## Contracts -/

def Outcome.isHandle : Outcome → Bool
  | .handle _ => true
  | .contract _ => false

abbrev GivesHandle (x : Run Outcome) : Prop := Answers (fun a => a.isHandle = true) x

theorem givesHandle_addRequest (e : RequestEntry) : GivesHandle (addRequest e) :=
  answers_bind _ fun _ => answers_bind _ fun _ => answers_pure rfl

theorem givesHandle_addStates (e : StatesEntry) : GivesHandle (addStates e) :=
  answers_bind _ fun _ => answers_bind _ fun _ => answers_pure rfl

theorem givesHandle_addResponse (e : ResponseEntry) : GivesHandle (addResponse e) :=
  answers_bind _ fun _ => answers_bind _ fun _ => answers_pure rfl

theorem givesHandle_setProvider (n : Nat) (f : ProviderEntry → ProviderEntry) :
    GivesHandle (setProvider n f) :=
  answers_bind _ fun _ => answers_bind _ fun _ => answers_pure rfl

theorem givesHandle_beginRequest (origin : Origin) (description : Option String)
    (states : List ProviderState) : GivesHandle (beginRequest origin description states) :=
  answers_bind _ fun _ => answers_bind _ fun _ => givesHandle_addRequest _

theorem givesHandle_given (place : Handle) (name : String) (parameters : Value) :
    GivesHandle (Session.given place name parameters) := by
  cases place with
  | provider n =>
    exact answers_bind _ fun _ => answers_bind _ fun _ => answers_bind _ fun _ =>
      givesHandle_addStates _
  | states n =>
    exact answers_bind _ fun _ => answers_bind _ fun _ => answers_bind _ fun _ => answers_pure rfl
  | response n =>
    exact answers_bind _ fun _ => answers_bind _ fun _ => answers_bind _ fun _ =>
      givesHandle_addStates _
  | _ => exact answers_throw _

theorem givesHandle_uponReceiving (place : Handle) (description : Option String) :
    GivesHandle (Session.uponReceiving place description) := by
  cases place with
  | provider n => exact answers_bind _ fun _ => answers_bind _ fun _ => givesHandle_beginRequest _ _ _
  | states n => exact answers_bind _ fun _ => givesHandle_beginRequest _ _ _
  | response n => exact answers_bind _ fun _ => answers_bind _ fun _ => givesHandle_addRequest _
  | _ => exact answers_throw _

theorem givesHandle_editPath (n : Nat) (edit : PathEdit) :
    GivesHandle (Session.editPath n edit) := by
  refine answers_bind _ fun q => ?_
  split
  · exact answers_bind _ fun _ => answers_bind _ fun _ => answers_pure rfl
  · exact answers_bind _ fun _ => givesHandle_addRequest _

theorem givesHandle_respond (n : Nat) : GivesHandle (Session.respond n) := by
  refine answers_bind _ fun q => ?_
  split
  · exact answers_bind _ fun _ => answers_bind _ fun _ => givesHandle_addResponse _
  · exact answers_bind _ fun _ => givesHandle_addResponse _

theorem givesHandle_run (h : ∀ n, op ≠ .finish n) : GivesHandle op.run := by
  cases op with
  | newConsumer name config =>
    exact answers_bind _ fun _ => answers_bind _ fun _ => answers_pure rfl
  | requestDefaults config => exact givesHandle_addRequest _
  | responseDefaults config => exact givesHandle_addResponse _
  | newResponse consumer request defaults =>
    exact answers_bind _ fun _ => answers_bind _ fun _ => answers_bind _ fun _ =>
      answers_bind _ fun _ => givesHandle_addResponse _
  | hasContractWith consumer provider =>
    exact answers_bind _ fun _ => answers_bind _ fun _ => answers_bind _ fun _ => answers_pure rfl
  | useRequestDefaults provider request => exact answers_bind _ fun _ => givesHandle_setProvider _ _
  | useResponseDefaults provider response =>
    exact answers_bind _ fun _ => givesHandle_setProvider _ _
  | given place name parameters => exact givesHandle_given place name parameters
  | uponReceiving place description => exact givesHandle_uponReceiving place description
  | editRequest request edit =>
    exact answers_bind _ fun _ => answers_bind _ fun _ => answers_bind _ fun _ => answers_pure rfl
  | editPath request edit => exact givesHandle_editPath request edit
  | respond request => exact givesHandle_respond request
  | editResponse response edit =>
    exact answers_bind _ fun _ => answers_bind _ fun _ => answers_bind _ fun _ => answers_pure rfl
  | finish n => exact absurd rfl (h n)

/-- A finished contract has all the interactions that its consumer has then, and tells the version
that the consumer follows. -/
theorem exists_consumer_of_finish {n : Nat} {k : Contract}
    (h : (s.step (.finish n)).1 = .ok (.contract k)) :
    ∃ r c entry, s.responses[n]? = some r ∧ r.consumer = some c
      ∧ (s.step (.finish n)).2.consumers[c]? = some entry ∧ k.interactions = entry.interactions
      ∧ k.metadata = Contract.metadataOf entry.config.specification := by
  have hstep : s.step (.finish n) = perform (Session.finish n) s := rfl
  rw [hstep, Session.finish, perform_bind, perform_find] at h ⊢
  cases hr : s.responses[n]? with
  | none =>
    rw [hr] at h
    cases h
  | some r =>
    rw [hr] at h
    dsimp only at h ⊢
    rw [perform_bind] at h ⊢
    obtain ⟨c, m, q, hc, -, -, -, hs⟩ | ⟨e, hs, -⟩ := perform_store r s
    · rw [hs] at h ⊢
      dsimp only at h ⊢
      rw [perform_bind, perform_find] at h ⊢
      cases he : (s.withInteraction c (interactionOf q r)).consumers[c]? with
      | none =>
        rw [he] at h
        cases h
      | some entry =>
        rw [he] at h
        cases h
        exact ⟨r, c, entry, rfl, hc, he, rfl, rfl⟩
    · rw [hs] at h
      cases h

theorem contract_of_finish {n : Nat} {k : Contract}
    (h : (s.step (.finish n)).1 = .ok (.contract k)) :
    ∃ r c, s.responses[n]? = some r ∧ r.consumer = some c ∧
      k.interactions = (s.step (.finish n)).2.interactions c := by
  obtain ⟨r, c, entry, hr, hc, he, hi, -⟩ := exists_consumer_of_finish h
  exact ⟨r, c, hr, hc, by rw [interactions, he, hi]⟩

/-- Only what finishes a response gives a contract. -/
theorem interactions_of_contract {k : Contract} (h : (s.step op).1 = .ok (.contract k)) :
    ∃ r c, s.finished? op = some r ∧ r.consumer = some c ∧
      k.interactions = (s.step op).2.interactions c := by
  by_cases hop : ∃ n, op = .finish n
  · obtain ⟨n, rfl⟩ := hop
    exact contract_of_finish h
  · have := givesHandle_run (fun n hn => hop ⟨n, hn⟩) s _ h
    cases this

/-! ## Every session -/

theorem mem_of_finished {r : ResponseEntry} (h : s.finished? op = some r) : r ∈ s.responses := by
  obtain ⟨n, -, hn⟩ := Option.bind_eq_some_iff.mp h
  exact List.mem_of_getElem? hn

theorem step_of_detached (hs : s.Sound) {r : ResponseEntry} (hr : s.finished? op = some r)
    (hd : r.consumer = none ∨ r.request = none) : s.step op = (.error .detachedDefaults, s) := by
  have hm : r ∈ s.responses := mem_of_finished hr
  obtain ⟨c, m, q, hc, hq, -⟩ | ⟨e, he, hi⟩ := perform_store r s
  · rcases hd with hd | hd
    · rw [hd] at hc
      cases hc
    · rw [hd] at hq
      cases hq
  · obtain ⟨rfl, -⟩ := hi (hs.responses r hm).1 (hs.answered r hm)
    exact step_of_unstored hr he

/-- The request and the consumer of an attached response are there, so that it is stored. -/
theorem finishing_of_attached (hs : s.Sound) {r : ResponseEntry}
    (hr : s.finished? op = some r) {c m : Nat} (hc : r.consumer = some c)
    (hm : r.request = some m) :
    ∃ q, s.requests[m]? = some q ∧ c < s.consumers.length
      ∧ s.finishing op = s.withInteraction c (interactionOf q r) := by
  have hmem : r ∈ s.responses := mem_of_finished hr
  obtain ⟨c', m', q, hc', hm', hq, hlt, he⟩ | ⟨e, he, hi⟩ := perform_store r s
  · cases hc.symm.trans hc'
    cases hm.symm.trans hm'
    refine ⟨q, hq, hlt, ?_⟩
    rw [finishing, hr]
    dsimp only
    rw [he]
  · obtain ⟨-, hd⟩ := hi (hs.responses r hmem).1 (hs.answered r hmem)
    rw [hc, hm] at hd
    rcases hd with hd | hd <;> cases hd

/-- For every session that operations have led to, and every operation: the interactions of each
consumer change only when a response is finished that belongs to a consumer and a request; then the
one interaction that request and response make as they stand comes to the end. A detached response
cannot be finished, and what is stored or given out as a contract stays through all that follows. -/
theorem interactions_only_grow (before : List Operation) (op : Operation) :
    let s := empty.after before
    let t := (s.step op).2
    (∀ c, s.finished? op = none → t.interactions c = s.interactions c)
    ∧ (∀ r, s.finished? op = some r → r.consumer = none ∨ r.request = none →
        s.step op = (.error .detachedDefaults, s))
    ∧ (∀ r c m, s.finished? op = some r → r.consumer = some c → r.request = some m →
        ∃ q, s.requests[m]? = some q
          ∧ t.interactions c =
            s.interactions c ++ [⟨q.description, q.states, q.draft.build, r.draft.build⟩]
          ∧ ∀ other, other ≠ c → t.interactions other = s.interactions other)
    ∧ (∀ c later, t.interactions c <+: (t.after later).interactions c)
    ∧ (∀ k, (s.step op).1 = .ok (.contract k) → ∃ r c, s.finished? op = some r
        ∧ r.consumer = some c ∧ k.interactions = t.interactions c
        ∧ ∀ later, k.interactions <+: (t.after later).interactions c) := by
  intro s t
  have hs : s.Sound := sound_empty.after before
  refine ⟨fun c h => interactions_of_unfinished h c, fun r => step_of_detached hs, ?_,
    fun c later => interactions_grow_after t later c, ?_⟩
  · intro r c m hr hc hm
    obtain ⟨q, hq, hlt, hf⟩ := finishing_of_attached hs hr hc hm
    have ht (d : Nat) : t.interactions d =
        (s.withInteraction c (interactionOf q r)).interactions d := by
      rw [interactions_step, hf]
    refine ⟨q, hq, ?_, fun other h => ?_⟩
    · rw [ht, interactions_withInteraction hlt]
      rfl
    · rw [ht, interactions_withInteraction_of_ne h]
  · intro k hk
    obtain ⟨r, c, hr, hc, hi⟩ := interactions_of_contract hk
    exact ⟨r, c, hr, hc, hi, fun later => hi ▸ interactions_grow_after t later c⟩

/-- The first interaction of a consumer comes with the contract and stays. A response by itself finishes
nothing. -/
theorem interactions_only_grow_order :
    let s := empty.after opening
    let t := (s.step (.finish 0)).2
    let alone := empty.after [.responseDefaults .standard]
    (∃ k i, (s.step (.finish 0)).1 = .ok (.contract k) ∧ i.description = some "an order"
      ∧ t.interactions 0 = [i] ∧ k.interactions = [i] ∧ (t.step (.respond 1)).2.interactions 0 = [i]
      ∧ ∀ later, [i] <+: (t.after later).interactions 0)
    ∧ alone.step (.finish 0) = (.error .detachedDefaults, alone) := by
  intro s t alone
  obtain ⟨-, -, hmade, hstays, hcontract⟩ := interactions_only_grow opening (.finish 0)
  obtain ⟨k, hk⟩ : ∃ k, (s.step (.finish 0)).1 = .ok (.contract k) := ⟨_, rfl⟩
  obtain ⟨q, hq, hgrown, -⟩ := hmade _ 0 1 rfl rfl rfl
  obtain ⟨r, c, hr, hc, hsame, -⟩ := hcontract k hk
  cases hr
  cases hc
  cases hq
  have ht : t.interactions 0 = [_] := hgrown
  have hunfinished := (interactions_only_grow (opening ++ [.finish 0]) (.respond 1)).1 0 rfl
  refine ⟨⟨k, _, hk, ?_, ht, hsame.trans ht, hunfinished.trans ht, fun later => ht ▸ hstays 0 later⟩,
    ?_⟩
  · rfl
  · exact (interactions_only_grow [.responseDefaults .standard] (.finish 0)).2.1 _ rfl (.inl rfl)

end HttpContract.Session
