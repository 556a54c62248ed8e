import HttpContract.Proofs.Session.Growth

/-!
Which provider an interaction is for. A provider is named when it is declared; states, requests and
responses are for the provider of what they were made from, and nothing that happens beside them
changes that. A consumer keeps all interactions completed with it in one list, whatever provider
they are for, and every contract of that consumer shows the whole list.
-/
namespace HttpContract.Session

open Editing

variable {α : Type} {s t : Session} {provider : Option String}

/-! ## What is declared -/

def requestProvider (s : Session) (m : Nat) : Option String :=
  s.requests[m]?.bind fun q => q.origin.providerName

/-- The provider that an entry is declared for; a response is for the provider of its request. -/
def declaredFor (s : Session) : Handle → Option String
  | .consumer _ => none
  | .provider n => s.providers[n]?.bind ProviderEntry.name
  | .states n => s.states[n]?.bind fun e => e.origin.providerName
  | .request n => s.requestProvider n
  | .response n => s.responses[n]?.bind fun r => r.request.bind s.requestProvider

theorem requestProvider_of_getElem? {m : Nat} {q : RequestEntry} (hq : s.requests[m]? = some q) :
    s.requestProvider m = q.origin.providerName := by
  rw [requestProvider, hq, Option.bind_some]

theorem declaredFor_response {n m : Nat} {r : ResponseEntry} (hr : s.responses[n]? = some r)
    (hm : r.request = some m) : s.declaredFor (.response n) = s.requestProvider m := by
  show (s.responses[n]?.bind fun r => r.request.bind s.requestProvider) = _
  rw [hr, Option.bind_some, hm, Option.bind_some]

section Lists

variable {β γ : Type} {f : β → γ} {g : β → β}

theorem bind_eq_join (f : β → Option γ) (l : List β) (n : Nat) :
    l[n]?.bind f = (l.map f)[n]?.join := by
  rw [List.getElem?_map]
  cases l[n]? <;> rfl

theorem map_modify_eq (h : ∀ b, f (g b) = f b) (l : List β) (n : Nat) :
    (l.modify n g).map f = l.map f := by
  refine List.ext_getElem? fun i => ?_
  rw [List.getElem?_map, List.getElem?_map, List.getElem?_modify]
  cases l[i]? with
  | none => rfl
  | some b =>
    by_cases hi : n = i <;> simp [hi, h]

theorem prefix_map_modify (h : ∀ b, f (g b) = f b) (l : List β) (n : Nat) :
    l.map f <+: (l.modify n g).map f := map_modify_eq h l n ▸ List.prefix_rfl

theorem prefix_map_append (f : β → γ) (l : List β) (b : β) : l.map f <+: (l ++ [b]).map f := by
  rw [List.map_append]
  exact List.prefix_append _ _

theorem modify_bind_eq {f : β → Option γ} (h : ∀ b, f (g b) = f b) (l : List β) (n i : Nat) :
    (l.modify n g)[i]?.bind f = l[i]?.bind f := by
  rw [bind_eq_join, bind_eq_join, map_modify_eq h]

end Lists

structure KeepsDeclared (s t : Session) : Prop where
  providers : s.providers.map ProviderEntry.name <+: t.providers.map ProviderEntry.name
  states : (s.states.map fun e => e.origin.providerName) <+:
    t.states.map fun e => e.origin.providerName
  requests : (s.requests.map fun q => q.origin.providerName) <+:
    t.requests.map fun q => q.origin.providerName
  responses : s.responses.map ResponseEntry.request <+: t.responses.map ResponseEntry.request

namespace KeepsDeclared

theorem refl (s : Session) : KeepsDeclared s s :=
  ⟨List.prefix_rfl, List.prefix_rfl, List.prefix_rfl, List.prefix_rfl⟩

theorem trans {u : Session} (h : KeepsDeclared s t) (h' : KeepsDeclared t u) : KeepsDeclared s u :=
  ⟨h.providers.trans h'.providers, h.states.trans h'.states, h.requests.trans h'.requests,
    h.responses.trans h'.responses⟩

theorem getElem?_bind {β γ : Type} {f : β → Option γ} {l m : List β} (h : l.map f <+: m.map f)
    {n : Nat} {c : γ} (hc : l[n]?.bind f = some c) : m[n]?.bind f = some c := by
  rw [bind_eq_join, Option.join_eq_some_iff] at hc ⊢
  obtain ⟨joined, hm⟩ := h
  rw [← hm, List.getElem?_append_left (List.getElem?_eq_some_iff.mp hc).1]
  exact hc

theorem declaredFor (h : KeepsDeclared s t) {x : Handle} {name : String}
    (hx : s.declaredFor x = some name) : t.declaredFor x = some name := by
  have hrequest {m : Nat} (hm : s.requestProvider m = some name) :
      t.requestProvider m = some name := getElem?_bind h.requests hm
  cases x with
  | consumer n => cases hx
  | provider n => exact getElem?_bind h.providers hx
  | states n => exact getElem?_bind h.states hx
  | request n => exact hrequest hx
  | response n =>
    obtain ⟨r, hr, hx⟩ := Option.bind_eq_some_iff.mp hx
    obtain ⟨m, hm, hx⟩ := Option.bind_eq_some_iff.mp hx
    have hbefore : s.responses[n]?.bind ResponseEntry.request = some m := by rw [hr, ← hm]; rfl
    obtain ⟨r', hr', hm'⟩ := Option.bind_eq_some_iff.mp (getElem?_bind h.responses hbefore)
    exact (declaredFor_response hr' hm').trans (hrequest hx)

end KeepsDeclared

theorem Change.keepsDeclared (h : Change s t) : KeepsDeclared s t := by
  have hs := KeepsDeclared.refl s
  cases h with
  | none => exact hs
  | consumer name config => exact { hs with }
  | provider h => exact { hs with providers := prefix_map_append _ _ _ }
  | defaults n f =>
    refine { hs with providers := prefix_map_modify ?_ _ _ }
    exact fun _ => rfl
  | states ho => exact { hs with states := prefix_map_append _ _ _ }
  | state n state =>
    refine { hs with states := prefix_map_modify ?_ _ _ }
    exact fun _ => rfl
  | request ho hd => exact { hs with requests := prefix_map_append _ _ _ }
  | requestDraft n hd =>
    refine { hs with requests := prefix_map_modify ?_ _ _ }
    exact fun _ => rfl
  | response ha hd => exact { hs with responses := prefix_map_append _ _ _ }
  | responseDraft n hd =>
    refine { hs with responses := prefix_map_modify ?_ _ _ }
    exact fun _ => rfl

theorem keepsDeclared_step (s : Session) (op : Operation) : KeepsDeclared s (s.step op).2 := by
  have hstored : KeepsDeclared s (s.finishing op) := by
    unfold finishing
    split
    · rename_i r _
      obtain ⟨c, m, q, -, -, -, -, hs⟩ | ⟨e, hs, -⟩ := perform_store r s
      · rw [hs]
        exact { KeepsDeclared.refl s with }
      · rw [hs]
        exact .refl s
    · exact .refl s
  exact hstored.trans (change_step s op).keepsDeclared

theorem keepsDeclared_after (s : Session) (ops : List Operation) :
    KeepsDeclared s (s.after ops) := by
  induction ops generalizing s with
  | nil => exact .refl s
  | cons op ops ih => exact (keepsDeclared_step s op).trans (ih (s.step op).2)

/-! ## What is made from what -/

def Operation.source? : Operation → Option Handle
  | useRequestDefaults n _ | useResponseDefaults n _ => some (.provider n)
  | newResponse _ request _ => request.map .request
  | given place _ _ | uponReceiving place _ => some place
  | editRequest n _ | editPath n _ | respond n => some (.request n)
  | editResponse n _ | finish n => some (.response n)
  | newConsumer _ _ | requestDefaults _ | responseDefaults _ | hasContractWith _ _ => none

/-- The provider for which an operation makes something: the one it names, or that of its source. -/
def providerOf (s : Session) : Operation → Option String
  | .hasContractWith _ provider => provider
  | op => op.source?.bind s.declaredFor

def MakesFor (provider : Option String) (x : Run Outcome) (s : Session) : Prop :=
  ∀ h, (perform x s).1 = .ok (.handle h) → (perform x s).2.declaredFor h = provider

theorem bind_makesFor {x : Run α} {f : α → Run Outcome} (hx : Reads x)
    (hf : ∀ a, (perform x s).1 = .ok a → MakesFor provider (f a) s) :
    MakesFor provider (x >>= f) s := by
  intro h hh
  rw [perform_bind, hx s] at hh ⊢
  cases ha : (perform x s).1 with
  | ok a =>
    rw [ha] at hh
    exact hf a ha h hh
  | error e =>
    rw [ha] at hh
    cases hh

theorem makesFor_addProvider (e : ProviderEntry) (s : Session) :
    MakesFor e.name (addProvider e) s := by
  rintro _ ⟨⟩
  show (s.providers ++ [e])[s.providers.length]?.bind ProviderEntry.name = e.name
  rw [List.getElem?_concat_length, Option.bind_some]

theorem makesFor_addStates (e : StatesEntry) (s : Session) :
    MakesFor e.origin.providerName (addStates e) s := by
  rintro _ ⟨⟩
  show ((s.states ++ [e])[s.states.length]?.bind fun e => e.origin.providerName) = _
  rw [List.getElem?_concat_length, Option.bind_some]

theorem makesFor_addRequest (e : RequestEntry) (s : Session) :
    MakesFor e.origin.providerName (addRequest e) s := by
  rintro _ ⟨⟩
  show ((s.requests ++ [e])[s.requests.length]?.bind fun q => q.origin.providerName) = _
  rw [List.getElem?_concat_length, Option.bind_some]

theorem makesFor_addResponse (e : ResponseEntry) (s : Session) :
    MakesFor (e.request.bind s.requestProvider) (addResponse e) s := by
  rintro _ ⟨⟩
  show ((s.responses ++ [e])[s.responses.length]?.bind fun r =>
    r.request.bind s.requestProvider) = _
  rw [List.getElem?_concat_length, Option.bind_some]

theorem makesFor_beginRequest (origin : Origin) (description : Option String)
    (states : List ProviderState) (s : Session) :
    MakesFor origin.providerName (beginRequest origin description states) s :=
  bind_makesFor (reads_configOf _) fun _ _ => bind_makesFor (reads_newRequestDraft _ _) fun _ _ =>
    makesFor_addRequest _ s

/-- What follows a response that is finished first is for the provider of its request. -/
theorem makesFor_afterStore {n : Nat} {f : ResponseEntry → Nat × RequestEntry → Run Outcome}
    (h : ∀ r c q t, MakesFor q.origin.providerName (f r (c, q)) t) :
    MakesFor (s.declaredFor (.response n))
      (do let r ← find responses n; let a ← store r; f r a) s := by
  refine bind_makesFor (reads_find _ _) fun r hr => ?_
  obtain ⟨c, m, q, -, hm, hq, -, hs⟩ | ⟨e, hs, -⟩ := perform_store r s
  · intro x hx
    rw [perform_bind, hs] at hx ⊢
    rw [declaredFor_response (getElem?_of_find hr) hm, requestProvider_of_getElem? hq]
    exact h r c q _ x hx
  · intro x hx
    rw [perform_bind, hs] at hx
    cases hx

theorem declaredFor_provider {n : Nat} {p : ProviderEntry} {origin : Origin}
    (hp : (perform (find providers n) s).1 = .ok p) (ho : (perform (originOf p) s).1 = .ok origin) :
    s.declaredFor (.provider n) = origin.providerName := by
  obtain ⟨c, -, hc⟩ := (reads_find consumers p.consumer).of_bind_ok ho
  cases hc
  show s.providers[n]?.bind ProviderEntry.name = p.name
  rw [getElem?_of_find hp, Option.bind_some]

theorem makesFor_given (place : Handle) (name : String) (parameters : Value) (s : Session) :
    MakesFor (s.declaredFor place) (Session.given place name parameters) s := by
  cases place with
  | provider n =>
    refine bind_makesFor (reads_find _ _) fun p hp => ?_
    refine bind_makesFor (reads_originOf p) fun origin ho => ?_
    refine bind_makesFor (reads_liftM _) fun state _ => ?_
    rw [declaredFor_provider hp ho]
    exact makesFor_addStates _ s
  | states n =>
    refine bind_makesFor (reads_find _ _) fun _ _ => ?_
    refine bind_makesFor (reads_liftM _) fun state _ => ?_
    rintro _ ⟨⟩
    refine modify_bind_eq ?_ s.states n n
    exact fun _ => rfl
  | response n =>
    refine makesFor_afterStore fun r c q t => ?_
    exact bind_makesFor (reads_liftM _) fun state _ => makesFor_addStates _ t
  | consumer n => rintro _ ⟨⟩
  | request n => rintro _ ⟨⟩

theorem makesFor_uponReceiving (place : Handle) (description : Option String) (s : Session) :
    MakesFor (s.declaredFor place) (Session.uponReceiving place description) s := by
  cases place with
  | provider n =>
    refine bind_makesFor (reads_find _ _) fun p hp => ?_
    refine bind_makesFor (reads_originOf p) fun origin ho => ?_
    rw [declaredFor_provider hp ho]
    exact makesFor_beginRequest origin description [] s
  | states n =>
    refine bind_makesFor (reads_find _ _) fun e he => ?_
    have hprovider : s.declaredFor (.states n) = e.origin.providerName := by
      show (s.states[n]?.bind fun e => e.origin.providerName) = _
      rw [getElem?_of_find he, Option.bind_some]
    rw [hprovider]
    exact makesFor_beginRequest e.origin description e.states s
  | response n =>
    refine makesFor_afterStore fun r c q t => ?_
    exact makesFor_addRequest _ t
  | consumer n => rintro _ ⟨⟩
  | request n => rintro _ ⟨⟩

theorem makesFor_setProvider (n : Nat) (f : Defaults → Defaults) (s : Session) :
    MakesFor (s.declaredFor (.provider n))
      (setProvider n fun p => { p with defaults := f p.defaults }) s := by
  refine bind_makesFor (reads_find _ _) fun _ _ => ?_
  rintro _ ⟨⟩
  refine modify_bind_eq ?_ s.providers n n
  exact fun _ => rfl

theorem makesFor_of_perform {x : Run Outcome} {answer : Result Unit} {h : Handle}
    (hx : perform x s = (answer.map fun _ => .handle h, t)) (ht : t.declaredFor h = provider) :
    MakesFor provider x s := by
  intro h' hh
  rw [hx] at hh ⊢
  cases answer with
  | error e => cases hh
  | ok a =>
    cases hh
    exact ht

theorem makesFor_editRequest (n : Nat) (edit : RequestEdit) (s : Session) :
    MakesFor (s.declaredFor (.request n)) (Session.editRequest n edit) s := by
  intro h hh
  cases hq : s.requests[n]? with
  | none =>
    rw [Session.editRequest, perform_bind, perform_find, hq] at hh
    cases hh
  | some q =>
    refine makesFor_of_perform (perform_editRequest hq edit) ?_ h hh
    refine modify_bind_eq ?_ s.requests n n
    exact fun _ => rfl

theorem makesFor_editPath (n : Nat) (edit : PathEdit) (s : Session) :
    MakesFor (s.declaredFor (.request n)) (Session.editPath n edit) s := by
  refine bind_makesFor (reads_find _ _) fun q hq => ?_
  split
  · rcases perform edit.run q.draft with ⟨answer, draft⟩
    cases answer with
    | error e => rintro _ ⟨⟩
    | ok a =>
      rintro _ ⟨⟩
      refine modify_bind_eq ?_ s.requests n n
      exact fun _ => rfl
  · have hprovider : s.declaredFor (.request n) = q.origin.providerName :=
      requestProvider_of_getElem? (getElem?_of_find hq)
    rw [hprovider]
    rcases perform edit.run (.ofRequest q.draft.part.config q.draft.build) with ⟨answer, draft⟩
    cases answer with
    | error e => rintro _ ⟨⟩
    | ok a => exact makesFor_addRequest { q with hasPath := true, draft := draft } s

theorem makesFor_respond (n : Nat) (s : Session) :
    MakesFor (s.declaredFor (.request n)) (Session.respond n) s := by
  refine bind_makesFor (reads_find _ _) fun q hq => ?_
  split
  · rintro _ ⟨⟩
  · refine bind_makesFor (reads_newResponseDraft _ _) fun draft _ => ?_
    exact makesFor_addResponse _ s

theorem makesFor_editResponse (n : Nat) (edit : ResponseEdit) (s : Session) :
    MakesFor (s.declaredFor (.response n)) (Session.editResponse n edit) s := by
  intro h hh
  cases hr : s.responses[n]? with
  | none =>
    rw [Session.editResponse, perform_bind, perform_find, hr] at hh
    cases hh
  | some r =>
    refine makesFor_of_perform (perform_editResponse hr edit) ?_ h hh
    refine modify_bind_eq ?_ s.responses n n
    exact fun _ => rfl

theorem makesFor_finish (n : Nat) (provider : Option String) (s : Session) :
    MakesFor provider (Session.finish n) s := by
  have hcontract : Answers (fun a => a.isHandle = false) (Session.finish n) :=
    answers_bind _ fun _ => answers_bind _ fun _ => answers_bind _ fun _ => answers_pure rfl
  intro h hh
  cases hcontract s _ hh

/-- What an operation makes is for the provider that it names, or for that of its source. -/
theorem makesFor_run (s : Session) (op : Operation) : MakesFor (s.providerOf op) op.run s := by
  cases op with
  | newConsumer name config =>
    rintro _ ⟨⟩
    rfl
  | requestDefaults config => exact makesFor_addRequest _ s
  | responseDefaults config => exact makesFor_addResponse _ s
  | newResponse consumer request defaults =>
    refine bind_makesFor (reads_present _ _) fun _ _ => ?_
    refine bind_makesFor (reads_present _ _) fun _ _ => ?_
    refine bind_makesFor (reads_configOf _) fun _ _ => ?_
    refine bind_makesFor (reads_newResponseDraft _ _) fun _ _ => ?_
    have hprovider : s.providerOf (.newResponse consumer request defaults) =
        request.bind s.requestProvider := by
      cases request <;> rfl
    rw [hprovider]
    exact makesFor_addResponse _ s
  | hasContractWith consumer provider =>
    exact bind_makesFor (reads_find _ _) fun _ _ => makesFor_addProvider _ s
  | useRequestDefaults provider request =>
    refine bind_makesFor (reads_present _ _) fun _ _ => ?_
    exact makesFor_setProvider provider (fun d => { d with request := request }) s
  | useResponseDefaults provider response =>
    refine bind_makesFor (reads_present _ _) fun _ _ => ?_
    exact makesFor_setProvider provider (fun d => { d with response := response }) s
  | given place name parameters => exact makesFor_given place name parameters s
  | uponReceiving place description => exact makesFor_uponReceiving place description s
  | editRequest request edit => exact makesFor_editRequest request edit s
  | editPath request edit => exact makesFor_editPath request edit s
  | respond request => exact makesFor_respond request s
  | editResponse response edit => exact makesFor_editResponse response edit s
  | finish response => exact makesFor_finish response _ s

/-! ## What is completed -/

structure Completion where
  consumer : Nat
  provider : Option String
  interaction : Interaction

def completed? (s : Session) (op : Operation) : Option Completion := do
  let r ← s.finished? op
  let c ← r.consumer
  let m ← r.request
  let q ← s.requests[m]?
  return ⟨c, s.requestProvider m, interactionOf q r⟩

def completions (c : Nat) (s : Session) : List Operation → List Completion
  | [] => []
  | op :: ops => ((s.completed? op).toList.filter fun e => e.consumer = c)
      ++ completions c (s.step op).2 ops

/-- What an operation completes is what it stores. -/
theorem interactions_of_completed (hs : s.Sound) (op : Operation) (c : Nat) :
    (s.step op).2.interactions c = s.interactions c ++
      ((s.completed? op).toList.filter fun e => e.consumer = c).map Completion.interaction := by
  have hnothing (h : s.completed? op = none)
      (hstep : (s.step op).2.interactions c = s.interactions c) :
      (s.step op).2.interactions c = s.interactions c ++
        ((s.completed? op).toList.filter fun e => e.consumer = c).map Completion.interaction := by
    rw [h, hstep]
    exact (List.append_nil _).symm
  cases hr : s.finished? op with
  | none => exact hnothing (by rw [completed?, hr]; rfl) (interactions_of_unfinished hr c)
  | some r =>
    cases hc : r.consumer with
    | none =>
      refine hnothing (by rw [completed?, hr]; simp [hc]) ?_
      rw [step_of_detached hs hr (.inl hc)]
    | some d =>
      cases hm : r.request with
      | none =>
        refine hnothing (by rw [completed?, hr]; simp [hc, hm]) ?_
        rw [step_of_detached hs hr (.inr hm)]
      | some m =>
        obtain ⟨q, hq, hd, hf⟩ := finishing_of_attached hs hr hc hm
        have hcompleted : s.completed? op = some ⟨d, s.requestProvider m, interactionOf q r⟩ := by
          simp [completed?, hr, hc, hm, hq]
        rw [interactions_step, hf, hcompleted]
        by_cases h : d = c
        · subst h
          simp [interactions_withInteraction hd]
        · simp [interactions_withInteraction_of_ne (Ne.symm h), h]

/-- The interactions of a consumer are what has been completed with it, for whatever provider. -/
theorem interactions_after (hs : s.Sound) (ops : List Operation) (c : Nat) :
    (s.after ops).interactions c =
      s.interactions c ++ (completions c s ops).map Completion.interaction := by
  induction ops generalizing s with
  | nil => exact (List.append_nil _).symm
  | cons op ops ih =>
    have hrest : ((s.step op).2.after ops).interactions c = _ := ih (hs.step op)
    rw [completions, List.map_append, ← List.append_assoc, ← interactions_of_completed hs]
    exact hrest

/-- A response that belongs to a consumer and to a request is finished by a contract with the
provider of that request. -/
theorem contract_of_attached (hs : s.Sound) {n : Nat} {r : ResponseEntry}
    (hr : s.responses[n]? = some r) {c m : Nat} (hc : r.consumer = some c)
    (hm : r.request = some m) :
    ∃ k, (s.step (.finish n)).1 = .ok (.contract k) ∧ k.provider = s.requestProvider m
      ∧ k.interactions = (s.step (.finish n)).2.interactions c := by
  have hmem : r ∈ s.responses := List.mem_of_getElem? hr
  have hstep : s.step (.finish n) = perform (Session.finish n) s := rfl
  obtain ⟨c', m', q, hc', hm', hq, hlt, he⟩ | ⟨e, he, hi⟩ := perform_store r s
  · cases hc.symm.trans hc'
    cases hm.symm.trans hm'
    have hfound : c < (s.withInteraction c (interactionOf q r)).consumers.length := by
      rw [length_withInteraction]
      exact hlt
    obtain ⟨entry, hentry⟩ : ∃ entry,
        (s.withInteraction c (interactionOf q r)).consumers[c]? = some entry :=
      ⟨_, List.getElem?_eq_getElem hfound⟩
    have hfinish : s.step (.finish n) = (.ok (.contract ⟨q.origin.consumerName,
        q.origin.providerName, entry.interactions,
        Contract.metadataOf entry.config.specification⟩),
        s.withInteraction c (interactionOf q r)) := by
      rw [hstep, Session.finish, perform_bind, perform_find, hr]
      dsimp only
      rw [perform_bind, he]
      dsimp only
      rw [perform_bind, perform_find, hentry]
      rfl
    rw [hfinish]
    refine ⟨_, rfl, (requestProvider_of_getElem? hq).symm, ?_⟩
    rw [interactions, hentry]
  · obtain ⟨-, hd⟩ := hi (hs.responses r hmem).1 (hs.answered r hmem)
    rw [hc, hm] at hd
    rcases hd with hd | hd <;> cases hd

/-! ## Every session -/

/-- In every session that operations have led to: what an operation makes is declared for the
provider that it names or goes on from, and stays so through all that follows. An attached response
is finished by a contract with the provider that it is declared for, which lists what has been
completed with its consumer, in order. These are the interactions declared for that provider exactly
if none was declared for another one. -/
theorem contract_lists_every_provider (before : List Operation) :
    let s := empty.after before
    (∀ op x, (s.step op).1 = .ok (.handle x) → (s.step op).2.declaredFor x = s.providerOf op)
    ∧ (∀ x name later, s.declaredFor x = some name → (s.after later).declaredFor x = some name)
    ∧ ∀ n r c m, s.responses[n]? = some r → r.consumer = some c → r.request = some m →
        ∃ k, (s.step (.finish n)).1 = .ok (.contract k)
          ∧ k.provider = s.declaredFor (.response n)
          ∧ let done := completions c empty (before ++ [.finish n])
            k.interactions = done.map Completion.interaction
            ∧ (k.interactions =
                (done.filter fun e => e.provider = k.provider).map Completion.interaction ↔
                  ∀ e ∈ done, e.provider = k.provider) := by
  intro s
  have hs : s.Sound := sound_empty.after before
  refine ⟨fun op x h => makesFor_run s op x h,
    fun x name later h => (keepsDeclared_after s later).declaredFor h,
    fun n r c m hr hc hm => ?_⟩
  obtain ⟨k, hk, hprovider, hlisted⟩ := contract_of_attached hs hr hc hm
  have hafter : empty.after (before ++ [.finish n]) = (s.step (.finish n)).2 :=
    List.foldl_append
  have hall : k.interactions =
      (completions c empty (before ++ [.finish n])).map Completion.interaction := by
    rw [hlisted, ← hafter, interactions_after sound_empty]
    rfl
  refine ⟨k, hk, hprovider.trans (declaredFor_response hr hm).symm, hall, ?_⟩
  rw [hall]
  constructor
  · intro h
    have hlength := congrArg List.length h
    rw [List.length_map, List.length_map] at hlength
    intro e he
    simpa using List.length_filter_eq_length_iff.mp hlength.symm e he
  · intro h
    rw [List.filter_eq_self.mpr fun e he => decide_eq_true (h e he)]

def openingBeside : List Operation :=
  opening ++ [.finish 0, .hasContractWith 0 (some "users"),
    .uponReceiving (.provider 1) (some "a user"), .editPath 2 (.path "/users/1"), .respond 3]

theorem contract_lists_every_provider_users :
    ∃ k, ((empty.after openingBeside).step (.finish 1)).1 = .ok (.contract k)
      ∧ k.provider = some "users" ∧ k.interactions.length = 2 := by
  obtain ⟨k, hk, hprovider, hall, -⟩ :=
    (contract_lists_every_provider openingBeside).2.2 1 _ 0 3 rfl rfl rfl
  refine ⟨k, hk, hprovider.trans rfl, ?_⟩
  rw [hall]
  rfl

/-- The contract with the second provider begins with an interaction of the first one. -/
theorem contract_lists_first_provider :
    let s := empty.after openingBeside
    let done := completions 0 empty (openingBeside ++ [.finish 1])
    ∃ k, (s.step (.finish 1)).1 = .ok (.contract k)
      ∧ s.declaredFor (.response 1) = some "users"
      ∧ done.map Completion.provider = [some "orders", some "users"]
      ∧ k.interactions.map Interaction.description = [some "an order", some "a user"]
      ∧ k.interactions ≠ (done.filter fun e => e.provider = some "users").map
          Completion.interaction := by
  refine ⟨_, rfl, rfl, rfl, rfl, fun h => ?_⟩
  exact absurd (congrArg List.length h) (by decide)

end HttpContract.Session
