import HttpContract.Proofs.Editing
import HttpContract.Session

/-!
What one operation can do to a session. All that is looked up is looked up before anything changes;
then a response may be finished, and one entry is added or changed. What is added is made from what
is there.
-/
namespace HttpContract.Session

open Editing

variable {α : Type} {s t : Session}

/-! ## Looking up -/

theorem perform_find (entries : Session → List α) (n : Nat) (s : Session) :
    perform (find entries n) s = match (entries s)[n]? with
      | some a => (.ok a, s)
      | none => (.error .unknownHandle, s) := by
  unfold find
  rw [perform_bind, perform_get]
  dsimp only
  cases (entries s)[n]? with
  | none => rfl
  | some a => rfl

theorem reads_find (entries : Session → List α) (n : Nat) : Reads (find entries n) := by
  intro s
  rw [perform_find]
  cases (entries s)[n]? with
  | none => rfl
  | some a => rfl

theorem getElem?_of_find {entries : Session → List α} {n : Nat} {a : α}
    (h : (perform (find entries n) s).1 = .ok a) : (entries s)[n]? = some a := by
  rw [perform_find] at h
  cases he : (entries s)[n]? with
  | none =>
    rw [he] at h
    cases h
  | some b =>
    rw [he] at h
    cases h
    rfl

theorem reads_present (entries : Session → List α) (n : Option Nat) : Reads (present entries n) := by
  cases n with
  | none => exact reads_pure _
  | some n => exact (reads_find entries n).bind fun _ => reads_pure _

theorem lt_of_present {entries : Session → List α} {n : Option Nat}
    (h : (perform (present entries n) s).1 = .ok ()) : ∀ m, n = some m → m < (entries s).length := by
  rintro m rfl
  obtain ⟨a, ha, -⟩ := (reads_find entries m).of_bind_ok h
  exact (List.getElem?_eq_some_iff.mp (getElem?_of_find ha)).1

theorem reads_newRequestDraft (config : Config) (default : Option Nat) :
    Reads (newRequestDraft config default) := by
  cases default with
  | none => exact reads_pure _
  | some n => exact (reads_find _ _).bind fun _ => reads_pure _

theorem reads_newResponseDraft (config : Config) (default : Option Nat) :
    Reads (newResponseDraft config default) := by
  cases default with
  | none => exact reads_pure _
  | some n => exact (reads_find _ _).bind fun _ => reads_pure _

theorem reads_configOf (consumer : Option Nat) : Reads (configOf consumer) := by
  cases consumer with
  | none => exact reads_pure _
  | some n => exact (reads_find _ _).bind fun _ => reads_pure _

theorem reads_originOf (p : ProviderEntry) : Reads (originOf p) :=
  (reads_find _ _).bind fun _ => reads_pure _

/-! ## What new entries are made from -/

inductive Offers (s : Session) : Origin → Prop
  | detached : Offers s ⟨none, none, none, none, none⟩
  | provider {p : ProviderEntry} {c : ConsumerEntry} (hc : s.consumers[p.consumer]? = some c) :
      Offers s ⟨some p.consumer, c.name, p.name, p.defaults⟩
  | states {e : StatesEntry} (he : e ∈ s.states) : Offers s e.origin
  | previous {r : ResponseEntry} {q : RequestEntry} {n : Nat} (hr : r ∈ s.responses)
      (hq : q ∈ s.requests) (hn : r.consumer = some n) :
      Offers s ⟨some n, q.origin.consumerName, q.origin.providerName, r.defaults⟩
  | request {q : RequestEntry} (hq : q ∈ s.requests) : Offers s q.origin

inductive DraftsRequest (s : Session) : RequestDraft → Prop
  | fresh (c : Config) : DraftsRequest s (.ofConfig c)
  | own {q : RequestEntry} (hq : q ∈ s.requests) : DraftsRequest s q.draft
  | copy (c : Config) {d : RequestDraft} (h : DraftsRequest s d) :
      DraftsRequest s (.ofRequest c d.build)
  | edit (e : RequestEdit) {d : RequestDraft} (h : DraftsRequest s d) :
      DraftsRequest s (perform e.run d).2
  | editPath (e : PathEdit) {d : RequestDraft} (h : DraftsRequest s d) :
      DraftsRequest s (perform e.run d).2

inductive DraftsResponse (s : Session) : ResponseDraft → Prop
  | fresh (c : Config) : DraftsResponse s (.ofConfig c)
  | own {r : ResponseEntry} (hr : r ∈ s.responses) : DraftsResponse s r.draft
  | copy (c : Config) {d : ResponseDraft} (h : DraftsResponse s d) :
      DraftsResponse s (.ofResponse c d.build)
  | edit (e : ResponseEdit) {d : ResponseDraft} (h : DraftsResponse s d) :
      DraftsResponse s (perform e.run d).2

def Knows (s : Session) (consumer : Option Nat) : Prop :=
  ∀ n, consumer = some n → n < s.consumers.length

inductive Attaches (s : Session) : Option Nat → Option Nat → Prop
  | detached : Attaches s none none
  | given {consumer request : Option Nat} (hc : s.Knows consumer)
      (hq : ∀ m, request = some m → m < s.requests.length) : Attaches s consumer request
  | answer {m : Nat} {q : RequestEntry} (hq : s.requests[m]? = some q) :
      Attaches s q.origin.consumer (some m)

theorem draftsRequest_of_new {config : Config} {default : Option Nat} {d : RequestDraft}
    (h : (perform (newRequestDraft config default) s).1 = .ok d) : s.DraftsRequest d := by
  cases default with
  | none =>
    cases h
    exact .fresh config
  | some n =>
    obtain ⟨q, hq, hd⟩ := (reads_find requests n).of_bind_ok h
    cases hd
    exact .copy config (.own (List.mem_of_getElem? (getElem?_of_find hq)))

theorem draftsResponse_of_new {config : Config} {default : Option Nat} {d : ResponseDraft}
    (h : (perform (newResponseDraft config default) s).1 = .ok d) : s.DraftsResponse d := by
  cases default with
  | none =>
    cases h
    exact .fresh config
  | some n =>
    obtain ⟨r, hr, hd⟩ := (reads_find responses n).of_bind_ok h
    cases hd
    exact .copy config (.own (List.mem_of_getElem? (getElem?_of_find hr)))

theorem knows_of_configOf {consumer : Option Nat} {config : Config}
    (h : (perform (configOf consumer) s).1 = .ok config) : s.Knows consumer := by
  rintro n rfl
  obtain ⟨c, hc, -⟩ := (reads_find consumers n).of_bind_ok h
  exact (List.getElem?_eq_some_iff.mp (getElem?_of_find hc)).1

theorem offers_of_originOf {p : ProviderEntry} {o : Origin}
    (h : (perform (originOf p) s).1 = .ok o) : s.Offers o := by
  obtain ⟨c, hc, ho⟩ := (reads_find consumers p.consumer).of_bind_ok h
  cases ho
  exact .provider (getElem?_of_find hc)

/-! ## Finishing interactions -/

def Operation.finished? : Operation → Option Nat
  | finish n | given (.response n) _ _ | uponReceiving (.response n) _ => some n
  | _ => none

def finished? (s : Session) (op : Operation) : Option ResponseEntry :=
  op.finished?.bind fun n => s.responses[n]?

def finishing (s : Session) (op : Operation) : Session :=
  match s.finished? op with
  | some r => (perform (store r) s).2
  | none => s

/-- A response is stored if it belongs to a request and to a consumer that are there. -/
theorem perform_store (r : ResponseEntry) (s : Session) :
    (∃ c m q, r.consumer = some c ∧ r.request = some m ∧ s.requests[m]? = some q
      ∧ c < s.consumers.length
      ∧ perform (store r) s = (.ok (c, q), s.withInteraction c (interactionOf q r)))
    ∨ (∃ e, perform (store r) s = (.error e, s)
      ∧ (s.Knows r.consumer → (∀ m, r.request = some m → m < s.requests.length) →
        e = .detachedDefaults ∧ (r.consumer = none ∨ r.request = none))) := by
  unfold store attachment
  cases hc : r.consumer with
  | none => exact .inr ⟨_, rfl, fun _ _ => ⟨rfl, .inl rfl⟩⟩
  | some c =>
    cases hm : r.request with
    | none => exact .inr ⟨_, rfl, fun _ _ => ⟨rfl, .inr rfl⟩⟩
    | some m =>
      -- Attached, it can only fail where its request or its consumer is not there.
      simp only [perform_bind, perform_find, bind_assoc, perform_pure, perform_modify]
      cases hq : s.requests[m]? with
      | none =>
        refine .inr ⟨_, rfl, fun _ h => ?_⟩
        have : s.requests.length ≤ m := List.getElem?_eq_none_iff.mp hq
        exact absurd (h m rfl) (Nat.not_lt.mpr this)
      | some q =>
        cases he : s.consumers[c]? with
        | none =>
          refine .inr ⟨_, rfl, fun h _ => ?_⟩
          have : s.consumers.length ≤ c := List.getElem?_eq_none_iff.mp he
          exact absurd (h c rfl) (Nat.not_lt.mpr this)
        | some entry =>
          have hlt : c < s.consumers.length := (List.getElem?_eq_some_iff.mp he).1
          exact .inl ⟨c, m, q, rfl, rfl, hq, hlt, rfl⟩

/-! ## Editing drafts -/

theorem perform_editRequest {n : Nat} {q : RequestEntry} (hq : s.requests[n]? = some q)
    (edit : RequestEdit) :
    perform (editRequest n edit) s =
      ((perform edit.run q.draft).1.map fun _ => .handle (.request n),
        { s with requests := s.requests.modify n fun q' =>
            { q' with draft := (perform edit.run q.draft).2 } }) := by
  rw [editRequest, perform_bind, perform_find, hq]
  dsimp only
  cases (perform edit.run q.draft).1 with
  | ok a => rfl
  | error e => rfl

theorem perform_editResponse {n : Nat} {r : ResponseEntry} (hr : s.responses[n]? = some r)
    (edit : ResponseEdit) :
    perform (editResponse n edit) s =
      ((perform edit.run r.draft).1.map fun _ => .handle (.response n),
        { s with responses := s.responses.modify n fun r' =>
            { r' with draft := (perform edit.run r.draft).2 } }) := by
  rw [editResponse, perform_bind, perform_find, hr]
  dsimp only
  cases (perform edit.run r.draft).1 with
  | ok a => rfl
  | error e => rfl

/-! ## The changes -/

inductive Change (s : Session) : Session → Prop
  | none : Change s s
  | consumer (name : Option String) (config : Config) :
      Change s { s with consumers := s.consumers ++ [⟨name, config, []⟩] }
  | provider {e : ProviderEntry} (h : e.consumer < s.consumers.length) :
      Change s { s with providers := s.providers ++ [e] }
  | defaults (n : Nat) (f : Defaults → Defaults) :
      Change s { s with
        providers := s.providers.modify n fun p => { p with defaults := f p.defaults } }
  | states {e : StatesEntry} (ho : s.Offers e.origin) :
      Change s { s with states := s.states ++ [e] }
  | state (n : Nat) (state : ProviderState) :
      Change s { s with
        states := s.states.modify n fun e => { e with states := e.states ++ [state] } }
  | request {e : RequestEntry} (ho : s.Offers e.origin) (hd : s.DraftsRequest e.draft) :
      Change s { s with requests := s.requests ++ [e] }
  | requestDraft (n : Nat) {d : RequestDraft} (hd : s.DraftsRequest d) :
      Change s { s with requests := s.requests.modify n fun q => { q with draft := d } }
  | response {e : ResponseEntry} (ha : s.Attaches e.consumer e.request)
      (hd : s.DraftsResponse e.draft) : Change s { s with responses := s.responses ++ [e] }
  | responseDraft (n : Nat) {d : ResponseDraft} (hd : s.DraftsResponse d) :
      Change s { s with responses := s.responses.modify n fun r => { r with draft := d } }

theorem change_beginRequest {origin : Origin} (ho : s.Offers origin) (description : Option String)
    (states : List ProviderState) :
    Change s (perform (beginRequest origin description states) s).2 := by
  refine (reads_configOf _).bind_relates .none fun config _ => ?_
  refine (reads_newRequestDraft _ _).bind_relates .none fun draft hd => ?_
  exact .request ho (draftsRequest_of_new hd)

theorem change_setProvider (n : Nat) (f : Defaults → Defaults) :
    Change s (perform (setProvider n fun p => { p with defaults := f p.defaults }) s).2 :=
  (reads_find _ _).bind_relates .none fun _ _ => .defaults n f

theorem change_editRequest (n : Nat) (edit : RequestEdit) :
    Change s (perform (editRequest n edit) s).2 := by
  cases hq : s.requests[n]? with
  | none =>
    rw [editRequest, perform_bind, perform_find, hq]
    exact .none
  | some q =>
    rw [perform_editRequest hq]
    exact .requestDraft n (.edit edit (.own (List.mem_of_getElem? hq)))

theorem change_editPath (n : Nat) (edit : PathEdit) :
    Change s (perform (editPath n edit) s).2 := by
  refine (reads_find _ _).bind_relates .none fun q hq => ?_
  have hq : q ∈ s.requests := List.mem_of_getElem? (getElem?_of_find hq)
  split
  · have hd : s.DraftsRequest (perform edit.run q.draft).2 := .editPath edit (.own hq)
    rcases hp : perform edit.run q.draft with ⟨answer, draft⟩
    rw [hp] at hd
    cases answer with
    | ok _ => exact .requestDraft n hd
    | error _ => exact .requestDraft n hd
  · have hd := DraftsRequest.editPath edit (.copy q.draft.part.config (.own hq))
    rcases hp : perform edit.run (.ofRequest q.draft.part.config q.draft.build) with
      ⟨answer, draft⟩
    rw [hp] at hd
    cases answer with
    | ok _ =>
      have ho : s.Offers q.origin := .request hq
      exact .request ho hd
    | error _ => exact .none

theorem change_respond (n : Nat) : Change s (perform (respond n) s).2 := by
  refine (reads_find _ _).bind_relates .none fun q hq => ?_
  split
  · exact .none
  · refine (reads_newResponseDraft _ _).bind_relates .none fun draft hd => ?_
    exact .response (.answer (getElem?_of_find hq)) (draftsResponse_of_new hd)

theorem change_editResponse (n : Nat) (edit : ResponseEdit) :
    Change s (perform (editResponse n edit) s).2 := by
  cases hr : s.responses[n]? with
  | none =>
    rw [editResponse, perform_bind, perform_find, hr]
    exact .none
  | some r =>
    rw [perform_editResponse hr]
    exact .responseDraft n (.edit edit (.own (List.mem_of_getElem? hr)))

theorem change_newResponse (consumer request : Option Nat) (defaults : Defaults) :
    Change s (s.step (.newResponse consumer request defaults)).2 := by
  refine (reads_present _ _).bind_relates .none fun _ hm => ?_
  refine (reads_present _ _).bind_relates .none fun _ _ => ?_
  refine (reads_configOf _).bind_relates .none fun config hc => ?_
  refine (reads_newResponseDraft _ _).bind_relates .none fun draft hd => ?_
  exact .response (.given (knows_of_configOf hc) (lt_of_present hm)) (draftsResponse_of_new hd)

theorem change_given_provider (n : Nat) (name : String) (parameters : Value) :
    Change s (perform (Session.given (.provider n) name parameters) s).2 := by
  refine (reads_find _ _).bind_relates .none fun p _ => ?_
  refine (reads_originOf _).bind_relates .none fun origin ho => ?_
  refine (reads_liftM _).bind_relates .none fun state _ => ?_
  exact .states (offers_of_originOf ho)

theorem change_given_states (n : Nat) (name : String) (parameters : Value) :
    Change s (perform (Session.given (.states n) name parameters) s).2 := by
  refine (reads_find _ _).bind_relates .none fun _ _ => ?_
  refine (reads_liftM _).bind_relates .none fun state _ => ?_
  exact .state n state

theorem change_uponReceiving_provider (n : Nat) (description : Option String) :
    Change s (perform (Session.uponReceiving (.provider n) description) s).2 := by
  refine (reads_find _ _).bind_relates .none fun p _ => ?_
  refine (reads_originOf _).bind_relates .none fun origin ho => ?_
  exact change_beginRequest (offers_of_originOf ho) description []

theorem change_uponReceiving_states (n : Nat) (description : Option String) :
    Change s (perform (Session.uponReceiving (.states n) description) s).2 := by
  refine (reads_find _ _).bind_relates .none fun e he => ?_
  have ho : s.Offers e.origin := .states (List.mem_of_getElem? (getElem?_of_find he))
  exact change_beginRequest ho description e.states

/-! ## One operation -/

/-- What follows a finished response changes the session in which it is stored. -/
theorem change_afterStore {n : Nat} {f : ResponseEntry → Nat × RequestEntry → Run α}
    {op : Operation} (hop : op.finished? = some n)
    (h : ∀ (t : Session) (r : ResponseEntry) (c : Nat) (q : RequestEntry), r ∈ t.responses →
      r.consumer = some c → q ∈ t.requests → Change t (perform (f r (c, q)) t).2) :
    Change (s.finishing op)
      (perform (do let r ← find responses n; let a ← store r; f r a) s).2 := by
  unfold finishing finished?
  rw [hop, perform_bind, perform_find, Option.bind_some]
  cases hr : s.responses[n]? with
  | none => exact .none
  | some r =>
    dsimp only
    rw [perform_bind]
    obtain ⟨c, m, q, hc, -, hq, -, hs⟩ | ⟨e, hs, -⟩ := perform_store r s
    · rw [hs]
      exact h _ r c q (List.mem_of_getElem? hr) hc (List.mem_of_getElem? hq)
    · rw [hs]
      exact .none

theorem change_given_response (n : Nat) (name : String) (parameters : Value) :
    Change (s.finishing (.given (.response n) name parameters))
      (s.step (.given (.response n) name parameters)).2 := by
  refine change_afterStore rfl fun t r c q hr hc hq => ?_
  refine (reads_liftM _).bind_relates .none fun state _ => ?_
  exact .states (.previous hr hq hc)

theorem change_uponReceiving_response (n : Nat) (description : Option String) :
    Change (s.finishing (.uponReceiving (.response n) description))
      (s.step (.uponReceiving (.response n) description)).2 := by
  refine change_afterStore rfl fun t r c q hr hc hq => ?_
  exact .request (.previous hr hq hc) (.copy _ (.own hq))

theorem change_finish (n : Nat) :
    Change (s.finishing (.finish n)) (s.step (.finish n)).2 := by
  refine change_afterStore rfl fun t r c q _ _ _ => ?_
  exact (reads_find _ _).bind_relates .none fun _ _ => .none

/-- An operation stores the response that it finishes; then it makes one change. -/
theorem change_step (s : Session) (op : Operation) : Change (s.finishing op) (s.step op).2 := by
  cases op with
  | newConsumer name config => exact .consumer name config
  | requestDefaults config => exact .request .detached (.fresh config)
  | responseDefaults config => exact .response .detached (.fresh config)
  | newResponse consumer request defaults => exact change_newResponse consumer request defaults
  | hasContractWith consumer provider =>
    refine (reads_find _ _).bind_relates .none fun c hc => ?_
    exact .provider (List.getElem?_eq_some_iff.mp (getElem?_of_find hc)).1
  | useRequestDefaults provider request =>
    refine (reads_present _ _).bind_relates .none fun _ _ => ?_
    exact change_setProvider provider fun d => { d with request := request }
  | useResponseDefaults provider response =>
    refine (reads_present _ _).bind_relates .none fun _ _ => ?_
    exact change_setProvider provider fun d => { d with response := response }
  | given place name parameters =>
    cases place with
    | provider n => exact change_given_provider n name parameters
    | states n => exact change_given_states n name parameters
    | response n => exact change_given_response n name parameters
    | _ => exact .none
  | uponReceiving place description =>
    cases place with
    | provider n => exact change_uponReceiving_provider n description
    | states n => exact change_uponReceiving_states n description
    | response n => exact change_uponReceiving_response n description
    | _ => exact .none
  | editRequest request edit => exact change_editRequest request edit
  | editPath request edit => exact change_editPath request edit
  | respond request => exact change_respond request
  | editResponse response edit => exact change_editResponse response edit
  | finish response => exact change_finish response

def opening : List Operation :=
  [.newConsumer (some "web") .standard, .hasContractWith 0 (some "orders"),
    .uponReceiving (.provider 0) (some "an order"), .editPath 0 (.path "/orders/10"), .respond 1]

end HttpContract.Session
