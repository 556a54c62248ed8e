import HttpContract.Proofs.Session.Sound
import HttpContract.Proofs.Text.Capitals

/-!
Drafts that begin as copies. A copy builds to what its original was built to, and from then on each
of the two changes only by its own edits.
-/
namespace HttpContract

theorem RequestDraft.build_ofRequest (c : Config) (d : RequestDraft) :
    (ofRequest c d.build).build = d.build := by
  unfold ofRequest build Request.ofParts
  rw [Text.upperText_upperText]

theorem ResponseDraft.build_ofResponse (c : Config) (d : ResponseDraft) :
    (ofResponse c d.build).build = d.build := rfl

namespace Session

open Editing

variable {s t : Session}

/-! ## Entries that stay -/

inductive Builder
  | request (n : Nat) (q : RequestEntry)
  | response (n : Nat) (r : ResponseEntry)

namespace Builder

def handle : Builder → Handle
  | request n _ => .request n
  | response n _ => .response n

def StandsIn (s : Session) : Builder → Prop
  | request n q => s.requests[n]? = some q
  | response n r => s.responses[n]? = some r

variable (b : Builder)

abbrev KeptBy {α : Type} (x : Run α) : Prop := Keeps (fun s => b.StandsIn s) x

theorem keptBy_addProvider (e : ProviderEntry) : b.KeptBy (addProvider e) := by
  intro s h
  cases b <;> exact h

theorem keptBy_addStates (e : StatesEntry) : b.KeptBy (addStates e) := by
  intro s h
  cases b <;> exact h

theorem keptBy_addRequest (e : RequestEntry) : b.KeptBy (addRequest e) := by
  intro s h
  cases b with
  | request n q =>
    exact (List.getElem?_append_left (List.getElem?_eq_some_iff.mp h).1).trans h
  | response n r => exact h

theorem keptBy_addResponse (e : ResponseEntry) : b.KeptBy (addResponse e) := by
  intro s h
  cases b with
  | request n q => exact h
  | response n r =>
    exact (List.getElem?_append_left (List.getElem?_eq_some_iff.mp h).1).trans h

variable {b}

theorem keptBy_setRequest {n : Nat} (h : b.handle ≠ .request n) (d : RequestDraft) :
    b.KeptBy (setRequest n d) := by
  intro s hs
  cases b with
  | request m q =>
    have hm : n ≠ m := fun e => h (congrArg Handle.request e.symm)
    exact (List.getElem?_modify_ne _ _ hm).trans hs
  | response m r => exact hs

theorem keptBy_setResponse {n : Nat} (h : b.handle ≠ .response n) (d : ResponseDraft) :
    b.KeptBy (setResponse n d) := by
  intro s hs
  cases b with
  | request m q => exact hs
  | response m r =>
    have hm : n ≠ m := fun e => h (congrArg Handle.response e.symm)
    exact (List.getElem?_modify_ne _ _ hm).trans hs

theorem keptBy_store (b : Builder) (r : ResponseEntry) : b.KeptBy (store r) := by
  intro s h
  obtain ⟨c, m, q, -, -, -, -, hs⟩ | ⟨e, hs, -⟩ := perform_store r s
  · rw [hs]
    cases b <;> exact h
  · rw [hs]
    exact h

theorem keptBy_beginRequest (b : Builder) (origin : Origin) (description : Option String)
    (states : List ProviderState) : b.KeptBy (beginRequest origin description states) :=
  (reads_configOf _).keeps_bind fun _ => (reads_newRequestDraft _ _).keeps_bind fun _ =>
    b.keptBy_addRequest _

theorem keptBy_setProvider (b : Builder) (n : Nat) (f : ProviderEntry → ProviderEntry) :
    b.KeptBy (setProvider n f) := by
  refine (reads_find _ _).keeps_bind fun _ => Keeps.bind ?_ fun _ => (reads_pure _).keeps _
  exact keeps_modify fun s h => by cases b <;> exact h

theorem keptBy_given (b : Builder) (place : Handle) (name : String) (parameters : Value) :
    b.KeptBy (Session.given place name parameters) := by
  cases place with
  | provider n =>
    exact (reads_find _ _).keeps_bind fun p => (reads_originOf p).keeps_bind fun _ =>
      (reads_liftM _).keeps_bind fun _ => b.keptBy_addStates _
  | states n =>
    refine (reads_find _ _).keeps_bind fun _ => (reads_liftM _).keeps_bind fun _ =>
      Keeps.bind ?_ fun _ => (reads_pure _).keeps _
    exact keeps_modify fun s h => by cases b <;> exact h
  | response n =>
    exact (reads_find _ _).keeps_bind fun r => (keptBy_store b r).bind fun _ =>
      (reads_liftM _).keeps_bind fun _ => b.keptBy_addStates _
  | _ => exact (reads_throw _).keeps _

theorem keptBy_uponReceiving (b : Builder) (place : Handle) (description : Option String) :
    b.KeptBy (Session.uponReceiving place description) := by
  cases place with
  | provider n =>
    exact (reads_find _ _).keeps_bind fun p => (reads_originOf p).keeps_bind fun _ =>
      keptBy_beginRequest b _ _ _
  | states n => exact (reads_find _ _).keeps_bind fun _ => keptBy_beginRequest b _ _ _
  | response n =>
    exact (reads_find _ _).keeps_bind fun r => (keptBy_store b r).bind fun _ =>
      b.keptBy_addRequest _
  | _ => exact (reads_throw _).keeps _

theorem keptBy_editRequest {n : Nat} (h : b.handle ≠ .request n) (edit : RequestEdit) :
    b.KeptBy (Session.editRequest n edit) :=
  (reads_find _ _).keeps_bind fun _ => (keptBy_setRequest h _).bind fun _ =>
    (reads_liftM _).keeps_bind fun _ => (reads_pure _).keeps _

theorem keptBy_editPath {n : Nat} (h : b.handle ≠ .request n) (edit : PathEdit) :
    b.KeptBy (Session.editPath n edit) := by
  refine (reads_find _ _).keeps_bind fun q => ?_
  split
  · exact (keptBy_setRequest h _).bind fun _ => (reads_liftM _).keeps_bind fun _ =>
      (reads_pure _).keeps _
  · exact (reads_liftM _).keeps_bind fun _ => b.keptBy_addRequest _

theorem keptBy_respond (b : Builder) (n : Nat) : b.KeptBy (Session.respond n) := by
  refine (reads_find _ _).keeps_bind fun q => ?_
  split
  · exact (reads_throw _).keeps _
  · exact (reads_newResponseDraft _ _).keeps_bind fun _ => b.keptBy_addResponse _

theorem keptBy_editResponse {n : Nat} (h : b.handle ≠ .response n) (edit : ResponseEdit) :
    b.KeptBy (Session.editResponse n edit) :=
  (reads_find _ _).keeps_bind fun _ => (keptBy_setResponse h _).bind fun _ =>
    (reads_liftM _).keeps_bind fun _ => (reads_pure _).keeps _

end Builder

def Operation.edited? : Operation → Option Handle
  | editRequest n _ | editPath n _ => some (.request n)
  | editResponse n _ => some (.response n)
  | _ => none

/-- One operation changes no draft but the one that it edits. -/
theorem keptBy_run (b : Builder) {op : Operation} (h : op.edited? ≠ some b.handle) :
    b.KeptBy op.run := by
  cases op with
  | newConsumer name config =>
    intro s hs
    cases b <;> exact hs
  | requestDefaults config => exact b.keptBy_addRequest _
  | responseDefaults config => exact b.keptBy_addResponse _
  | newResponse consumer request defaults =>
    exact (reads_present _ _).keeps_bind fun _ => (reads_present _ _).keeps_bind fun _ =>
      (reads_configOf _).keeps_bind fun _ => (reads_newResponseDraft _ _).keeps_bind fun _ =>
      b.keptBy_addResponse _
  | hasContractWith consumer provider =>
    exact (reads_find _ _).keeps_bind fun _ => b.keptBy_addProvider _
  | useRequestDefaults provider request =>
    exact (reads_present _ _).keeps_bind fun _ => b.keptBy_setProvider _ _
  | useResponseDefaults provider response =>
    exact (reads_present _ _).keeps_bind fun _ => b.keptBy_setProvider _ _
  | given place name parameters => exact b.keptBy_given place name parameters
  | uponReceiving place description => exact b.keptBy_uponReceiving place description
  | editRequest n edit => exact Builder.keptBy_editRequest (fun e => h (congrArg some e.symm)) edit
  | editPath n edit => exact Builder.keptBy_editPath (fun e => h (congrArg some e.symm)) edit
  | respond n => exact b.keptBy_respond n
  | editResponse n edit => exact Builder.keptBy_editResponse (fun e => h (congrArg some e.symm)) edit
  | finish n =>
    exact (reads_find _ _).keeps_bind fun r => (b.keptBy_store r).bind fun _ =>
      (reads_find _ _).keeps_bind fun _ => (reads_pure _).keeps _

/-- The session has this builder, and has it as it is after all operations but its own edits. -/
def Lasts (s : Session) (b : Builder) : Prop :=
  ∀ later : List Operation, (∀ op ∈ later, op.edited? ≠ some b.handle) →
    b.StandsIn (s.after later)

theorem lasts_of_standsIn {b : Builder} (h : b.StandsIn s) : s.Lasts b := by
  intro later hl
  induction later generalizing s with
  | nil => exact h
  | cons op later ih =>
    have hstep : b.StandsIn (s.step op).2 := keptBy_run b (hl op List.mem_cons_self) s h
    exact ih hstep fun o ho => hl o (List.mem_cons_of_mem op ho)

/-- An operation that edits no draft leaves all builders as they are, and the last entry is new. -/
theorem lasts_of_unedited {b : Builder} (h : b.StandsIn s) (op : Operation)
    (ho : op.edited? = none) : (s.step op).2.Lasts b :=
  lasts_of_standsIn (keptBy_run b (by rw [ho]; nofun) s h)

theorem lasts_of_standsIn_addRequest {b : Builder} (h : b.StandsIn s) (e : RequestEntry) :
    { s with requests := s.requests ++ [e] }.Lasts b :=
  lasts_of_standsIn (b.keptBy_addRequest e s h)

theorem lasts_addRequest (s : Session) (e : RequestEntry) :
    { s with requests := s.requests ++ [e] }.Lasts (.request s.requests.length e) :=
  lasts_of_standsIn (b := .request s.requests.length e) List.getElem?_concat_length

theorem lasts_addResponse (s : Session) (e : ResponseEntry) :
    { s with responses := s.responses ++ [e] }.Lasts (.response s.responses.length e) :=
  lasts_of_standsIn (b := .response s.responses.length e) List.getElem?_concat_length

/-! ## Copies -/

def following (q : RequestEntry) (r : ResponseEntry) (consumer : Nat)
    (description : Option String) : RequestEntry :=
  ⟨⟨some consumer, q.origin.consumerName, q.origin.providerName, r.defaults⟩, description,
    q.states, true, .ofRequest q.draft.part.config q.draft.build⟩

theorem step_uponReceiving_response (hs : s.Sound) {n c m : Nat} {r : ResponseEntry}
    (hr : s.responses[n]? = some r) (hc : r.consumer = some c) (hm : r.request = some m)
    (description : Option String) :
    ∃ q, s.requests[m]? = some q ∧ s.step (.uponReceiving (.response n) description) =
      (.ok (.handle (.request s.requests.length)),
        { s.withInteraction c (interactionOf q r) with
          requests := s.requests ++ [following q r c description] }) := by
  have hmem : r ∈ s.responses := List.mem_of_getElem? hr
  have hstep : s.step (.uponReceiving (.response n) description) =
      perform (Session.uponReceiving (.response n) description) s := rfl
  rw [hstep, Session.uponReceiving, perform_bind, perform_find, hr]
  dsimp only
  rw [perform_bind]
  obtain ⟨c', m', q, hc', hm', hq, -, hst⟩ | ⟨e, -, hd⟩ := perform_store r s
  · cases hc.symm.trans hc'
    cases hm.symm.trans hm'
    refine ⟨q, hq, ?_⟩
    rw [hst]
    rfl
  · obtain ⟨-, hd | hd⟩ := hd (hs.responses r hmem).1 (hs.answered r hmem)
    · rw [hc] at hd
      cases hd
    · rw [hm] at hd
      cases hd

/-- The first edit of a path is made on a copy. -/
theorem step_editPath_copy {m : Nat} {q : RequestEntry} (hq : s.requests[m]? = some q)
    (hp : q.hasPath = false) (edit : PathEdit) :
    s.step (.editPath m edit) =
      match perform edit.run (.ofRequest q.draft.part.config q.draft.build) with
      | (.ok _, draft) => (.ok (.handle (.request s.requests.length)),
          { s with requests := s.requests ++ [{ q with hasPath := true, draft := draft }] })
      | (.error e, _) => (.error e, s) := by
  have hstep : s.step (.editPath m edit) = perform (Session.editPath m edit) s := rfl
  rw [hstep, Session.editPath, perform_bind, perform_find, hq]
  dsimp only
  rw [hp]
  rcases perform edit.run (.ofRequest q.draft.part.config q.draft.build) with ⟨answer, draft⟩
  cases answer with
  | ok _ => rfl
  | error e => rfl

theorem perform_newResponseDraft {n : Nat} {d : ResponseEntry} (hd : s.responses[n]? = some d)
    (config : Config) : perform (newResponseDraft config (some n)) s =
      (.ok (.ofResponse config d.draft.build), s) := by
  unfold newResponseDraft
  dsimp only
  rw [perform_bind, perform_find, hd]
  rfl

theorem step_respond_copy {m n : Nat} {q : RequestEntry} {d : ResponseEntry}
    (hq : s.requests[m]? = some q) (hp : q.hasPath = true)
    (hn : q.origin.defaults.response = some n) (hd : s.responses[n]? = some d) :
    s.step (.respond m) = (.ok (.handle (.response s.responses.length)),
      { s with responses := s.responses ++ [⟨q.origin.consumer, some m, q.origin.defaults,
          .ofResponse q.draft.part.config d.draft.build⟩] }) := by
  have hstep : s.step (.respond m) = perform (Session.respond m) s := rfl
  rw [hstep, Session.respond, perform_bind, perform_find, hq]
  dsimp only
  rw [hp, hn]
  simp only [Bool.not_true, Bool.false_eq_true, if_false]
  rw [perform_bind, perform_newResponseDraft hd]
  rfl

/-- A response that is made by itself begins as its defaults too, if all that it names is there. -/
theorem step_newResponse_copy {consumer request : Option Nat} {defaults : Defaults} {n : Nat}
    {d : ResponseEntry} (hn : defaults.response = some n) (hd : s.responses[n]? = some d)
    {h : Outcome} (ho : (s.step (.newResponse consumer request defaults)).1 = .ok h) :
    h = .handle (.response s.responses.length) ∧
      ∃ config, (s.step (.newResponse consumer request defaults)).2 =
        { s with responses := s.responses ++
            [⟨consumer, request, defaults, .ofResponse config d.draft.build⟩] } := by
  have hstep : s.step (.newResponse consumer request defaults) =
      perform (Operation.newResponse consumer request defaults).run s := rfl
  rw [hstep, Operation.run] at ho ⊢
  obtain ⟨_, h₁, ho⟩ := (reads_present _ _).of_bind_ok ho
  obtain ⟨_, h₂, ho⟩ := (reads_present _ _).of_bind_ok ho
  obtain ⟨config, h₃, ho⟩ := (reads_configOf _).of_bind_ok ho
  rw [(reads_present _ _).perform_then h₁, (reads_present _ _).perform_then h₂,
    (reads_configOf _).perform_then h₃]
  rw [hn, perform_bind, perform_newResponseDraft hd] at ho ⊢
  cases ho
  exact ⟨rfl, config, rfl⟩

/-- For every session that operations have led to: the request that follows a finished response,
the request on which the first edit of a path is made, and a response that begins with defaults all
have the states of their original and build to what it builds to then. From then on nothing but its
own edits changes either of the two. -/
theorem copies_are_independent (before : List Operation) :
    let s := empty.after before
    (∀ n c m r description, s.responses[n]? = some r → r.consumer = some c → r.request = some m →
      ∃ q e t, s.requests[m]? = some q
        ∧ s.step (.uponReceiving (.response n) description) =
          (.ok (.handle (.request s.requests.length)), t)
        ∧ e.states = q.states ∧ e.draft.build = q.draft.build
        ∧ t.Lasts (.request m q) ∧ t.Lasts (.request s.requests.length e))
    ∧ (∀ m q (edit : PathEdit), s.requests[m]? = some q → q.hasPath = false →
      let copy := RequestDraft.ofRequest q.draft.part.config q.draft.build
      copy.build = q.draft.build ∧
      match perform edit.run copy with
      | (.ok _, draft) => ∃ e t,
        s.step (.editPath m edit) = (.ok (.handle (.request s.requests.length)), t)
        ∧ e.states = q.states ∧ e.draft = draft
        ∧ t.Lasts (.request m q) ∧ t.Lasts (.request s.requests.length e)
      | (.error error, _) => s.step (.editPath m edit) = (.error error, s))
    ∧ (∀ m n q d, s.requests[m]? = some q → q.hasPath = true →
      q.origin.defaults.response = some n → s.responses[n]? = some d →
      ∃ e t, s.step (.respond m) = (.ok (.handle (.response s.responses.length)), t)
        ∧ e.draft.build = d.draft.build
        ∧ t.Lasts (.response n d) ∧ t.Lasts (.response s.responses.length e))
    ∧ (∀ consumer request defaults n d h t, defaults.response = some n → s.responses[n]? = some d →
      s.step (.newResponse consumer request defaults) = (.ok h, t) →
      ∃ e, h = .handle (.response s.responses.length) ∧ e.draft.build = d.draft.build
        ∧ t.Lasts (.response n d) ∧ t.Lasts (.response s.responses.length e)) := by
  intro s
  have hsound : s.Sound := sound_empty.after before
  clear_value s
  refine ⟨?following, ?path, ?answer, ?response⟩
  case following =>
    intro n c m r description hr hc hm
    obtain ⟨q, hq, hs⟩ := step_uponReceiving_response hsound hr hc hm description
    have hl := lasts_of_unedited (b := .request m q) hq
      (.uponReceiving (.response n) description) rfl
    rw [hs] at hl
    have hb : (following q r c description).draft.build = q.draft.build :=
      RequestDraft.build_ofRequest _ _
    exact ⟨q, following q r c description, _, hq, hs, rfl, hb, hl,
      lasts_addRequest (s.withInteraction c (interactionOf q r)) _⟩
  case path =>
    intro m q edit hq hp copy
    refine ⟨RequestDraft.build_ofRequest _ _, ?_⟩
    have hs := step_editPath_copy hq hp edit
    rcases hp : perform edit.run copy with ⟨answer, draft⟩
    rw [hp] at hs
    cases answer with
    | ok _ =>
      let e : RequestEntry := { q with hasPath := true, draft := draft }
      have hl := lasts_of_standsIn_addRequest (b := .request m q) hq e
      exact ⟨e, _, hs, rfl, rfl, hl, lasts_addRequest s e⟩
    | error e => exact hs
  case answer =>
    intro m n q d hq hp hn hd
    have hs := step_respond_copy hq hp hn hd
    have hl := lasts_of_unedited (b := .response n d) hd (.respond m) rfl
    rw [hs] at hl
    let e : ResponseEntry := ⟨q.origin.consumer, some m, q.origin.defaults,
      .ofResponse q.draft.part.config d.draft.build⟩
    exact ⟨e, _, hs, ResponseDraft.build_ofResponse _ _, hl, lasts_addResponse s e⟩
  case response =>
    intro consumer request defaults n d h t hn hd hs
    obtain ⟨rfl, config, ht⟩ := step_newResponse_copy hn hd (congrArg Prod.fst hs)
    have hl := lasts_of_unedited (b := .response n d) hd
      (.newResponse consumer request defaults) rfl
    rw [ht] at hl
    obtain rfl : _ = t := ht.symm.trans (congrArg Prod.snd hs)
    let e : ResponseEntry := ⟨consumer, request, defaults, .ofResponse config d.draft.build⟩
    exact ⟨e, rfl, ResponseDraft.build_ofResponse _ _, hl, lasts_addResponse s e⟩

def openingByDefault : List Operation :=
  [.newConsumer (some "web") .standard, .hasContractWith 0 (some "orders"),
    .responseDefaults .standard, .editResponse 0 (.status (.int 404)),
    .useResponseDefaults 0 (some 0), .uponReceiving (.provider 0) (some "an order"),
    .editPath 0 (.path "/orders/10"), .respond 1]

/-- All four kinds of copies, each of which stays as it was made when its original is edited. -/
theorem copies_are_independent_order :
    let s := empty.after openingByDefault
    (∃ e t, s.step (.uponReceiving (.response 1) none) = (.ok (.handle (.request 2)), t)
      ∧ e.draft.build.path = "/orders/10"
      ∧ (t.after [.editPath 1 (.path "/")]).requests[2]? = some e)
    ∧ (∃ e t, s.step (.editPath 0 (.path "/orders/11")) = (.ok (.handle (.request 2)), t)
      ∧ e.draft.path = "/orders/11" ∧ (t.after [.editPath 0 (.path "/")]).requests[2]? = some e)
    ∧ (∃ e t, s.step (.respond 1) = (.ok (.handle (.response 2)), t)
      ∧ e.draft.build.status = .int 404
      ∧ (t.after [.editResponse 0 (.status (.int 500))]).responses[2]? = some e)
    ∧ ∃ e t, s.step (.newResponse (some 0) (some 1) ⟨none, some 0⟩) =
        (.ok (.handle (.response 2)), t) ∧ e.draft.build.status = .int 404
      ∧ (t.after [.editResponse 0 (.status (.int 500))]).responses[2]? = some e := by
  intro s
  obtain ⟨hfollowing, hpath, hanswer, hresponse⟩ := copies_are_independent openingByDefault
  refine ⟨?following, ?path, ?answer, ?response⟩
  case following =>
    obtain ⟨q, e, t, hq, hs, -, hbuild, -, hlasts⟩ := hfollowing 1 0 1 _ none rfl rfl rfl
    cases hq
    exact ⟨e, t, hs, congrArg Request.path hbuild,
      hlasts _ (List.forall_mem_singleton.mpr
        (show some (Handle.request 1) ≠ some (.request 2) by decide))⟩
  case path =>
    obtain ⟨e, t, hs, -, hdraft, -, hlasts⟩ := (hpath 0 _ (.path "/orders/11") rfl rfl).2
    exact ⟨e, t, hs, congrArg RequestDraft.path hdraft,
      hlasts _ (List.forall_mem_singleton.mpr
        (show some (Handle.request 0) ≠ some (.request 2) by decide))⟩
  case answer =>
    obtain ⟨e, t, hs, hbuild, -, hlasts⟩ := hanswer 1 0 _ _ rfl rfl rfl rfl
    exact ⟨e, t, hs, congrArg Response.status hbuild,
      hlasts _ (List.forall_mem_singleton.mpr
        (show some (Handle.response 0) ≠ some (.response 2) by decide))⟩
  case response =>
    obtain ⟨e, hs, hbuild, -, hlasts⟩ :=
      hresponse (some 0) (some 1) ⟨none, some 0⟩ 0 _ _ _ rfl rfl rfl
    exact ⟨e, _, rfl, congrArg Response.status hbuild,
      hlasts _ (List.forall_mem_singleton.mpr
        (show some (Handle.response 0) ≠ some (.response 2) by decide))⟩

end Session

end HttpContract
