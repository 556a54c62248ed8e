import HttpContract.Proofs.Fields.Names
import HttpContract.Proofs.Success
import Mathlib.Data.List.Induction
import Mathlib.Data.List.ReduceOption

/-!
Values taken from a provider state. What is generated does not depend on the fields that it is put
into, so generators that leave nothing to chance settle a request or a response the first time, and do
nothing at all where there is no provider state.
-/
namespace HttpContract

/-! ## Entries put twice -/

namespace Keyed

variable {α β : Type} [DecidableEq α]

/-- Where the first key has its place already, the order of two puts makes no difference. -/
theorem put_comm {m : Keyed α β} {key other : α} (hmem : key ∈ keys m) (hne : key ≠ other)
    (value last : β) : put (put m key value) other last = put (put m other last) key value := by
  induction m with
  | nil => cases hmem
  | cons e rest ih =>
    obtain ⟨k, v⟩ := e
    by_cases hkey : k = key
    · subst hkey
      rw [put, if_pos rfl, put, if_neg hne, put, if_neg hne, put, if_pos rfl]
    · have hrest : key ∈ keys rest := List.mem_of_ne_of_mem (Ne.symm hkey) hmem
      by_cases hother : k = other
      · subst hother
        rw [put, if_neg hkey, put, if_pos rfl, put, if_pos rfl, put, if_neg hkey]
      · rw [put, if_neg hkey, put, if_neg hother, put, if_neg hother, put, if_neg hkey, ih hrest]

/-- What is put last hides what was put under its key before entries that have their places. -/
theorem put_putAll_put {m entries : Keyed α β} (h : ∀ e ∈ entries, e.1 ∈ keys m) (key : α)
    (value last : β) :
    put (putAll (put m key value) entries) key last = put (putAll m entries) key last := by
  induction entries generalizing m value with
  | nil => exact put_put m key value last
  | cons e rest ih =>
    obtain ⟨hmem, hrest⟩ := List.forall_mem_cons.mp h
    have hrest (l : α) (w : β) : ∀ e ∈ rest, e.1 ∈ keys (put m l w) := fun e he =>
      mem_keys_put.mpr (.inl (hrest e he))
    show put (putAll (put (put m key value) e.1 e.2) rest) key last
      = put (putAll (put m e.1 e.2) rest) key last
    by_cases he : e.1 = key
    · rw [he, put_put]
    · rw [← put_comm hmem he, ih (hrest e.1 e.2)]

theorem mem_keys_putAll (m entries : Keyed α β) : ∀ e ∈ entries, e.1 ∈ keys (putAll m entries) :=
  fun e he => (mem_keys_foldl_put (fun value => value) m entries e.1).mpr
    (.inl (List.mem_map_of_mem he))

/-- Entries that have been put change nothing when they are put again. -/
theorem putAll_putAll (m entries : Keyed α β) :
    putAll (putAll m entries) entries = putAll m entries := by
  induction entries using List.reverseRecOn with
  | nil => rfl
  | append_singleton front e ih =>
    have hput (m : Keyed α β) : putAll m (front ++ [e]) = put (putAll m front) e.1 e.2 :=
      List.foldl_append
    rw [hput, hput, put_putAll_put (mem_keys_putAll m front), ih]

end Keyed

/-! ## What is generated -/

namespace GeneratorSet

variable {β γ : Type} {s : GeneratorSet} {place : Place} {draws : DrawTable}
  {context : Generator.Context}

def outcome (make : Value → Result β) (place : Place) (draws : DrawTable)
    (context : Generator.Context) (e : String × Generator) : Result (Option (String × β)) := do
  match ← e.2.generate (draws place e.1) context with
  | .null => return none
  | v => return some (e.1, ← make v)

def outcomes (make : Value → Result β) (s : GeneratorSet) (place : Place) (draws : DrawTable)
    (context : Generator.Context) : Result (Keyed String β) :=
  ((s.forPlace place).mapM (outcome make place draws context)).map List.reduceOption

/-- A run along the generators that takes in their values is a run along the values. -/
theorem foldlM_eq_outcomes {make : Value → Result β} (put : γ → String → β → γ)
    {step : γ → String × Generator → Result γ}
    (hstep : ∀ c e, step c e = (outcome make place draws context e).map fun o =>
      o.elim c fun d => put c d.1 d.2) (c : γ) :
    (s.forPlace place).foldlM step c =
      (outcomes make s place draws context).map (List.foldl (fun c d => put c d.1 d.2) c) := by
  unfold outcomes
  generalize s.forPlace place = entries
  induction entries generalizing c with
  | nil => rfl
  | cons e rest ih =>
    rw [List.foldlM_cons, List.mapM_cons, hstep]
    cases outcome make place draws context e with
    | error fault => rfl
    | ok o =>
      refine (ih _).trans ?_
      cases rest.mapM (outcome make place draws context) with
      | error fault => rfl
      | ok made => cases o <;> rfl

def fieldValues (v : Value) : Result (List String) := do return [← v.plainText]

theorem fill_eq (fields : Fields) : s.fill place draws context fields =
    (s.outcomes fieldValues place draws context).map (Keyed.putAll fields) := by
  refine foldlM_eq_outcomes Keyed.put (fun fields e => ?_) fields
  unfold outcome
  cases e.2.generate (draws place e.1) context with
  | error fault => rfl
  | ok v =>
    cases v with
    | null => rfl
    | _ =>
      dsimp only [bind, Except.bind, fieldValues]
      split <;> rfl

def lastValue (made : Keyed String β) (old : β) : β := made.foldl (fun _ d => d.2) old

theorem lastValue_lastValue (made : Keyed String β) (old : β) :
    lastValue made (lastValue made old) = lastValue made old := by
  cases made <;> rfl

theorem foldlM_eq_lastValue {make : Value → Result β} {step : β → String × Generator → Result β}
    (hstep : ∀ old e, step old e = do
      match ← e.2.generate (draws place e.1) context with
      | .null => return old
      | v => make v) (old : β) :
    (s.forPlace place).foldlM step old =
      (outcomes make s place draws context).map (lastValue · old) := by
  refine foldlM_eq_outcomes (fun _ _ value => value) (fun old e => ?_) old
  rw [hstep]
  unfold outcome
  cases e.2.generate (draws place e.1) context with
  | error fault => rfl
  | ok v =>
    cases v with
    | null => rfl
    | _ =>
      dsimp only [bind, Except.bind]
      split <;> assumption

/-! ### Provider states -/

def FromState (s : GeneratorSet) : Prop := ∀ place, ∀ e ∈ s.forPlace place, e.2.kind = .providerState

end GeneratorSet

/-- No provider state is in the context, or what is there in its place is no map. -/
def Generator.Context.LacksState (context : Generator.Context) : Prop :=
  ∀ values, Value.lookup context "providerState" ≠ some (.map values)

namespace Generator

variable {g : Generator} {context : Context}

theorem generate_of_kind (h : g.kind = .providerState) (d again : Draws) :
    g.generate d context = g.generate again context := by
  cases g with
  | providerState expression kind => rfl
  | _ => cases h

theorem generate_of_lacksState (h : g.kind = .providerState) (hc : context.LacksState) (d : Draws) :
    g.generate d context = .ok .null := by
  cases g with
  | providerState expression kind =>
    rw [generate]
    split
    · exact absurd ‹_› (hc _)
    · rfl
  | _ => cases h

end Generator

namespace GeneratorSet

variable {β : Type} {s : GeneratorSet} {context : Generator.Context}

theorem FromState.outcomes_eq (h : s.FromState) (make : Value → Result β) (place : Place)
    (draws again : DrawTable) :
    s.outcomes make place draws context = s.outcomes make place again context := by
  refine congrArg (Except.map List.reduceOption) (mapM_congr fun e he => ?_)
  unfold outcome
  rw [Generator.generate_of_kind (h place e he)]

theorem FromState.outcomes_of_lacksState (h : s.FromState) (hc : context.LacksState)
    (make : Value → Result β) (place : Place) (draws : DrawTable) :
    s.outcomes make place draws context = .ok [] := by
  have hnone : ∀ e ∈ s.forPlace place, outcome make place draws context e = .ok none := by
    intro e he
    rw [outcome, Generator.generate_of_lacksState (h place e he) hc]
    rfl
  rw [outcomes, mapM_ok hnone]
  exact congrArg Except.ok (by simp [List.reduceOption])

end GeneratorSet

namespace Request

variable {r filled : Request} {draws : DrawTable} {context : Generator.Context}

theorem fillPath_eq : r.fillPath draws context =
    (r.generators.outcomes Value.plainText .path draws context).map
      (GeneratorSet.lastValue · r.path) :=
  GeneratorSet.foldlM_eq_lastValue (fun _ _ => rfl) r.path

def replaced (r : Request) (headers query : Fields) (path : Keyed String String) : Request :=
  { r with
    path := GeneratorSet.lastValue path r.path
    query := Keyed.putAll r.query query
    headers := Keyed.putAll r.headers headers }

theorem replaced_replaced (r : Request) (headers query : Fields) (path : Keyed String String) :
    (r.replaced headers query path).replaced headers query path = r.replaced headers query path := by
  simp only [replaced, Keyed.putAll_putAll, GeneratorSet.lastValue_lastValue]

/-- A request is generated exactly if all values are, and then it has them in their places. -/
theorem generated_ok_iff : r.generated draws context = .ok filled ↔ ∃ headers query path,
    r.generators.outcomes GeneratorSet.fieldValues .header draws context = .ok headers
      ∧ r.generators.outcomes GeneratorSet.fieldValues .query draws context = .ok query
      ∧ r.generators.outcomes Value.plainText .path draws context = .ok path
      ∧ filled = r.replaced headers query path := by
  rw [generated, GeneratorSet.fill_eq, GeneratorSet.fill_eq, fillPath_eq]
  constructor
  · intro h
    obtain ⟨_, hfilled, h⟩ := exists_of_bind_ok h
    obtain ⟨headers, hheaders, rfl⟩ := exists_of_map_ok hfilled
    obtain ⟨_, hfilled, h⟩ := exists_of_bind_ok h
    obtain ⟨query, hquery, rfl⟩ := exists_of_map_ok hfilled
    obtain ⟨_, hfilled, h⟩ := exists_of_bind_ok h
    obtain ⟨path, hpath, rfl⟩ := exists_of_map_ok hfilled
    exact ⟨headers, query, path, hheaders, hquery, hpath, (Except.ok.inj h).symm⟩
  · rintro ⟨headers, query, path, hheaders, hquery, hpath, rfl⟩
    rw [hheaders, hquery, hpath]
    rfl

/-- Generating again with the same context changes nothing more. -/
theorem generated_again (hs : r.generators.FromState) (h : r.generated draws context = .ok filled)
    (again : DrawTable) : filled.generated again context = .ok filled := by
  obtain ⟨headers, query, path, hheaders, hquery, hpath, rfl⟩ := generated_ok_iff.mp h
  rw [hs.outcomes_eq _ _ draws again] at hheaders hquery hpath
  exact generated_ok_iff.mpr ⟨headers, query, path, hheaders, hquery, hpath,
    (r.replaced_replaced headers query path).symm⟩

theorem generated_of_lacksState (hs : r.generators.FromState) (hc : context.LacksState)
    (draws : DrawTable) : r.generated draws context = .ok r :=
  generated_ok_iff.mpr ⟨[], [], [], hs.outcomes_of_lacksState hc _ _ _,
    hs.outcomes_of_lacksState hc _ _ _, hs.outcomes_of_lacksState hc _ _ _, rfl⟩

end Request

namespace Response

variable {r filled : Response} {draws : DrawTable} {context : Generator.Context}

def statusValue (v : Value) : Result Value := Value.int <$> DataKind.toInteger v

theorem fillStatus_eq : r.fillStatus draws context =
    (r.generators.outcomes statusValue .status draws context).map
      (GeneratorSet.lastValue · r.status) :=
  GeneratorSet.foldlM_eq_lastValue (fun _ _ => rfl) r.status

def replaced (r : Response) (headers : Fields) (status : Keyed String Value) : Response :=
  { r with
    status := GeneratorSet.lastValue status r.status
    headers := Keyed.putAll r.headers headers }

theorem replaced_replaced (r : Response) (headers : Fields) (status : Keyed String Value) :
    (r.replaced headers status).replaced headers status = r.replaced headers status := by
  simp only [replaced, Keyed.putAll_putAll, GeneratorSet.lastValue_lastValue]

/-- A response is generated exactly if all values are, and then it has them in their places. -/
theorem generated_ok_iff : r.generated draws context = .ok filled ↔ ∃ headers status,
    r.generators.outcomes GeneratorSet.fieldValues .header draws context = .ok headers
      ∧ r.generators.outcomes statusValue .status draws context = .ok status
      ∧ filled = r.replaced headers status := by
  rw [generated, GeneratorSet.fill_eq, fillStatus_eq]
  constructor
  · intro h
    obtain ⟨_, hfilled, h⟩ := exists_of_bind_ok h
    obtain ⟨headers, hheaders, rfl⟩ := exists_of_map_ok hfilled
    obtain ⟨_, hfilled, h⟩ := exists_of_bind_ok h
    obtain ⟨status, hstatus, rfl⟩ := exists_of_map_ok hfilled
    exact ⟨headers, status, hheaders, hstatus, (Except.ok.inj h).symm⟩
  · rintro ⟨headers, status, hheaders, hstatus, rfl⟩
    rw [hheaders, hstatus]
    rfl

/-- Generating again with the same context changes nothing more. -/
theorem generated_again (hs : r.generators.FromState) (h : r.generated draws context = .ok filled)
    (again : DrawTable) : filled.generated again context = .ok filled := by
  obtain ⟨headers, status, hheaders, hstatus, rfl⟩ := generated_ok_iff.mp h
  rw [hs.outcomes_eq _ _ draws again] at hheaders hstatus
  exact generated_ok_iff.mpr ⟨headers, status, hheaders, hstatus,
    (r.replaced_replaced headers status).symm⟩

theorem generated_of_lacksState (hs : r.generators.FromState) (hc : context.LacksState)
    (draws : DrawTable) : r.generated draws context = .ok r :=
  generated_ok_iff.mpr ⟨[], [], hs.outcomes_of_lacksState hc _ _ _,
    hs.outcomes_of_lacksState hc _ _ _, rfl⟩

end Response

/-- Whatever is generated, a request keeps its method and a response and a request keep body, rules and
generators. If all values are taken from provider states, generating again with the same context
changes nothing more, and generating without a provider state changes nothing at all. -/
theorem generated_from_state_settles :
    (∀ (r filled : Request) (draws : DrawTable) (context : Generator.Context),
      r.generated draws context = .ok filled →
        (filled.method = r.method ∧ filled.body = r.body ∧ filled.rules = r.rules
          ∧ filled.generators = r.generators)
        ∧ (r.generators.FromState → ∀ again, filled.generated again context = .ok filled))
    ∧ (∀ (r : Request) (draws : DrawTable) (context : Generator.Context),
      r.generators.FromState → context.LacksState → r.generated draws context = .ok r)
    ∧ (∀ (r filled : Response) (draws : DrawTable) (context : Generator.Context),
      r.generated draws context = .ok filled →
        (filled.body = r.body ∧ filled.rules = r.rules ∧ filled.generators = r.generators)
        ∧ (r.generators.FromState → ∀ again, filled.generated again context = .ok filled))
    ∧ ∀ (r : Response) (draws : DrawTable) (context : Generator.Context),
      r.generators.FromState → context.LacksState → r.generated draws context = .ok r := by
  refine ⟨fun r filled draws context h => ⟨?_, fun hs => Request.generated_again hs h⟩,
    fun r draws context hs hc => Request.generated_of_lacksState hs hc draws,
    fun r filled draws context h => ⟨?_, fun hs => Response.generated_again hs h⟩,
    fun r draws context hs hc => Response.generated_of_lacksState hs hc draws⟩
  · obtain ⟨headers, query, path, -, -, -, rfl⟩ := Request.generated_ok_iff.mp h
    exact ⟨rfl, rfl, rfl, rfl⟩
  · obtain ⟨headers, status, -, -, rfl⟩ := Response.generated_ok_iff.mp h
    exact ⟨rfl, rfl, rfl⟩

/-- An order is asked for by the number that the provider knows, and answered by this number with the
status that the provider gives. Without a provider state both stay as they are. -/
theorem generated_from_state_settles_order :
    let fromState (expression : String) (kind : DataKind) : Generator :=
      .providerState expression kind
    let order : Request := ⟨"GET", "/orders/1", [], [], .missing, [],
      [(.path, [("", fromState "/orders/$\x7bid\x7d" .text)])]⟩
    let order' := { order with path := "/orders/7" }
    let answer : Response := ⟨.int 200, [("Id", ["1"])], .missing, [],
      [(.header, [("Id", fromState "id" .text)]), (.status, [("", fromState "status" .integer)])]⟩
    let answer' := { answer with status := .int 202, headers := [("Id", ["7"])] }
    let context := [(Value.text "providerState",
      Value.record [("id", .text "7"), ("status", .text "202")])]
    let draws : DrawTable := fun _ _ _ => 0
    order.generators.FromState ∧ answer.generators.FromState ∧ Generator.Context.LacksState []
      ∧ order.generated draws context = .ok order' ∧ order'.generated draws context = .ok order'
      ∧ order.generated draws [] = .ok order
      ∧ answer.generated draws context = .ok answer'
      ∧ answer'.generated draws context = .ok answer'
      ∧ answer.generated draws [] = .ok answer := by
  intro fromState order order' answer answer' context draws
  have horder : order.generators.FromState := by
    intro place e he
    cases place with
    | path =>
      obtain rfl : e = ("", fromState "/orders/$\x7bid\x7d" .text) := List.mem_singleton.mp he
      rfl
    | _ => cases he
  have hanswer : answer.generators.FromState := by
    intro place e he
    cases place with
    | header =>
      obtain rfl : e = ("Id", fromState "id" .text) := List.mem_singleton.mp he
      rfl
    | status =>
      obtain rfl : e = ("", fromState "status" .integer) := List.mem_singleton.mp he
      rfl
    | _ => cases he
  have hasked : order.generated draws context = .ok order' :=
    eq_ok_of_toOption (by decide +kernel)
  have hid : answer.generators.fill .header draws context answer.headers = .ok [("Id", ["7"])] :=
    eq_ok_of_toOption (by decide +kernel)
  have hstatus : answer.fillStatus draws context = .ok (.int 202) := by with_unfolding_all rfl
  have hanswered : answer.generated draws context = .ok answer' := by
    rw [Response.generated, hid, hstatus]
    rfl
  have hlacks : Generator.Context.LacksState [] := fun _ h => nomatch h
  obtain ⟨hagain, hsame, hagain', hsame'⟩ := generated_from_state_settles
  exact ⟨horder, hanswer, hlacks,
    hasked, (hagain _ _ _ _ hasked).2 horder draws, hsame _ draws [] horder hlacks,
    hanswered, (hagain' _ _ _ _ hanswered).2 hanswer draws, hsame' _ draws [] hanswer hlacks⟩

end HttpContract
