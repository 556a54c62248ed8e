import HttpContract.Proofs.Fields.Names
import HttpContract.Proofs.Success

/-!
Do generators replace values only? A generator stands under a name. Where the field of that name is
gone, because a body was declared anew or the query was replaced, its value becomes a field that the
part does not have.
-/
namespace HttpContract

open Editing

namespace GeneratorSet

def Named (s : GeneratorSet) (place : Place) (fields : Fields) : Prop :=
  ∀ name ∈ Keyed.keys (s.forPlace place), name ∈ Keyed.keys fields

def fillOne (place : Place) (draws : DrawTable) (context : Generator.Context) (fields : Fields)
    (e : String × Generator) : Result Fields := do
  match ← e.2.generate (draws place e.1) context with
  | .null => return fields
  | v => return Keyed.put fields e.1 [← v.plainText]

variable {place : Place} {draws : DrawTable} {context : Generator.Context}

def Gives (place : Place) (draws : DrawTable) (context : Generator.Context) (e : String × Generator) :
    Prop :=
  ∃ v, e.2.generate (draws place e.1) context = .ok v ∧ v ≠ .null

/-- The fields stay, or one is put there if there is a value for it. -/
theorem of_fillOne_ok {fields filled : Fields} {e : String × Generator}
    (h : fillOne place draws context fields e = .ok filled) :
    (¬Gives place draws context e ∧ filled = fields)
      ∨ Gives place draws context e ∧ ∃ values, filled = Keyed.put fields e.1 values := by
  obtain ⟨v, hv, hrest⟩ := exists_of_bind_ok h
  cases v with
  | null =>
    cases hrest
    refine .inl ⟨?_, rfl⟩
    rintro ⟨w, hw, hne⟩
    exact hne (Except.ok.inj (hw.symm.trans hv))
  | _ =>
    obtain ⟨s, -, hput⟩ := exists_of_bind_ok hrest
    cases hput
    exact .inr ⟨⟨_, hv, nofun⟩, _, rfl⟩

theorem keys_prefix_of_fillAll {entries : Keyed String Generator} {fields filled : Fields}
    (h : entries.foldlM (fillOne place draws context) fields = .ok filled) :
    Keyed.keys fields <+: Keyed.keys filled := by
  induction entries generalizing fields with
  | nil =>
    cases h
    exact List.prefix_rfl
  | cons e rest ih =>
    rw [List.foldlM_cons] at h
    obtain ⟨next, hnext, hrest⟩ := exists_of_bind_ok h
    refine List.IsPrefix.trans ?_ (ih hrest)
    obtain ⟨-, rfl⟩ | ⟨-, values, rfl⟩ := of_fillOne_ok hnext
    · exact List.prefix_rfl
    · rw [Keyed.keys_put]
      split
      · exact List.prefix_rfl
      · exact List.prefix_append ..

theorem keys_fillAll_eq_iff {entries : Keyed String Generator} {fields filled : Fields}
    (h : entries.foldlM (fillOne place draws context) fields = .ok filled) :
    Keyed.keys filled = Keyed.keys fields ↔
      ∀ e ∈ entries, Gives place draws context e → e.1 ∈ Keyed.keys fields := by
  induction entries generalizing fields with
  | nil =>
    cases h
    exact iff_of_true rfl fun _ h => absurd h List.not_mem_nil
  | cons e rest ih =>
    rw [List.foldlM_cons] at h
    obtain ⟨next, hnext, hrest⟩ := exists_of_bind_ok h
    rw [List.forall_mem_cons]
    obtain ⟨hno, rfl⟩ | ⟨hyes, values, rfl⟩ := of_fillOne_ok hnext
    · rw [ih hrest]
      exact ⟨fun h => ⟨fun hg => absurd hg hno, h⟩, And.right⟩
    · by_cases hmem : e.1 ∈ Keyed.keys fields
      · have hkeys : Keyed.keys (Keyed.put fields e.1 values) = Keyed.keys fields := by
          rw [Keyed.keys_put, if_pos hmem]
        rw [← hkeys, ih hrest, hkeys]
        exact ⟨fun h => ⟨fun _ => hmem, h⟩, And.right⟩
      · refine iff_of_false (fun heq => ?_) fun hall => hmem (hall.1 hyes)
        have hprefix := (keys_prefix_of_fillAll hrest).length_le
        rw [heq, Keyed.keys_put, if_neg hmem, List.length_append, List.length_singleton] at hprefix
        omega

/-- The names are what they were exactly if every value is for one of them. -/
theorem keys_fill_eq_iff {s : GeneratorSet} {fields filled : Fields}
    (h : s.fill place draws context fields = .ok filled) :
    Keyed.keys filled = Keyed.keys fields ↔
      ∀ e ∈ s.forPlace place, Gives place draws context e → e.1 ∈ Keyed.keys fields :=
  keys_fillAll_eq_iff h

end GeneratorSet

namespace FieldChange

/-- What has been given together with a generator still stands. -/
def Lasting (history : List FieldChange) : Prop :=
  ∀ name, .generate name ∈ history → Stands history name

/-- Every generator has its field exactly if no field that was given with one has been lost. -/
theorem Tells.named_iff {history : List FieldChange} {fields : Fields} {s : GeneratorSet}
    {place : Place} (h : Tells history fields (s.forPlace place)) :
    s.Named place fields ↔ Lasting history :=
  forall_congr' fun name => imp_congr (h.generated name) (h.names name)

end FieldChange

theorem Request.of_generated_ok {r filled : Request} {draws : DrawTable}
    {context : Generator.Context} (h : r.generated draws context = .ok filled) :
    r.generators.fill .header draws context r.headers = .ok filled.headers
      ∧ r.generators.fill .query draws context r.query = .ok filled.query := by
  obtain ⟨headers, hheaders, h⟩ := exists_of_bind_ok h
  obtain ⟨query, hquery, h⟩ := exists_of_bind_ok h
  obtain ⟨path, -, h⟩ := exists_of_bind_ok h
  cases h
  exact ⟨hheaders, hquery⟩

theorem Response.of_generated_ok {r filled : Response} {draws : DrawTable}
    {context : Generator.Context} (h : r.generated draws context = .ok filled) :
    r.generators.fill .header draws context r.headers = .ok filled.headers := by
  obtain ⟨headers, hheaders, h⟩ := exists_of_bind_ok h
  obtain ⟨status, -, h⟩ := exists_of_bind_ok h
  cases h
  exact hheaders

/-- Whatever has been done to a request or a response: every generator for a header or a query
parameter has its field exactly if no field that was given together with a generator has been lost
since, be it to a body that was declared anew or to a query that replaced all parameters. And where
values are generated, the names are those of before exactly if each generator that came up with a
value has its field; otherwise fields are added. -/
theorem generators_named_iff_lasting (c : Config) (asked : List RequestChange)
    (answered : List ResponseChange) :
    let r := (RequestDraft.ofChanges c asked).build
    let answer := (ResponseDraft.ofChanges c answered).build
    (r.generators.Named .header r.headers ↔
      FieldChange.Lasting (RequestDraft.headerHistory c asked))
    ∧ (r.generators.Named .query r.query ↔
      FieldChange.Lasting (RequestDraft.queryHistory c asked))
    ∧ (answer.generators.Named .header answer.headers ↔
      FieldChange.Lasting (ResponseDraft.headerHistory c answered))
    ∧ (∀ draws context filled, r.generated draws context = .ok filled →
      (Keyed.keys filled.headers = Keyed.keys r.headers ↔ ∀ e ∈ r.generators.forPlace .header,
        GeneratorSet.Gives .header draws context e → e.1 ∈ Keyed.keys r.headers)
      ∧ (Keyed.keys filled.query = Keyed.keys r.query ↔ ∀ e ∈ r.generators.forPlace .query,
        GeneratorSet.Gives .query draws context e → e.1 ∈ Keyed.keys r.query))
    ∧ ∀ draws context filled, answer.generated draws context = .ok filled →
      (Keyed.keys filled.headers = Keyed.keys answer.headers ↔
        ∀ e ∈ answer.generators.forPlace .header,
          GeneratorSet.Gives .header draws context e → e.1 ∈ Keyed.keys answer.headers) := by
  intro r answer
  refine ⟨(RequestDraft.tells_ofChanges c asked).named_iff,
    (RequestDraft.tellsQuery_ofChanges c asked).named_iff,
    (ResponseDraft.tells_ofChanges c answered).named_iff,
    fun draws context filled h => ?_, fun draws context filled h => ?_⟩
  · obtain ⟨hheaders, hquery⟩ := Request.of_generated_ok h
    exact ⟨GeneratorSet.keys_fill_eq_iff hheaders, GeneratorSet.keys_fill_eq_iff hquery⟩
  · exact GeneratorSet.keys_fill_eq_iff (Response.of_generated_ok h)

/-- The parameter that the query was given anew without comes back. The header of the answer stands and
takes its value from the provider. -/
theorem generators_named_iff_lasting_order :
    let asked : List RequestChange :=
      [.edit (.queryFromState "page" "page" "1"), .edit (.query "q=1")]
    let answered : List ResponseChange := [.edit (.part (.headerFromState "Id" "id" "1"))]
    let r := (RequestDraft.ofChanges .standard asked).build
    let answer := (ResponseDraft.ofChanges .standard answered).build
    let draws : DrawTable := fun _ _ _ => 0
    let context := [(Value.text "providerState",
      Value.record [("page", .text "2"), ("id", .text "7")])]
    ¬FieldChange.Lasting (RequestDraft.queryHistory .standard asked)
      ∧ FieldChange.Lasting (ResponseDraft.headerHistory .standard answered)
      ∧ (∃ filled, r.generated draws context = .ok filled
        ∧ Keyed.keys filled.headers = Keyed.keys r.headers
        ∧ Keyed.keys filled.query ≠ Keyed.keys r.query)
      ∧ ∃ filled, answer.generated draws context = .ok filled
        ∧ Keyed.keys filled.headers = Keyed.keys answer.headers := by
  intro asked answered r answer draws context
  obtain ⟨-, hquery, hheader, hasked, hanswered⟩ :=
    generators_named_iff_lasting .standard asked answered
  have hlost : ("page", .providerState "page" .text) ∈ r.generators.forPlace .query := by
    decide +kernel
  have hno : "page" ∉ Keyed.keys r.query := by decide +kernel
  have hnamed : answer.generators.Named .header answer.headers := by
    unfold GeneratorSet.Named
    decide +kernel
  obtain ⟨filled, hfilled⟩ : ∃ filled, r.generated draws context = .ok filled := by
    with_unfolding_all exact ⟨_, rfl⟩
  obtain ⟨told, htold⟩ : ∃ filled, answer.generated draws context = .ok filled := by
    with_unfolding_all exact ⟨_, rfl⟩
  refine ⟨fun h => hno (hquery.mpr h "page" (List.mem_map_of_mem hlost)), hheader.mp hnamed,
    ⟨filled, hfilled, (hasked draws context filled hfilled).1.mpr fun e he _ => ?_, fun heq => ?_⟩,
    told, htold, (hanswered draws context told htold).mpr fun e he _ =>
      hnamed e.1 (List.mem_map_of_mem he)⟩
  · cases he
  · have hgives : GeneratorSet.Gives .query draws context ("page", .providerState "page" .text) :=
      ⟨.text "2", by with_unfolding_all rfl, Value.noConfusion⟩
    exact hno ((hasked draws context filled hfilled).2.mp heq _ hlost hgives)

/-- A header given with a generator goes when the body is declared anew, and a parameter when the
query is replaced. The generators stay, and bring both back. -/
theorem lost_fields_come_back :
    let changes : List RequestChange :=
      [.edit (.part (.headerFromState "content-type" "type" "text/plain")),
        .edit (.part (.body (.value (.text "x")) (some (.text "text/html")))),
        .edit (.queryFromState "page" "page" "1"), .edit (.query "q=1")]
    let r := (RequestDraft.ofChanges .standard changes).build
    let context := [(Value.text "providerState",
      Value.record [("type", .text "text/css"), ("page", .text "2")])]
    let filled := (r.generated (fun _ _ _ => 0) context).toOption
    Keyed.keys (r.generators.forPlace .header) = ["content-type"]
      ∧ Keyed.keys r.headers = ["Content-Type"]
      ∧ Keyed.keys (r.generators.forPlace .query) = ["page"]
      ∧ Keyed.keys r.query = ["q"]
      ∧ filled.map (fun r => Keyed.keys r.headers) = some ["Content-Type", "content-type"]
      ∧ filled.map (fun r => Keyed.keys r.query) = some ["q", "page"] := by
  decide +kernel

end HttpContract
