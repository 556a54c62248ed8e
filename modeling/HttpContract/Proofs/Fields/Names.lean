import HttpContract.Proofs.Draft.Matches
import HttpContract.Proofs.Headers.Settings

/-!
The names of headers and of query parameters, told from what has happened to them: a name is there
if it was given at some time and has not been dropped since, and it has a generator if it was ever
given together with one.
-/
namespace HttpContract

open Editing

theorem Keyed.mem_keys_foldl_put {α β γ : Type} [DecidableEq α] (f : γ → β) (m : Keyed α β)
    (entries : Keyed α γ) (key : α) :
    key ∈ keys (entries.foldl (fun m e => put m e.1 (f e.2)) m) ↔
      key ∈ keys entries ∨ key ∈ keys m := by
  induction entries generalizing m with
  | nil => exact (or_iff_right List.not_mem_nil).symm
  | cons e rest ih =>
    have hkeys : key ∈ keys (e :: rest) ↔ key = e.1 ∨ key ∈ keys rest := List.mem_cons
    rw [List.foldl_cons, ih, mem_keys_put, hkeys]
    simp only [or_comm, or_left_comm, or_assoc]

theorem Keyed.nodup_keys_foldl_put {α β γ : Type} [DecidableEq α] (f : γ → β) {m : Keyed α β}
    (h : (keys m).Nodup) (entries : Keyed α γ) :
    (keys (entries.foldl (fun m e => put m e.1 (f e.2)) m)).Nodup := by
  induction entries generalizing m with
  | nil => exact h
  | cons e rest ih => exact ih (nodup_keys_put h e.1 (f e.2))

theorem Query.nodup_keys_read (s : String) : (Keyed.keys (Query.read s)).Nodup := by
  have hfold (pairs : List (String × String)) (q : Fields) (h : (Keyed.keys q).Nodup) :
      (Keyed.keys (pairs.foldl (fun q e => addValue q e.1 e.2) q)).Nodup := by
    induction pairs generalizing q with
    | nil => exact h
    | cons e rest ih => exact ih (addValue q e.1 e.2) (Keyed.nodup_keys_put h _ _)
  exact hfold _ [] List.nodup_nil

inductive FieldChange
  /-- These get values. -/
  | set (names : List String)
  /-- This one gets a value, and a generator under its name. -/
  | generate (name : String)
  /-- `Content-Type` takes the place of all its spellings. -/
  | declare
  /-- These take the place of all others. -/
  | replace (names : List String)
  deriving DecidableEq

namespace FieldChange

def given : FieldChange → List String
  | set names | replace names => names
  | generate name => [name]
  | declare => [Fields.contentType]

def drops : FieldChange → String → Bool
  | declare, name => Fields.isContentType name
  | replace _, _ => true
  | set _, _ | generate _, _ => false

/-- A field of this name has been given and has not been dropped since. -/
def Stands (history : List FieldChange) (name : String) : Prop :=
  ∃ before c after, history = before ++ c :: after ∧ name ∈ c.given ∧ ∀ d ∈ after, d.drops name = false

theorem not_stands_nil (name : String) : ¬Stands [] name := by
  rintro ⟨before, c, after, h, -⟩
  exact List.append_ne_nil_of_right_ne_nil before (List.cons_ne_nil c after) h.symm

theorem stands_concat {history : List FieldChange} {c : FieldChange} {name : String} :
    Stands (history ++ [c]) name ↔ name ∈ c.given ∨ Stands history name ∧ c.drops name = false := by
  constructor
  · rintro ⟨before, d, after, h, hgiven, hkept⟩
    rcases List.eq_nil_or_concat after with rfl | ⟨after, last, rfl⟩
    · obtain ⟨-, hc⟩ := List.append_inj' h rfl
      cases hc
      exact .inl hgiven
    · rw [List.concat_eq_append, ← List.cons_append, ← List.append_assoc] at h
      obtain ⟨rfl, hc⟩ := List.append_inj' h rfl
      cases hc
      rw [List.concat_eq_append] at hkept
      exact .inr ⟨⟨before, d, after, rfl, hgiven, fun e he =>
        hkept e (List.mem_append_left _ he)⟩, hkept c (List.mem_append_right _ List.mem_cons_self)⟩
  · rintro (hgiven | ⟨⟨before, d, after, rfl, hgiven, hkept⟩, hc⟩)
    · exact ⟨history, c, [], rfl, hgiven, fun _ h => absurd h List.not_mem_nil⟩
    · refine ⟨before, d, after ++ [c], List.append_assoc .., hgiven, fun e he => ?_⟩
      rcases List.mem_append.mp he with he | he
      · exact hkept e he
      · exact List.mem_singleton.mp he ▸ hc

/-- Fields and their generators are as this history has left them. -/
structure Tells (history : List FieldChange) (fields : Fields) (generators : Keyed String Generator) :
    Prop where
  distinct : (Keyed.keys fields).Nodup
  names : ∀ name, name ∈ Keyed.keys fields ↔ Stands history name
  generated : ∀ name, name ∈ Keyed.keys generators ↔ .generate name ∈ history

variable {history : List FieldChange} {fields fields' : Fields}
  {generators generators' : Keyed String Generator}

theorem tells_nil : Tells [] [] [] where
  distinct := List.nodup_nil
  names name := iff_of_false List.not_mem_nil (not_stands_nil name)
  generated _ := iff_of_false List.not_mem_nil List.not_mem_nil

theorem Tells.concat (h : Tells history fields generators) {c : FieldChange}
    (hn : (Keyed.keys fields').Nodup)
    (hf : ∀ name, name ∈ Keyed.keys fields' ↔
      name ∈ c.given ∨ name ∈ Keyed.keys fields ∧ c.drops name = false)
    (hg : ∀ name, name ∈ Keyed.keys generators' ↔
      name ∈ Keyed.keys generators ∨ c = .generate name) :
    Tells (history ++ [c]) fields' generators' where
  distinct := hn
  names name := by rw [hf, h.names, stands_concat]
  generated name := by
    rw [hg, h.generated, List.mem_append, List.mem_singleton, eq_comm (a := c)]

theorem Tells.concat_set (h : Tells history fields generators) {names : List String}
    (hn : (Keyed.keys fields').Nodup)
    (hf : ∀ name, name ∈ Keyed.keys fields' ↔ name ∈ names ∨ name ∈ Keyed.keys fields) :
    Tells (history ++ [.set names]) fields' generators :=
  h.concat hn (fun name => by simp only [hf, given, drops, and_true])
    fun name => by simp only [reduceCtorEq, or_false]

theorem Tells.concat_generate (h : Tells history fields generators) (name : String)
    (values : List String) (g : Generator) :
    Tells (history ++ [.generate name]) (Keyed.put fields name values)
      (Keyed.put generators name g) :=
  h.concat (Keyed.nodup_keys_put h.distinct name values)
    (fun other => by
      simp only [Keyed.mem_keys_put, given, drops, and_true, List.mem_singleton, or_comm])
    fun other => by simp only [Keyed.mem_keys_put, generate.injEq, eq_comm]

theorem Tells.append_nil (h : Tells history fields generators) :
    Tells (history ++ []) fields generators := (List.append_nil history).symm ▸ h

end FieldChange

/-! ## The headers of a part -/

def Setting.change (s : Setting) : FieldChange :=
  if Fields.isContentType s.name then .declare else .set [s.name]

def PartEdit.headerChanges (kind : PartKind) (p : PartDraft) : PartEdit → List FieldChange
  | headers entries => [.set (Keyed.keys entries)]
  | headerFromState name _ _ => [.generate name]
  | e => (e.setting? kind p).toList.map Setting.change

namespace PartDraft

def Tells (history : List FieldChange) (p : PartDraft) : Prop :=
  FieldChange.Tells history p.headers (p.generators.forPlace .header)

theorem Tells.append_nil {history : List FieldChange} {p : PartDraft} (h : p.Tells history) :
    p.Tells (history ++ []) := FieldChange.Tells.append_nil h

theorem mem_keys_declare (p : PartDraft) (mediaType name : String) :
    name ∈ Keyed.keys (p.declare mediaType).headers ↔
      name ∈ FieldChange.declare.given ∨
        name ∈ Keyed.keys p.headers ∧ FieldChange.declare.drops name = false := by
  unfold declare FieldChange.given FieldChange.drops
  rw [Keyed.keys, List.map_append, List.mem_append, or_comm]
  refine or_congr Iff.rfl ?_
  simp only [List.mem_map, List.mem_filter, Keyed.keys, Bool.not_eq_true']
  constructor
  · rintro ⟨e, ⟨he, hno⟩, rfl⟩
    exact ⟨⟨e, he, rfl⟩, hno⟩
  · rintro ⟨⟨e, he, rfl⟩, hno⟩
    exact ⟨e, ⟨he, hno⟩, rfl⟩

theorem mem_keys_setMatchedHeader (p : PartDraft) (s : Setting) (name : String) :
    name ∈ Keyed.keys (p.setMatchedHeader s.name s.value).headers ↔
      name ∈ s.change.given ∨ name ∈ Keyed.keys p.headers ∧ s.change.drops name = false := by
  unfold setMatchedHeader Setting.change
  by_cases hc : Fields.isContentType s.name
  · rw [if_pos hc, if_pos hc]
    exact mem_keys_declare p s.value name
  · rw [if_neg hc, if_neg hc]
    simp only [Keyed.mem_keys_put, FieldChange.given, FieldChange.drops, and_true,
      List.mem_singleton, or_comm]

end PartDraft

/-- Every edit of a part leaves its changes behind, whether it succeeds or not. -/
theorem PartEdit.tells_run (kind : PartKind) (e : PartEdit) {history : List FieldChange}
    {p : PartDraft} (h : p.Tells history) :
    PartDraft.Tells (history ++ e.headerChanges kind p) (perform (e.run kind) p).2 := by
  have hsettled (he : e.isMatchOrBody = true) :
      PartDraft.Tells (history ++ (e.setting? kind p).toList.map Setting.change)
        (perform (e.run kind) p).2 := by
    obtain ⟨hheaders, hgenerators⟩ := e.settles_run kind he p
    rw [PartDraft.Tells, hgenerators .header (by decide)]
    generalize e.setting? kind p = setting? at hheaders ⊢
    cases hheaders with
    | @set s q hset =>
      refine FieldChange.Tells.concat h ?_ (fun name => ?_) fun name => ?_
      · rw [hset.headers]
        exact PartDraft.nodup_keys_setMatchedHeader h.distinct s.name s.value
      · rw [hset.headers]
        exact PartDraft.mem_keys_setMatchedHeader p s name
      · rw [Setting.change]
        split <;> simp
    | same headers =>
      rw [headers]
      exact h.append_nil
  cases e with
  | headers entries =>
    exact FieldChange.Tells.concat_set h
      (Keyed.nodup_keys_foldl_put (fun value => [value]) h.distinct entries)
      (Keyed.mem_keys_foldl_put (fun value => [value]) p.headers entries)
  | headerFromState name expression shown =>
    have hadded : (perform ((headerFromState name expression shown).run kind) p).2.generators.forPlace
        .header = Keyed.put (p.generators.forPlace .header) name (.providerState expression .text) :=
      (GeneratorSet.forPlace_add ..).trans (if_pos rfl)
    rw [PartDraft.Tells, hadded]
    exact FieldChange.Tells.concat_generate h name [shown] _
  | _ => exact hsettled rfl

theorem PartEdit.forPlace_run (kind : PartKind) (e : PartEdit) (p : PartDraft) {place : Place}
    (hheader : place ≠ .header) (hbody : place ≠ .body) :
    (perform (e.run kind) p).2.generators.forPlace place = p.generators.forPlace place := by
  cases e with
  | headers entries => rfl
  | headerFromState name expression shown =>
    exact (GeneratorSet.forPlace_add ..).trans (if_neg hheader.symm)
  | _ => exact (settles_run kind rfl p).generators place hbody

/-! ## Requests -/

namespace RequestChange

def headerChanges (d : RequestDraft) : RequestChange → List FieldChange
  | edit (.part e) => e.headerChanges .request d.part
  | _ => []

def queryChanges (d : RequestDraft) : RequestChange → List FieldChange
  | edit (.query s) => [.replace (Keyed.keys (Query.read s))]
  | edit (.matchQuery name pattern shown) =>
    match (perform (PartDraft.exampleFor pattern shown) d.part).1 with
    | .ok _ => [.set [name]]
    | .error _ => []
  | edit (.queryFromState name _ _) => [.generate name]
  | _ => []

end RequestChange

namespace RequestDraft

def headerHistory (c : Config) (changes : List RequestChange) : List FieldChange :=
  noted RequestChange.run RequestChange.headerChanges (.ofConfig c) changes

def queryHistory (c : Config) (changes : List RequestChange) : List FieldChange :=
  noted RequestChange.run RequestChange.queryChanges (.ofConfig c) changes

def TellsQuery (history : List FieldChange) (d : RequestDraft) : Prop :=
  FieldChange.Tells history d.query (d.part.generators.forPlace .query)

variable {history : List FieldChange} {d : RequestDraft}

theorem part_match (m : RequestMatch) (d : RequestDraft) :
    (perform m.run d).2.part.headers = d.part.headers
      ∧ (perform m.run d).2.part.generators = d.part.generators := by
  obtain ⟨asked, hasked⟩ := PartDraft.exists_asked_exampleFor d.part m.pattern m.shown
  have hheaders : (d.afterExample m.pattern m.shown).part.headers = d.part.headers := by
    rw [afterExample, hasked]
  have hgenerators : (d.afterExample m.pattern m.shown).part.generators = d.part.generators := by
    rw [afterExample, hasked]
  rw [perform_match]
  obtain ⟨place, pattern, shown⟩ := m
  split
  · cases place <;> exact ⟨hheaders, hgenerators⟩
  · exact ⟨hheaders, hgenerators⟩

theorem query_match (m : RequestMatch) (d : RequestDraft) :
    (perform m.run d).2.query =
      match m.place, (perform (PartDraft.exampleFor m.pattern m.shown) d.part).1 with
      | .parameter name, .ok s => Keyed.put d.query name [s]
      | _, _ => d.query := by
  rw [perform_match]
  obtain ⟨place, pattern, shown⟩ := m
  cases (perform (PartDraft.exampleFor pattern shown) d.part).1 with
  | ok s => cases place <;> rfl
  | error e => cases place <;> rfl

theorem forPlace_addGenerator (d : RequestDraft) (place : Place) (key expression : String)
    {other : Place} (h : place ≠ other) :
    (d.addGenerator place key expression).part.generators.forPlace other =
      d.part.generators.forPlace other :=
  (GeneratorSet.forPlace_add ..).trans (if_neg h)

theorem tells_match (h : d.part.Tells history) (m : RequestMatch) :
    (perform m.run d).2.part.Tells history := by
  obtain ⟨hheaders, hgenerators⟩ := part_match m d
  rw [PartDraft.Tells, hheaders, hgenerators]
  exact h

theorem tells_change (change : RequestChange) (h : d.part.Tells history) :
    PartDraft.Tells (history ++ change.headerChanges d) (perform change.run d).2.part := by
  have hadded (place : Place) (key expression : String) (hp : place ≠ .header) :
      (d.addGenerator place key expression).part.Tells history := by
    rw [PartDraft.Tells, forPlace_addGenerator d place key expression hp]
    exact h
  cases change with
  | copy c => exact h.append_nil
  | edit e =>
    cases e with
    | part e => exact e.tells_run .request h
    | method s => exact h.append_nil
    | query s => exact h.append_nil
    | matchQuery name pattern shown =>
      exact (tells_match h ⟨.parameter name, pattern, shown⟩).append_nil
    | queryFromState name expression shown =>
      exact (hadded .query name expression (by decide)).append_nil
  | editPath e =>
    cases e with
    | path s => exact h.append_nil
    | matchPath pattern shown => exact (tells_match h ⟨.path, pattern, shown⟩).append_nil
    | pathFromState expression shown => exact (hadded .path "" expression (by decide)).append_nil

theorem TellsQuery.append_nil (h : d.TellsQuery history) : d.TellsQuery (history ++ []) :=
  FieldChange.Tells.append_nil h

theorem tellsQuery_matchQuery (h : d.TellsQuery history) (name pattern : String)
    (shown : Option String) :
    TellsQuery (history ++ (RequestChange.edit (.matchQuery name pattern shown)).queryChanges d)
      (perform (RequestEdit.matchQuery name pattern shown).run d).2 := by
  have hquery : (perform (RequestEdit.matchQuery name pattern shown).run d).2.query = _ :=
    query_match ⟨.parameter name, pattern, shown⟩ d
  have hgenerators : (perform (RequestEdit.matchQuery name pattern shown).run d).2.part.generators =
      d.part.generators := (part_match ⟨.parameter name, pattern, shown⟩ d).2
  rw [TellsQuery, hquery, hgenerators, RequestChange.queryChanges]
  dsimp only
  cases (perform (PartDraft.exampleFor pattern shown) d.part).1 with
  | ok s =>
    exact FieldChange.Tells.concat_set h (Keyed.nodup_keys_put h.distinct name [s]) fun other => by
      rw [Keyed.mem_keys_put, List.mem_singleton, or_comm]
  | error e => exact h.append_nil

theorem tellsQuery_change (change : RequestChange) (h : d.TellsQuery history) :
    TellsQuery (history ++ change.queryChanges d) (perform change.run d).2 := by
  cases change with
  | copy c => exact h.append_nil
  | edit e =>
    cases e with
    | part e =>
      have hother : (perform (e.run .request) d.part).2.generators.forPlace .query =
          d.part.generators.forPlace .query := e.forPlace_run .request d.part (by decide) (by decide)
      refine TellsQuery.append_nil ?_
      rw [TellsQuery, ← hother] at h
      exact h
    | method s => exact h.append_nil
    | query s =>
      refine FieldChange.Tells.concat h (Query.nodup_keys_read s) (fun name => ?_) fun name => ?_
      · simp only [FieldChange.given, FieldChange.drops, Bool.true_eq_false, and_false, or_false]
        rfl
      · simp only [reduceCtorEq, or_false]
        rfl
    | matchQuery name pattern shown => exact tellsQuery_matchQuery h name pattern shown
    | queryFromState name expression shown =>
      have hadded : (d.addGenerator .query name expression).part.generators.forPlace .query =
          Keyed.put (d.part.generators.forPlace .query) name (.providerState expression .text) :=
        (GeneratorSet.forPlace_add ..).trans (if_pos rfl)
      have := FieldChange.Tells.concat_generate h name [shown] (.providerState expression .text)
      rw [← hadded] at this
      exact this
  | editPath e =>
    cases e with
    | path s => exact h.append_nil
    | matchPath pattern shown =>
      have hquery : (perform (PathEdit.matchPath pattern shown).run d).2.query = d.query :=
        query_match ⟨.path, pattern, shown⟩ d
      have hgenerators : (perform (PathEdit.matchPath pattern shown).run d).2.part.generators =
          d.part.generators := (part_match ⟨.path, pattern, shown⟩ d).2
      refine TellsQuery.append_nil ?_
      rw [TellsQuery, ← hquery, ← hgenerators] at h
      exact h
    | pathFromState expression shown =>
      refine TellsQuery.append_nil ?_
      rw [TellsQuery, ← forPlace_addGenerator d .path "" expression (by decide)] at h
      exact h

theorem tells_ofChanges (c : Config) (changes : List RequestChange) :
    (ofChanges c changes).part.Tells (headerHistory c changes) :=
  after_relates (R := fun history (d : RequestDraft) => d.part.Tells history)
    (fun _ _ change _ h => tells_change change h) FieldChange.tells_nil

theorem tellsQuery_ofChanges (c : Config) (changes : List RequestChange) :
    (ofChanges c changes).TellsQuery (queryHistory c changes) :=
  after_relates (R := TellsQuery) (fun _ _ change _ h => tellsQuery_change change h)
    FieldChange.tells_nil

end RequestDraft

/-! ## Responses -/

def ResponseChange.headerChanges (d : ResponseDraft) : ResponseChange → List FieldChange
  | edit (.part e) => e.headerChanges .response d.part
  | edit (.matchCookie _ _ _) => [.set [ResponseDraft.cookieHeader]]
  | _ => []

namespace ResponseDraft

def headerHistory (c : Config) (changes : List ResponseChange) : List FieldChange :=
  noted ResponseChange.run ResponseChange.headerChanges (.ofConfig c) changes

theorem tells_change {history : List FieldChange} {d : ResponseDraft} (change : ResponseChange)
    (h : d.part.Tells history) :
    PartDraft.Tells (history ++ change.headerChanges d) (perform change.run d).2.part := by
  cases change with
  | copy c => exact h.append_nil
  | edit e =>
    cases e with
    | part e => exact e.tells_run .response h
    | status v => exact h.append_nil
    | matchCookie name pattern shown =>
      exact FieldChange.Tells.concat_set h (Keyed.nodup_keys_put h.distinct _ _) fun other => by
        refine Keyed.mem_keys_put.trans ?_
        rw [List.mem_singleton, or_comm]

theorem tells_ofChanges (c : Config) (changes : List ResponseChange) :
    (ofChanges c changes).part.Tells (headerHistory c changes) :=
  after_relates (R := fun history (d : ResponseDraft) => d.part.Tells history)
    (fun _ _ change _ h => tells_change change h) FieldChange.tells_nil

end ResponseDraft

end HttpContract
