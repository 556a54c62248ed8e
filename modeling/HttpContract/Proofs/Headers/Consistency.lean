import HttpContract.Proofs.Headers.Settings
import HttpContract.Proofs.Matching.Keyed

/-!
Does a response satisfy the rules for its own headers? It does where what a header shows is matched by
the pattern that counts for it. A header that is set again without a pattern, or matched under
another spelling, keeps an older pattern, which nothing holds against the new value.
-/
namespace HttpContract

open Editing

theorem PartEdit.reflects_run (kind : PartKind) {e : PartEdit} (he : e.isMatchOrBody = true)
    {history : List Setting} {p : PartDraft} (h : p.Reflects history) :
    PartDraft.Reflects (history ++ (e.setting? kind p).toList) (perform (e.run kind) p).2 := by
  have hsettled := (e.settles_run kind he p).headers
  cases hs : e.setting? kind p with
  | some s =>
    rw [hs] at hsettled
    cases hsettled with
    | set hset => exact h.concat hset (isContentType_setting hs)
  | none =>
    rw [hs] at hsettled
    cases hsettled with
    | same headers rules => exact (List.append_nil history).symm ▸ h.of_same headers rules

/-! ## The rules that count -/

theorem PartDraft.Reflects.compare_iff {history : List Setting} {p : PartDraft}
    (h : p.Reflects history) (name value : String) :
    RuleSet.compare p.rules "header" [name] (.text value) (.text value) = .ok [] ↔
      ∀ s, Setting.counting? history name = some s → s.Fits value := by
  rw [RuleSet.compare_text_of_ne_body (by decide) (RuleSet.applies_header name)]
  have hspelling := h.spelling name
  rw [Keyed.keys, List.find?_map] at hspelling
  change Option.map Prod.fst ((RuleSet.category p.rules "header").find?
    fun e => Text.sameLetters e.1 name) = _ at hspelling
  cases he : (RuleSet.category p.rules "header").find? fun e => Text.sameLetters e.1 name with
  | none =>
    rw [he] at hspelling
    rw [Setting.counting?, ← hspelling]
    simp only [Option.map_none, Option.bind_none, reduceCtorEq, false_implies, implies_true]
  | some e =>
    rw [he] at hspelling
    have hgroup : some e.2 = (Setting.lastMatch? history e.1).bind Setting.group? := by
      rw [← h.group e.1]
      exact ((Keyed.mem_iff_get? h.groups_nodup).mp (List.mem_of_find?_eq_some he)).symm
    obtain ⟨s, hs, hrules⟩ := Option.bind_eq_some_iff.mp hgroup.symm
    obtain ⟨pattern, hpattern, hrules⟩ := Option.map_eq_some_iff.mp hrules
    have hcounting : Setting.counting? history name = some s := by
      rw [Setting.counting?, ← hspelling]
      exact hs
    rw [hcounting]
    simp only [Option.some.injEq, forall_eq']
    rw [← hrules, RuleGroup.check_all_iff, List.forall_mem_singleton, Setting.Fits, hpattern]
    simp only [Option.some.injEq, forall_eq']
    exact Comparison.regex_text_iff

def Response.SatisfiesHeaderRules (r : Response) : Prop :=
  ∀ e ∈ r.headers, ∀ value ∈ e.2,
    r.rules.compare "header" [e.1] (.text value) (.text value) = .ok []

namespace ResponseDraft

def afterParts (d : ResponseDraft) (edits : List PartEdit) : ResponseDraft :=
  after (fun e => (ResponseEdit.part e).run) d edits

def settings (d : ResponseDraft) (edits : List PartEdit) : List Setting :=
  noted (fun e => (ResponseEdit.part e).run) (fun d e => (e.setting? .response d.part).toList) d edits

theorem reflects_afterParts (c : Config) {edits : List PartEdit}
    (h : ∀ e ∈ edits, e.isMatchOrBody = true) :
    ((ofConfig c).afterParts edits).part.Reflects ((ofConfig c).settings edits) :=
  after_relates (R := fun history (d : ResponseDraft) => d.part.Reflects history)
    (fun _ _ e he hr => PartEdit.reflects_run .response (h e he) hr) (PartDraft.reflects_nil c)

theorem fits_json : Setting.json.Fits Setting.json.value := by
  rintro _ ⟨⟩
  exact eq_ok_of_toOption (by decide +kernel)

/-- A response that was put together by matching headers and setting bodies satisfies the rules of its
headers if and only if what each header shows is matched by the pattern that counts for it. Where
matched headers are only matched again, under the same spelling, that is so. -/
theorem satisfiesHeaderRules_iff (c : Config) {edits : List PartEdit}
    (h : ∀ e ∈ edits, e.isMatchOrBody = true) :
    let history := (ofConfig c).settings edits
    let response := ((ofConfig c).afterParts edits).build
    (response.SatisfiesHeaderRules ↔
      ∀ name shown, Setting.lastAt? history name = some shown →
        ∀ s, Setting.counting? history name = some s → s.Fits shown.value)
    ∧ ((∀ s ∈ history, s ≠ .json → s.Fits s.value) → Setting.Steady history →
      response.SatisfiesHeaderRules) := by
  intro history response
  have hr : ((ofConfig c).afterParts edits).part.Reflects history := reflects_afterParts c h
  have hiff : response.SatisfiesHeaderRules ↔
      ∀ name shown, Setting.lastAt? history name = some shown →
        ∀ s, Setting.counting? history name = some s → s.Fits shown.value := by
    constructor
    · intro hall name shown hshown
      have hmem : (name, [shown.value]) ∈ response.headers := by
        refine (Keyed.mem_iff_get? hr.headers_nodup).mpr ?_
        rw [hr.header, hshown]
        rfl
      exact (hr.compare_iff name shown.value).mp (hall _ hmem _ List.mem_cons_self)
    · intro hall e he value hvalue
      have hget := (Keyed.mem_iff_get? hr.headers_nodup).mp he
      rw [hr.header] at hget
      obtain ⟨shown, hshown, hvalues⟩ := Option.map_eq_some_iff.mp hget
      rw [← hvalues, List.mem_singleton] at hvalue
      subst hvalue
      exact (hr.compare_iff e.1 shown.value).mpr (hall e.1 shown hshown)
  refine ⟨hiff, fun hfits hsteady => hiff.mpr ?_⟩
  intro name shown hshown s hs
  rw [hsteady.eq_of_counting hr.declared hshown hs]
  by_cases hjson : shown = .json
  · exact hjson ▸ fits_json
  · obtain ⟨before, after, hhistory, -⟩ := Setting.exists_of_lastAt? hshown
    exact hfits shown (hhistory ▸ List.mem_append_right before List.mem_cons_self) hjson

/-- A header that is matched once, and a JSON body that nothing else declares. -/
theorem satisfiesHeaderRules_matched_json :
    let edits := [PartEdit.matchHeader "X-Id" "[0-9]+" (some "12"), .body (.value (.map [])) none]
    (∀ e ∈ edits, e.isMatchOrBody = true)
    ∧ (ofConfig .standard).settings edits = [⟨"X-Id", "12", some "[0-9]+"⟩, .json]
    ∧ ((ofConfig .standard).afterParts edits).build.SatisfiesHeaderRules := by
  intro edits
  have hedits : ∀ e ∈ edits, e.isMatchOrBody = true := by decide +kernel
  have hsettings : (ofConfig .standard).settings edits =
      [⟨"X-Id", "12", some "[0-9]+"⟩, .json] := rfl
  refine ⟨hedits, hsettings, (satisfiesHeaderRules_iff .standard hedits).2 ?_ ?_⟩
  · rw [hsettings]
    refine List.forall_mem_cons.mpr ⟨fun _ => ?_, List.forall_mem_singleton.mpr fun h => absurd rfl h⟩
    rintro _ ⟨⟩
    exact eq_ok_of_toOption (by decide +kernel)
  · rw [hsettings]
    refine List.pairwise_pair.mpr fun _ h => absurd h ?_
    decide +kernel

/-- A content type that is matched as text and replaced by bytes of another type: the pattern stays,
and the header has a mismatch by its own rule. -/
theorem binary_body_keeps_pattern :
    let edits := [PartEdit.matchHeader "Content-Type" "text/[a-z]+" (some "text/plain"),
      .binaryBody (.bytes [0x89, 0x50]) (.text "image/png")]
    (∀ e ∈ edits, e.isMatchOrBody = true)
    ∧ Regex.fullMatch "text/[a-z]+" "text/plain".toList = .ok true
    ∧ ((ofConfig .standard).afterParts edits).build.headers = [("Content-Type", ["image/png"])]
    ∧ ¬((ofConfig .standard).afterParts edits).build.SatisfiesHeaderRules := by
  intro edits
  have hheaders : ((ofConfig .standard).afterParts edits).build.headers =
      [("Content-Type", ["image/png"])] := rfl
  have hfound : (RuleSet.compare ((ofConfig .standard).afterParts edits).build.rules "header"
      ["Content-Type"] (.text "image/png") (.text "image/png")).toOption.map List.length = some 1 := by
    decide +kernel
  refine ⟨by decide +kernel, eq_ok_of_toOption (by decide +kernel), hheaders, fun h => ?_⟩
  have hmem : ("Content-Type", ["image/png"]) ∈ ((ofConfig .standard).afterParts edits).build.headers :=
    hheaders ▸ List.mem_cons_self
  rw [h _ hmem "image/png" List.mem_cons_self] at hfound
  cases hfound

end ResponseDraft

end HttpContract
