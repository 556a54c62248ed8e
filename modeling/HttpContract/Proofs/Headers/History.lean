import HttpContract.Proofs.Body.Declaration
import HttpContract.Proofs.Draft.Rules

/-!
The headers of a part as a history of settings. A header shows the value that was set last. Its rule
is another matter: of the names with the same letters the one that was matched first counts, with the
pattern that was given last under it.
-/
namespace HttpContract

open Editing

structure Setting where
  name : String
  value : String
  pattern? : Option String

namespace Setting

/-- The name under which the value stands. All spellings of the content type share one. -/
def place (s : Setting) : String :=
  if Fields.isContentType s.name then Fields.contentType else s.name

def isMatch (s : Setting) : Bool := s.pattern?.isSome

def Fits (s : Setting) (value : String) : Prop :=
  ∀ pattern, s.pattern? = some pattern → Regex.fullMatch pattern value.toList = .ok true

def group? (s : Setting) : Option RuleGroup :=
  s.pattern?.map fun pattern => ⟨[.regex pattern (some s.value)], .all⟩

def json : Setting := ⟨Fields.contentType, MediaType.applicationJson, some jsonTypePattern⟩

theorem place_eq_or (s : Setting) (place : String) (h : s.place = place) :
    place = Fields.contentType ∨ Fields.isContentType place = false := by
  rw [Setting.place] at h
  split at h
  · exact .inl h.symm
  · rename_i hname
    exact .inr (h ▸ Bool.eq_false_iff.mpr hname)

/-- The place of a header has the letters of its name. -/
theorem sameLetters_place (s : Setting) : Text.sameLetters s.name s.place = true := by
  rw [place]
  split
  · assumption
  · exact beq_self_eq_true _

/-! ## Histories -/

variable (history : List Setting) (s : Setting)

def lastAt? (place : String) : Option Setting := history.reverse.find? fun s => s.place = place

def lastMatch? (name : String) : Option Setting :=
  history.reverse.find? fun s => s.isMatch && s.name = name

def spelling? (name : String) : Option String :=
  (history.find? fun s => s.isMatch && Text.sameLetters s.name name).map Setting.name

def counting? (name : String) : Option Setting := (spelling? history name).bind (lastMatch? history)

theorem lastAt?_concat (place : String) :
    lastAt? (history ++ [s]) place = if s.place = place then some s else lastAt? history place := by
  rw [lastAt?, List.reverse_concat, List.find?_cons]
  by_cases h : s.place = place
  · rw [decide_eq_true h, if_pos h]
  · rw [decide_eq_false h, if_neg h]
    rfl

theorem lastMatch?_concat (name : String) :
    lastMatch? (history ++ [s]) name =
      if s.isMatch ∧ s.name = name then some s else lastMatch? history name := by
  rw [lastMatch?, List.reverse_concat, List.find?_cons]
  by_cases h : s.isMatch ∧ s.name = name
  · rw [if_pos h, h.1, decide_eq_true h.2]
    rfl
  · rw [if_neg h, ← Bool.decide_coe s.isMatch, ← Bool.decide_and, decide_eq_false h]
    rfl

theorem spelling?_concat (name : String) :
    spelling? (history ++ [s]) name = (spelling? history name).or
      (if s.isMatch ∧ Text.sameLetters s.name name then some s.name else none) := by
  rw [spelling?, spelling?, List.find?_append, Option.map_or, List.find?_singleton]
  simp only [Bool.and_eq_true]
  split <;> rfl

/-- The header of a content type stands in one place only. -/
theorem lastAt?_eq_none {place : String} (h : Fields.isContentType place = true)
    (hne : place ≠ Fields.contentType) : lastAt? history place = none := by
  refine List.find?_eq_none.mpr fun s _ hs => ?_
  obtain he | hn := place_eq_or s place (of_decide_eq_true hs)
  · exact hne he
  · cases h.symm.trans hn

/-! ## Steady histories -/

/-- A header that has been matched is only ever matched again, and under the same spelling. -/
def Steady : Prop :=
  history.Pairwise fun earlier later => earlier.isMatch = true →
    Text.sameLetters later.name earlier.name = true → later.isMatch = true ∧ later.name = earlier.name

variable {history} {s}

theorem exists_of_lastAt? {place : String} {shown : Setting}
    (h : lastAt? history place = some shown) :
    ∃ before after, history = before ++ shown :: after ∧ shown.place = place
      ∧ ∀ s ∈ after, s.place ≠ place := by
  obtain ⟨hplace, as, bs, hreverse, hnone⟩ := List.find?_eq_some_iff_append.mp h
  refine ⟨bs.reverse, as.reverse, ?_, of_decide_eq_true hplace, fun s hs he => ?_⟩
  · have := congrArg List.reverse hreverse
    simpa using this
  · have := hnone s (List.mem_reverse.mp hs)
    simp [he] at this

theorem isContentType_of_sameLetters {a b : String} (h : Text.sameLetters a b = true) :
    Fields.isContentType a = Fields.isContentType b := by
  unfold Fields.isContentType Text.sameLetters
  rw [eq_of_beq h]

/-- A match that is shown is the last one under its own spelling. -/
theorem lastMatch?_of_lastAt? {place : String} {shown : Setting}
    (h : lastAt? history place = some shown) (hs : shown.isMatch = true) :
    lastMatch? history shown.name = some shown := by
  obtain ⟨before, after, rfl, hplace, hafter⟩ := exists_of_lastAt? h
  have hlater : after.reverse.find? (fun s => s.isMatch && s.name = shown.name) = none := by
    refine List.find?_eq_none.mpr fun d hd hm => ?_
    have hname : d.name = shown.name := of_decide_eq_true (Bool.and_eq_true_iff.mp hm).2
    refine hafter d (List.mem_reverse.mp hd) ?_
    rw [← hplace, Setting.place, Setting.place, hname]
  rw [lastMatch?, List.reverse_append, List.reverse_cons, List.append_assoc, List.find?_append,
    hlater, List.singleton_append, List.find?_cons, hs, decide_eq_true rfl]
  rfl

/-- In a steady history the match that counts for a header is the setting that it shows. -/
theorem Steady.eq_of_counting (h : Steady history)
    (hdeclared : ∀ s ∈ history, s.isMatch = false → Fields.isContentType s.name = true)
    {name : String} {shown : Setting} (hlast : lastAt? history name = some shown)
    (hcounting : counting? history name = some s) : s = shown := by
  obtain ⟨spelling, hspelling, hmatch⟩ := Option.bind_eq_some_iff.mp hcounting
  obtain ⟨first, hfirst, rfl⟩ := Option.map_eq_some_iff.mp hspelling
  obtain ⟨before, after, hhistory, hplace, hafter⟩ := exists_of_lastAt? hlast
  have hf := List.find?_some hfirst
  rw [Bool.and_eq_true] at hf
  have hletters : Text.sameLetters shown.name name = true := hplace ▸ sameLetters_place shown
  have hsame : Text.sameLetters shown.name first.name = true :=
    beq_iff_eq.mpr ((eq_of_beq hletters).trans (eq_of_beq hf.2).symm)
  have hbefore : first ∈ before → shown.isMatch = true ∧ shown.name = first.name := by
    intro hm
    rw [hhistory] at h
    exact (List.pairwise_append.mp h).2.2 first hm shown List.mem_cons_self hf.1 hsame
  have hmem : first ∈ before ++ shown :: after := hhistory ▸ List.mem_of_find?_eq_some hfirst
  cases hs : shown.isMatch with
  | true =>
    have hname : shown.name = first.name := by
      rw [hhistory, List.find?_append, List.find?_cons, hs, hletters] at hfirst
      obtain hb | ⟨-, hb⟩ := Option.or_eq_some_iff.mp hfirst
      · exact (hbefore (List.mem_of_find?_eq_some hb)).2
      · exact congrArg Setting.name (Option.some.inj hb)
    rw [← hname, lastMatch?_of_lastAt? hlast hs] at hmatch
    exact (Option.some.inj hmatch).symm
  | false =>
    -- What is shown is a declared content type, which no match precedes or follows.
    have hcontent : Fields.isContentType shown.name = true :=
      hdeclared shown (hhistory ▸ List.mem_append_right before List.mem_cons_self) hs
    have hfirstplace : first.place = name := by
      rw [← hplace, place, place, if_pos hcontent,
        if_pos ((isContentType_of_sameLetters hsame).symm.trans hcontent)]
    rcases List.mem_append.mp hmem with hm | hm
    · exact absurd (hbefore hm).1 (by rw [hs]; nofun)
    · rcases List.mem_cons.mp hm with rfl | hm
      · cases hs.symm.trans hf.1
      · exact absurd hfirstplace (hafter first hm)

end Setting

/-! ## What a part has of its history -/

structure PartDraft.Reflects (history : List Setting) (p : PartDraft) : Prop where
  headers_nodup : (Keyed.keys p.headers).Nodup
  header : ∀ place, Keyed.get? p.headers place =
    (Setting.lastAt? history place).map fun s => [s.value]
  groups_nodup : (Keyed.keys (RuleSet.category p.rules "header")).Nodup
  group : ∀ name, Keyed.get? (RuleSet.category p.rules "header") name =
    (Setting.lastMatch? history name).bind Setting.group?
  spelling : ∀ name, (Keyed.keys (RuleSet.category p.rules "header")).find?
    (Text.sameLetters · name) = Setting.spelling? history name
  /-- Only the content type is ever set without a pattern. -/
  declared : ∀ s ∈ history, s.isMatch = false → Fields.isContentType s.name = true

structure PartDraft.Sets (p : PartDraft) (s : Setting) (q : PartDraft) : Prop where
  headers : q.headers = (p.setMatchedHeader s.name s.value).headers
  rules : RuleSet.category q.rules "header" = match s.group? with
    | some group => Keyed.put (RuleSet.category p.rules "header") s.name group
    | none => RuleSet.category p.rules "header"

namespace PartDraft

variable {history : List Setting} {p q : PartDraft} {s : Setting}

theorem reflects_nil (c : Config) : Reflects [] (ofConfig c) where
  headers_nodup := List.nodup_nil
  header _ := rfl
  groups_nodup := List.nodup_nil
  group _ := rfl
  spelling _ := rfl
  declared _ h := absurd h List.not_mem_nil

theorem Reflects.of_same (h : Reflects history p) (hheaders : q.headers = p.headers)
    (hrules : RuleSet.category q.rules "header" = RuleSet.category p.rules "header") :
    Reflects history q where
  headers_nodup := hheaders ▸ h.headers_nodup
  header := hheaders ▸ h.header
  groups_nodup := hrules ▸ h.groups_nodup
  group := hrules ▸ h.group
  spelling := hrules ▸ h.spelling
  declared := h.declared

theorem nodup_keys_setMatchedHeader (h : (Keyed.keys p.headers).Nodup) (name value : String) :
    (Keyed.keys (p.setMatchedHeader name value).headers).Nodup := by
  unfold setMatchedHeader
  split
  · have hrest : (Keyed.keys (p.headers.filter fun e => !Fields.isContentType e.1)).Nodup :=
      h.sublist (List.filter_sublist.map Prod.fst)
    have hapart : Fields.contentType ∉
        Keyed.keys (p.headers.filter fun e => !Fields.isContentType e.1) := by
      intro hm
      obtain ⟨e, he, hk⟩ := List.mem_map.mp hm
      have hno := (List.mem_filter.mp he).2
      rw [hk, isContentType_contentType] at hno
      cases hno
    have hput := Keyed.nodup_keys_put hrest Fields.contentType [value]
    rwa [Keyed.put_of_not_mem hapart] at hput
  · exact Keyed.nodup_keys_put h name [value]

theorem get?_setMatchedHeader (h : Reflects history p) (s : Setting) (place : String) :
    Keyed.get? (p.setMatchedHeader s.name s.value).headers place =
      if s.place = place then some [s.value] else Keyed.get? p.headers place := by
  unfold setMatchedHeader Setting.place
  split
  · rename_i hname
    show Keyed.get? (p.headers.filter (fun e => !Fields.isContentType e.1)
      ++ [(Fields.contentType, [s.value])]) place = _
    rw [Keyed.get?_append, Keyed.get?_filter_keys p.headers (!Fields.isContentType ·), Keyed.get?,
      Keyed.get?]
    by_cases hp : Fields.contentType = place
    · subst hp
      rw [isContentType_contentType, if_pos rfl, if_pos rfl]
      rfl
    · rw [if_neg hp, if_neg hp, Option.or_none]
      cases hc : Fields.isContentType place with
      | false => rfl
      | true => rw [h.header, Setting.lastAt?_eq_none history hc fun he => hp he.symm]; rfl
  · exact Keyed.get?_put p.headers s.name place [s.value]

theorem Reflects.concat (h : Reflects history p) (hset : p.Sets s q)
    (hs : s.isMatch = false → Fields.isContentType s.name = true) :
    Reflects (history ++ [s]) q := by
  have hheader : ∀ place, Keyed.get? q.headers place =
      (Setting.lastAt? (history ++ [s]) place).map fun s => [s.value] := by
    intro place
    rw [hset.headers, get?_setMatchedHeader h, Setting.lastAt?_concat, h.header]
    split <;> rfl
  have hnodup := nodup_keys_setMatchedHeader h.headers_nodup s.name s.value
  have hdeclared : ∀ d ∈ history ++ [s], d.isMatch = false → Fields.isContentType d.name = true := by
    intro d hd
    rcases List.mem_append.mp hd with hd | hd
    · exact h.declared d hd
    · exact List.mem_singleton.mp hd ▸ hs
  -- A setting without a pattern leaves the rules alone; a match gives its place rules of its own.
  cases hpattern : s.pattern? with
  | none =>
    have hno : s.isMatch = false := by rw [Setting.isMatch, hpattern]; rfl
    have hrules : RuleSet.category q.rules "header" = RuleSet.category p.rules "header" := by
      rw [hset.rules, Setting.group?, hpattern]
      rfl
    refine ⟨hset.headers ▸ hnodup, hheader, hrules ▸ h.groups_nodup, ?_, ?_, hdeclared⟩
    · intro name
      rw [hrules, h.group, Setting.lastMatch?_concat, if_neg]
      exact fun hm => Bool.false_ne_true (hno.symm.trans hm.1)
    · intro name
      rw [hrules, h.spelling, Setting.spelling?_concat, if_neg, Option.or_none]
      exact fun hm => Bool.false_ne_true (hno.symm.trans hm.1)
  | some pattern =>
    have hyes : s.isMatch = true := by rw [Setting.isMatch, hpattern]; rfl
    have hgroup : s.group? = some ⟨[.regex pattern (some s.value)], .all⟩ := by
      rw [Setting.group?, hpattern]
      rfl
    have hrules : RuleSet.category q.rules "header" =
        Keyed.put (RuleSet.category p.rules "header") s.name
          ⟨[.regex pattern (some s.value)], .all⟩ := by
      rw [hset.rules, hgroup]
    refine ⟨hset.headers ▸ hnodup, hheader, hrules ▸ Keyed.nodup_keys_put h.groups_nodup _ _, ?_, ?_,
      hdeclared⟩
    · intro name
      rw [hrules, Keyed.get?_put, Setting.lastMatch?_concat, h.group]
      by_cases hname : s.name = name
      · rw [if_pos hname, if_pos ⟨hyes, hname⟩, Option.bind_some, hgroup]
      · rw [if_neg hname, if_neg fun hm => hname hm.2]
    · intro name
      rw [hrules, Keyed.find?_keys_put, Setting.spelling?_concat, h.spelling]
      simp only [hyes, true_and]

end PartDraft

end HttpContract
