import HttpContract.Proofs.Editing
import HttpContract.Proofs.Matching.Keyed
import HttpContract.Proofs.Regex.Continued
import HttpContract.Draft.Response

/-!
Cookies that are matched one after the other. Each adds a header value and a rule, and one of the
rules is enough. A rule is the name of its cookie, as it is written, with the pattern for the value
right behind: it means the name and what the pattern matches only if the pattern means the same
behind a text.
-/
namespace HttpContract

open Editing

structure CookieMatch where
  name : String
  pattern : String
  shown : String

namespace CookieMatch

def edit (m : CookieMatch) : ResponseEdit := .matchCookie m.name m.pattern m.shown

def value (m : CookieMatch) : String := m.name ++ "=" ++ m.shown

def assembled (m : CookieMatch) : String := Regex.escape (m.name ++ "=") ++ m.pattern

def rule (m : CookieMatch) : Rule := .regex m.assembled none

/-- The text is the name of the cookie, a sign of equality, and a value that the pattern matches. -/
def Fits (m : CookieMatch) (s : String) : Prop :=
  ∃ t, s = m.name ++ "=" ++ t ∧ Regex.fullMatch m.pattern t.toList = .ok true

/-- The pattern is valid and means the same behind a text. -/
def IsPlain (m : CookieMatch) : Prop :=
  (∃ p, Regex.compile m.pattern = .ok p) ∧ Regex.goesOn m.pattern.toList = true

/-- The rule of a plain pattern can be used, and accepts what fits. -/
theorem IsPlain.fullMatch_assembled {m : CookieMatch} (h : m.IsPlain) (s : String) :
    ∃ b, Regex.fullMatch m.assembled s.toList = .ok b ∧ (b ↔ m.Fits s) := by
  obtain ⟨⟨p, hp⟩, hgoes⟩ := h
  have hend : Regex.EndsOutsideWord (m.name ++ "=").toList.toArray := by
    rw [String.toList_append]
    exact Regex.endsOutsideWord_concat m.name.toList (by decide +kernel)
  obtain ⟨b, hb, hiff⟩ := Regex.fullMatch_behind hp hgoes hend s.toList
  refine ⟨b, hb, hiff.trans ⟨?_, ?_⟩⟩
  · rintro ⟨t, hs, ht⟩
    refine ⟨String.ofList t, String.toList_injective ?_, ?_⟩
    · rw [hs, String.toList_append (t := String.ofList t), String.toList_ofList]
    · rw [String.toList_ofList]
      exact ht
  · rintro ⟨t, rfl, ht⟩
    exact ⟨t.toList, String.toList_append, ht⟩

end CookieMatch

namespace ResponseDraft

def afterCookies (d : ResponseDraft) (cookies : List CookieMatch) : ResponseDraft :=
  after (fun m => m.edit.run) d cookies

structure WithoutCookies (d : ResponseDraft) : Prop where
  header : Keyed.get? d.part.headers cookieHeader = none
  rules : ∀ key ∈ Keyed.keys (d.part.rules.category "header"),
    Text.sameLetters key cookieHeader = false

theorem withoutCookies_ofConfig (c : Config) : (ofConfig c).WithoutCookies :=
  ⟨rfl, fun _ h => absurd h List.not_mem_nil⟩

/-- What a response holds of the cookies that have been matched, at least one. -/
structure Holds (d : ResponseDraft) (cookies : List CookieMatch) (d' : ResponseDraft) : Prop where
  values : Keyed.get? d'.part.headers cookieHeader = some (cookies.map CookieMatch.value)
  groups : d'.part.rules.category "header" =
    Keyed.put (d.part.rules.category "header") cookieHeader ⟨cookies.map CookieMatch.rule, .any⟩

theorem headers_cookie (d : ResponseDraft) (m : CookieMatch) :
    (perform m.edit.run d).2.part.headers = Keyed.put d.part.headers cookieHeader
      ((Keyed.get? d.part.headers cookieHeader).getD [] ++ [m.value]) := rfl

theorem rules_cookie (d : ResponseDraft) (m : CookieMatch) :
    (perform m.edit.run d).2.part.rules.category "header" =
      addCookieRule (d.part.rules.category "header") m.rule := by
  show (RuleSet.change d.part.rules "header" fun g => addCookieRule g m.rule).category "header" = _
  rw [RuleSet.category_change, if_pos rfl]

variable {d d' : ResponseDraft}

theorem WithoutCookies.group (h : d.WithoutCookies) :
    cookieHeader ∉ Keyed.keys (d.part.rules.category "header") := by
  intro hmem
  have hown := h.rules _ hmem
  revert hown
  decide +kernel

/-- The first cookie opens a group of which one rule is enough. -/
theorem WithoutCookies.holds_first (h : d.WithoutCookies) (m : CookieMatch) :
    d.Holds [m] (perform m.edit.run d).2 := by
  have hcount : ¬0 < RuleGroups.count (d.part.rules.category "header") cookieHeader := by
    rw [RuleGroups.count, Keyed.get?_eq_none h.group]
    exact Nat.lt_irrefl 0
  constructor
  · rw [headers_cookie, Keyed.get?_put, if_pos rfl, h.header]
    rfl
  · rw [rules_cookie, addCookieRule, if_neg hcount]
    rfl

variable {cookies : List CookieMatch}

theorem Holds.next (h : d.Holds cookies d') (hne : cookies ≠ []) (m : CookieMatch) :
    d.Holds (cookies ++ [m]) (perform m.edit.run d').2 := by
  have hgroup : Keyed.get? (d'.part.rules.category "header") cookieHeader =
      some ⟨cookies.map CookieMatch.rule, .any⟩ := by
    rw [h.groups, Keyed.get?_put, if_pos rfl]
  have hcount : 0 < RuleGroups.count (d'.part.rules.category "header") cookieHeader := by
    rw [RuleGroups.count, hgroup]
    exact List.length_pos_of_ne_nil fun hnil => hne (List.map_eq_nil_iff.mp hnil)
  constructor
  · rw [headers_cookie, Keyed.get?_put, if_pos rfl, h.values, List.map_append]
    rfl
  · rw [rules_cookie, addCookieRule, if_pos hcount, RuleGroups.addRule, RuleGroups.addGroup, hgroup,
      h.groups, Keyed.put_put, List.map_append]
    rfl

theorem Holds.after (h : d.Holds cookies d') (hne : cookies ≠ []) (more : List CookieMatch) :
    d.Holds (cookies ++ more) (d'.afterCookies more) := by
  induction more generalizing cookies d' with
  | nil => exact (List.append_nil cookies).symm ▸ h
  | cons m more ih =>
    rw [List.append_cons]
    exact ih (h.next hne m) (List.concat_ne_nil m cookies)

theorem WithoutCookies.holds_after (h : d.WithoutCookies) (hne : cookies ≠ []) :
    d.Holds cookies (d.afterCookies cookies) := by
  cases cookies with
  | nil => exact absurd rfl hne
  | cons m more => exact (h.holds_first m).after (List.cons_ne_nil m []) more

theorem Holds.best (hd : d.Holds cookies d') (h : d.WithoutCookies) {name : String}
    (hname : Text.sameLetters cookieHeader name = true) :
    d'.part.rules.best "header" [name] = .ok (some ⟨cookies.map CookieMatch.rule, .any⟩) := by
  have hothers : (d.part.rules.category "header").find? (fun e => Text.sameLetters e.1 name) = none := by
    refine List.find?_eq_none.mpr fun e he => ?_
    have hkey := h.rules e.1 (List.mem_map_of_mem he)
    unfold Text.sameLetters at hkey hname ⊢
    rw [← eq_of_beq hname, hkey]
    exact Bool.false_ne_true
  rw [RuleSet.best_of_ne_body (by decide) (RuleSet.applies_header name), hd.groups,
    Keyed.put_of_not_mem h.group, List.find?_append, hothers, List.find?_singleton, if_pos hname]
  rfl

/-- A header is accepted if all rules of the cookies can be used and one of them accepts it. -/
theorem Holds.accepts_iff (hd : d.Holds cookies d') (h : d.WithoutCookies) (hne : cookies ≠ [])
    {name : String} (hname : Text.sameLetters cookieHeader name = true) (expected : Value) (s : String) :
    d'.part.rules.compare "header" [name] expected (.text s) = .ok [] ↔
      (∀ m ∈ cookies, ∃ b, Regex.fullMatch m.assembled s.toList = .ok b) ∧
        ∃ m ∈ cookies, Regex.fullMatch m.assembled s.toList = .ok true := by
  have hrules : cookies.map CookieMatch.rule ≠ [] := fun hnil => hne (List.map_eq_nil_iff.mp hnil)
  rw [RuleSet.compare, hd.best h hname]
  refine (RuleGroup.check_any_iff hrules).trans ?_
  rw [List.forall_mem_map]
  simp only [List.mem_map, exists_exists_and_eq_and]
  exact and_congr (forall₂_congr fun m _ => Comparison.exists_regex_text_iff)
    (exists_congr fun m => and_congr_right fun _ => Comparison.regex_text_iff)

/-- The header values are the examples in the order of the calls. A header is accepted, however its
name is spelled and whatever is expected, if and only if all rules can be used and the pattern of
one of them matches it; and if all patterns are valid and mean the same behind a text, if and only
if it is the name of one of the cookies, a sign of equality, and what its pattern matches. -/
theorem accepts_cookies_iff (h : d.WithoutCookies) (hne : cookies ≠ []) :
    let response := (d.afterCookies cookies).build
    Keyed.get? response.headers cookieHeader = some (cookies.map CookieMatch.value)
    ∧ ∀ name, Text.sameLetters cookieHeader name = true → ∀ (expected : Value) (s : String),
      let accepted := response.rules.compare "header" [name] expected (.text s) = .ok []
      (accepted ↔ (∀ m ∈ cookies, ∃ b, Regex.fullMatch m.assembled s.toList = .ok b) ∧
        ∃ m ∈ cookies, Regex.fullMatch m.assembled s.toList = .ok true)
      ∧ ((∀ m ∈ cookies, m.IsPlain) → (accepted ↔ ∃ m ∈ cookies, m.Fits s)) := by
  intro response
  have hd : d.Holds cookies (d.afterCookies cookies) := h.holds_after hne
  refine ⟨hd.values, fun name hname expected s => ?_⟩
  have haccepted := hd.accepts_iff h hne hname expected s
  refine ⟨haccepted, fun hplain => haccepted.trans ?_⟩
  have hdecided : ∀ m ∈ cookies, (Regex.fullMatch m.assembled s.toList = .ok true ↔ m.Fits s) ∧
      ∃ b, Regex.fullMatch m.assembled s.toList = .ok b := by
    intro m hm
    obtain ⟨b, hb, hiff⟩ := (hplain m hm).fullMatch_assembled s
    rw [hb, Except.ok.injEq]
    exact ⟨hiff, b, rfl⟩
  rw [and_iff_right fun m hm => (hdecided m hm).2]
  exact exists_congr fun m => and_congr_right fun hm => (hdecided m hm).1

/-- Two cookies of a new response, the second one in the header. -/
theorem accepts_second_cookie :
    let cookies : List CookieMatch := [⟨"session", "[a-z0-9]+", "abc123"⟩, ⟨"theme", "(dark|light)", "dark"⟩]
    let response := ((ofConfig .standard).afterCookies cookies).build
    (ofConfig .standard).WithoutCookies ∧ cookies ≠ []
    ∧ Keyed.get? response.headers cookieHeader = some ["session=abc123", "theme=dark"]
    ∧ response.rules.compare "header" ["Set-Cookie"] (.text "") (.text "theme=light") = .ok [] := by
  intro cookies response
  have hfresh := withoutCookies_ofConfig .standard
  have hne : cookies ≠ [] := List.cons_ne_nil _ _
  obtain ⟨hvalues, haccepts⟩ := accepts_cookies_iff hfresh hne
  have hplain : ∀ m ∈ cookies, m.IsPlain := by
    refine List.forall_mem_cons.mpr ⟨?_, List.forall_mem_singleton.mpr ?_⟩
    · exact ⟨⟨_, eq_ok_of_toOption (Option.eq_some_of_isSome (by decide +kernel))⟩, by decide +kernel⟩
    · exact ⟨⟨_, eq_ok_of_toOption (Option.eq_some_of_isSome (by decide +kernel))⟩, by decide +kernel⟩
  have hletters : Text.sameLetters cookieHeader "Set-Cookie" = true := by decide +kernel
  refine ⟨hfresh, hne, hvalues, ((haccepts "Set-Cookie" hletters _ _).2 hplain).mpr ?_⟩
  refine ⟨⟨"theme", "(dark|light)", "dark"⟩, .tail _ (.head _), "light", rfl, ?_⟩
  exact eq_ok_of_toOption (by decide +kernel)

/-- A cookie with a choice of values that stands in no parentheses: the second choice is taken for a
whole header, and is refused as the value of the cookie. -/
theorem choice_leaves_cookie :
    let m : CookieMatch := ⟨"theme", "dark|light", "dark"⟩
    let response := ((ofConfig .standard).afterCookies [m]).build
    let accepts (s : String) := response.rules.compare "header" ["Set-Cookie"] (.text "") (.text s) = .ok []
    (m.Fits "theme=light" ∧ ¬accepts "theme=light") ∧ (¬m.Fits "light" ∧ accepts "light") := by
  intro m response accepts
  have hrefused : (response.rules.compare "header" ["Set-Cookie"] (.text "")
      (.text "theme=light")).toOption.map List.length = some 1 := by decide +kernel
  have haccepted : (response.rules.compare "header" ["Set-Cookie"] (.text "")
      (.text "light")).toOption.map List.length = some 0 := by decide +kernel
  refine ⟨⟨⟨"light", rfl, eq_ok_of_toOption (by decide +kernel)⟩, fun h => ?_⟩, ?_, ?_⟩
  · rw [show response.rules.compare "header" ["Set-Cookie"] (.text "") (.text "theme=light") = .ok [] from h]
      at hrefused
    cases hrefused
  · rintro ⟨t, ht, -⟩
    have hlength : "light".length = ("theme" ++ "=" ++ t).length := congrArg String.length ht
    rw [String.length_append, String.length_append] at hlength
    have hshort : "light".length < "theme".length + "=".length := by decide
    omega
  · obtain ⟨found, hfound, hnone⟩ := Option.map_eq_some_iff.mp haccepted
    have haccepts := eq_ok_of_toOption hfound
    rw [List.length_eq_zero_iff.mp hnone] at haccepts
    exact haccepts

end ResponseDraft

end HttpContract
