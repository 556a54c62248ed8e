import HttpContract.Proofs.Json.Selection
import Mathlib.Data.List.MinMax

/-!
What counts for values without a rule of their own: the rule that was noted nearest above them. So
a rule about the size of a list is held against the lists inside of its items, too.
-/
namespace HttpContract

def Rule.bound? : Rule → Option Comparison.Bound
  | .minType n => some (.least n)
  | .maxType n => some (.greatest n)
  | _ => none

def Value.isJsonKind : Value → Bool
  | null | bool _ | int _ | real _ | decimal _ | text _ | list _ | map _ => true
  | bytes _ | tuple _ | element _ | mediaType _ | foreign _ => false

namespace Comparison

variable {v : Value} (hv : v.isJsonKind = true) (path : List String)

include hv

/-- Every JSON value is of its own type, if it can be written down. -/
theorem type_self_iff : type path v v = .ok [] ↔ ∃ s, v.described = .ok s := by
  rw [type]
  cases hd : v.described with
  | error fault =>
    constructor
    · intro h
      cases h
    · rintro ⟨s, hs⟩
      cases hs
  | ok s =>
    refine ⟨fun _ => ⟨s, rfl⟩, fun _ => ?_⟩
    cases v with
    | bytes | tuple | element | mediaType | foreign => cases hv
    | _ => rfl

/-- A bound to the size is broken only by lists. -/
theorem sizedType_self_iff (bound : Bound) : sizedType bound path v v = .ok [] ↔
    (∃ s, v.described = .ok s) ∧ ∀ n, v.size? = some n → bound.allows n = true := by
  rw [sizedType]
  cases hd : v.described with
  | error fault =>
    constructor
    · intro h
      cases h
    · rintro ⟨⟨s, hs⟩, -⟩
      cases hs
  | ok s =>
    show size bound type path v v = .ok [] ↔ _
    rw [size, hd]
    cases hn : v.size? with
    | none =>
      have hself := type_self_iff hv path
      rw [hd] at hself
      exact hself.trans (iff_self_and.mpr fun _ n hn => by cases hn)
    | some n =>
      dsimp only
      by_cases hb : bound.allows n = true
      · rw [if_pos hb]
        exact iff_of_true rfl ⟨⟨s, rfl⟩, fun n' hn' => Option.some.inj hn' ▸ hb⟩
      · rw [if_neg hb]
        refine iff_of_false (fun h => ?_) fun h => hb (h.2 n rfl)
        cases ht : bound.text with
        | error fault =>
          rw [ht] at h
          cases h
        | ok text =>
          rw [ht] at h
          cases h

end Comparison

theorem RuleGroup.check_alone (rule : Rule) (path : List String) (expected actual : Value) :
    RuleGroup.check ⟨[rule], .all⟩ path expected actual = rule.check path expected actual := by
  rw [check, List.mapM_cons]
  cases rule.check path expected actual with
  | error fault => rfl
  | ok found =>
    show (Except.ok [found].flatten : Result (List Mismatch)) = .ok found
    rw [List.flatten_singleton]

theorem Rule.check_of_bound {rule : Rule} {bound : Comparison.Bound} (h : rule.bound? = some bound)
    (path : List String) (expected actual : Value) :
    rule.check path expected actual = Comparison.sizedType bound path expected actual := by
  cases rule <;> cases h <;> rfl

namespace Json

/-! ## JSON values -/

def IsJson (v : Value) : Prop := ∀ position w, StandsAt v position w → w.isJsonKind = true

theorem isJson_text (s : String) : IsJson (.text s) := by
  intro position w h
  cases h
  rfl

theorem isJson_list {items : List Value} (h : ∀ v ∈ items, IsJson v) : IsJson (.list items) := by
  intro position w hw
  cases hw with
  | here => rfl
  | item hi hr => exact h _ (List.mem_of_getElem? hi) _ _ hr

theorem isJson_record {fields : Keyed String Value} (h : ∀ e ∈ fields, IsJson e.2) :
    IsJson (.record fields) := by
  intro position w hw
  cases hw with
  | here => rfl
  | field hl hr =>
    rw [Value.lookup_record] at hl
    exact h _ (Keyed.mem_of_get? hl) _ _ hr

/-! ## The nearest rule -/

def LeadsTo (place : List Level) (position : List String) : Prop :=
  ∃ front, front <+: position ∧ List.Forall₂ Covers place front

/-- Of all rules that were noted on the way to a position, this one was noted furthest down. -/
structure Nearest (c : Chart) (position : List String) (m : Mark) (rule : Rule) : Prop where
  mem : m ∈ c.marks
  rule_eq : m.rule = some rule
  leads : LeadsTo m.place position
  furthest : ∀ m' ∈ c.marks, m'.rule ≠ none → LeadsTo m'.place position → m'.place <+: m.place

section

variable {nodes : List Node} {e x y : Entry} {place other : List Level} {position : List String}

/-- Only one of the levels in an entry covers an element. -/
theorem level_eq_of_covers {l l' : Level} {element : String} (hx : e.enter? nodes l = some x)
    (hy : e.enter? nodes l' = some y) (h : Covers l element) (h' : Covers l' element)
    (hw : l.Writable) (hw' : l'.Writable) : l' = l := by
  by_contra hne
  have hbeside := weight_of_beside hx hy h hw hne
  rw [weight_of_covers h' hw'] at hbeside
  exact Nat.ne_of_gt l'.weight_pos (Except.ok.inj hbeside)

/-- A place in the document leads to a position exactly if it leads to the place that the position
goes along. -/
theorem Along.leads_iff (hp : Along nodes e place position) (hy : e.walk? nodes other = some y)
    (hw : ∀ l ∈ place, l.Writable) (ho : ∀ l ∈ other, l.Writable) :
    LeadsTo other position ↔ other <+: place := by
  constructor
  · rintro ⟨front, hfront, hcovers⟩
    induction hp generalizing other front with
    | here e =>
      rw [List.prefix_nil.mp hfront] at hcovers
      cases hcovers
      exact List.nil_prefix
    | within v position =>
      cases other with
      | nil => exact List.nil_prefix
      | cons l other => cases l <;> cases hy
    | @enter e e' l element place position he hl hp ih =>
      cases hcovers with
      | nil => exact List.nil_prefix
      | cons hl' hrest =>
        obtain ⟨rfl, hfront'⟩ := List.cons_prefix_cons.mp hfront
        obtain ⟨y', hey, hy'⟩ := Option.bind_eq_some_iff.mp hy
        rw [List.forall_mem_cons] at hw ho
        obtain rfl := level_eq_of_covers he hey hl hl' hw.1 ho.1
        cases he.symm.trans hey
        exact List.cons_prefix_cons.mpr ⟨rfl, ih hy' hw.2 ho.2 _ hfront' hrest⟩
  · rintro ⟨rest, rfl⟩
    obtain ⟨front, hfront, hcovers⟩ := hp.exists_front
    refine ⟨front.take other.length, (List.take_prefix _ _).trans hfront, ?_⟩
    have htake := List.forall₂_take other.length hcovers
    rwa [List.take_left] at htake

end

section

variable {F : Rule → Entry → Prop} {c : Chart} (h : c.Placed F) {place : List Level}
  {position : List String} (hp : Along c.draft.nodes (.node 0) place position)

include h hp

theorem Chart.Placed.leads_iff {m : Mark} (hm : m ∈ c.marks) :
    LeadsTo m.place position ↔ m.place <+: place := by
  obtain ⟨x, hx, -⟩ := h.fits m hm
  obtain ⟨y, hy⟩ := hp.exists_walk
  exact hp.leads_iff hx (h.writable.of_walk hy) (h.marksWritable hm)

open Classical in
/-- Where some rule was noted on the way, one of them was noted nearest. -/
theorem Chart.Placed.exists_nearest {m : Mark} (hm : m ∈ c.marks) (hr : m.rule ≠ none)
    (hl : LeadsTo m.place position) : ∃ near rule, Nearest c position near rule := by
  let noted := c.marks.filter fun m => decide (m.rule ≠ none ∧ m.place <+: place)
  have mem_noted (m : Mark) :
      m ∈ noted ↔ m ∈ c.marks ∧ m.rule ≠ none ∧ m.place <+: place := by
    rw [List.mem_filter, decide_eq_true_iff]
  have hmem : m ∈ noted := (mem_noted m).mpr ⟨hm, hr, (h.leads_iff hp hm).mp hl⟩
  obtain ⟨near, hnear⟩ : ∃ near, noted.argmax (fun m => m.place.length) = some near :=
    Option.ne_none_iff_exists'.mp fun hnone =>
      List.ne_nil_of_mem hmem (List.argmax_eq_none.mp hnone)
  obtain ⟨hin, hnone, hpre⟩ := (mem_noted near).mp (List.argmax_mem hnear)
  obtain ⟨rule, hrule⟩ := Option.ne_none_iff_exists'.mp hnone
  refine ⟨near, rule, hin, hrule, (h.leads_iff hp hin).mpr hpre, fun m' hm' hr' hl' => ?_⟩
  have hpre' : m'.place <+: place := (h.leads_iff hp hm').mp hl'
  have hle : m'.place.length ≤ near.place.length :=
    List.le_of_mem_argmax (f := fun m => m.place.length)
      ((mem_noted m').mpr ⟨hm', hr', hpre'⟩) hnear
  exact List.prefix_of_prefix_length_le hpre' hpre hle

/-- The nearest rule counts, and it counts alone. -/
theorem Chart.Placed.best_of_nearest {m : Mark} {rule : Rule}
    (hm : Nearest c position m rule) :
    c.draft.ruleSet.best "body" ("$" :: position) = .ok (some ⟨[rule], .all⟩) :=
  best_along h hp hm.mem hm.rule_eq ((h.leads_iff hp hm.mem).mp hm.leads)
    fun m' hm' hr' hpre => hm.furthest m' hm' hr' ((h.leads_iff hp hm').mpr hpre)

theorem Chart.Placed.compare_of_nearest {m : Mark} {rule : Rule} (hm : Nearest c position m rule)
    (expected actual : Value) :
    c.draft.ruleSet.compare "body" ("$" :: position) expected actual =
      rule.check ("$" :: position) expected actual := by
  rw [RuleSet.compare, h.best_of_nearest hp hm]
  exact RuleGroup.check_alone rule _ expected actual

end

/-- A place that leads to a position without covering it ends above it. -/
theorem LeadsTo.length_lt {place : List Level} {position : List String} (h : LeadsTo place position)
    (hne : ¬List.Forall₂ Covers place position) : place.length < position.length := by
  obtain ⟨front, hfront, hcovers⟩ := h
  rw [hcovers.length_eq]
  refine Nat.lt_of_le_of_ne hfront.length_le fun hlength => hne ?_
  rwa [hfront.eq_of_length hlength] at hcovers

/-- In every document of JSON values in which no name is given twice in one object and all names
can be written: below the items of a list whose size is bound by a rule, what has no rule of its own
is compared by the rule that was noted nearest above it, which is this rule if none was noted in
between. A nearest rule about types then finds that a value agrees with itself, if it can be written
down; one about sizes does so too, except for a list whose size is not in its bound. -/
theorem size_rule_handed_down (config : Config) (root : Root) {moves : List (Nat × Step)}
    (ht : (Draft.begin config root).EachStep Fresh moves)
    (hj : IsJson ((Draft.begin config root).after moves).value) :
    let c := (Chart.begin config root).after moves
    let d := (Draft.begin config root).after moves
    ∀ m ∈ c.marks, ∀ rule bound, m.rule = some rule → rule.bound? = some bound →
      ∀ front index element rest v, List.Forall₂ Covers m.place front →
        let position := front ++ index :: element :: rest
        StandsAt d.value position v →
        (∀ m' ∈ c.marks, m'.rule ≠ none → ¬List.Forall₂ Covers m'.place position) →
        ∃ near nearest, Nearest c position near nearest ∧ m.place <+: near.place
          ∧ near.place.length < position.length
          ∧ d.ruleSet.best "body" ("$" :: position) = .ok (some ⟨[nearest], .all⟩)
          ∧ d.ruleSet.compare "body" ("$" :: position) v v = nearest.check ("$" :: position) v v
          ∧ (nearest = .type → (d.ruleSet.compare "body" ("$" :: position) v v = .ok [] ↔
              ∃ s, v.described = .ok s))
          ∧ ∀ limit, nearest.bound? = some limit →
              (d.ruleSet.compare "body" ("$" :: position) v v = .ok [] ↔
                (∃ s, v.described = .ok s) ∧ ∀ n, v.size? = some n → limit.allows n = true) := by
  intro c d m hm rule bound hr _ front index element rest v hfront position hv hown
  have hd : c.draft = d := (Chart.begin config root).draft_after moves
  have h : c.Placed fun _ _ => True :=
    (Chart.placed_begin config root).after suits_of_fresh ht
  have hkind : v.isJsonKind = true := hj position v hv
  rw [← hd]
  rw [← hd, value_eq_nodeValue] at hv
  obtain ⟨place, hp⟩ := exists_along (e := .node 0) h.forward hv
  have hnone : m.rule ≠ none := by
    rw [hr]
    exact Option.some_ne_none rule
  have hleads : LeadsTo m.place position := ⟨front, List.prefix_append _ _, hfront⟩
  obtain ⟨near, nearest, hnear⟩ := h.exists_nearest hp hm hnone hleads
  have hnear_none : near.rule ≠ none := by
    rw [hnear.rule_eq]
    exact Option.some_ne_none nearest
  have hcompare := h.compare_of_nearest hp hnear v v
  refine ⟨near, nearest, hnear, hnear.furthest m hm hnone hleads,
    hnear.leads.length_lt (hown near hnear.mem hnear_none), h.best_of_nearest hp hnear, hcompare,
    fun htype => ?_, fun limit hlimit => ?_⟩
  · rw [hcompare, htype]
    exact Comparison.type_self_iff hkind _
  · rw [hcompare, Rule.check_of_bound hlimit]
    exact Comparison.sizedType_self_iff hkind _ limit

def rowsOfTags : List (Nat × Step) :=
  [(0, .minLike "rows" 2 none), (1, .openArray "tags"), (2, .append (.literal (.text "x")))]

theorem eachStep_rowsOfTags : (Draft.begin .standard .object).EachStep Fresh rowsOfTags := by
  refine ⟨fun n step hn hs => ?_, fun n step hn hs => ?_, fun n step hn hs => ?_, trivial⟩
  · cases hn
    cases hs
    exact ⟨by decide, by decide, by decide, by decide⟩
  · cases hn
    cases hs
    exact ⟨by decide, by decide, by decide, by decide⟩
  · cases hn
    cases hs
    exact Nat.pow_pos (by decide)

theorem isJson_rowsOfTags : IsJson ((Draft.begin .standard .object).after rowsOfTags).value := by
  have htags : IsJson (.list [.text "x"]) :=
    isJson_list fun v hv => List.mem_singleton.mp hv ▸ isJson_text "x"
  have hrow : IsJson (.record [("tags", .list [.text "x"])]) :=
    isJson_record fun e he => List.mem_singleton.mp he ▸ htags
  have hrows : IsJson (.list (List.replicate 2 (.record [("tags", .list [.text "x"])]))) :=
    isJson_list fun v hv => List.eq_of_mem_replicate hv ▸ hrow
  have hdocument : IsJson (.record
      [("rows", .list (List.replicate 2 (.record [("tags", .list [.text "x"])])))]) :=
    isJson_record fun e he => List.mem_singleton.mp he ▸ hrows
  exact hdocument

theorem standsAt_rowsOfTags : StandsAt ((Draft.begin .standard .object).after rowsOfTags).value
    ["rows", "0", "tags"] (.list [.text "x"]) :=
  .field rfl (.item (i := 0) rfl (.field rfl (.here _)))

theorem size_rule_handed_down_rowsOfTags :
    (Draft.begin .standard .object).EachStep Fresh rowsOfTags
    ∧ IsJson ((Draft.begin .standard .object).after rowsOfTags).value
    ∧ ((Draft.begin .standard .object).after rowsOfTags).ruleSet.best "body"
      ["$", "rows", "0", "tags"] = .ok (some ⟨[.minType 2], .all⟩) := by
  refine ⟨eachStep_rowsOfTags, isJson_rowsOfTags, ?_⟩
  have hmarks : ((Chart.begin .standard .object).after rowsOfTags).marks =
      [.ofRule [.field "rows"] (.minType 2),
        .ofExample [.field "rows", .template, .field "tags", .item 0] (.literal (.text "x"))] := rfl
  obtain ⟨near, nearest, hnear, -, -, hbest, -⟩ :=
    size_rule_handed_down .standard .object eachStep_rowsOfTags isJson_rowsOfTags
      (.ofRule [.field "rows"] (.minType 2)) List.mem_cons_self (.minType 2) (.least 2) rfl rfl
      ["rows"] "0" "tags" [] (.list [.text "x"]) (.cons (.field _) .nil) standsAt_rowsOfTags
      fun m' hm' _ hp => by
        rw [hmarks] at hm'
        rcases List.mem_cons.mp hm' with rfl | hm'
        · cases hp.length_eq
        · rw [List.mem_singleton.mp hm'] at hp
          cases hp.length_eq
  have hmem := hnear.mem
  have hrule := hnear.rule_eq
  rw [hmarks] at hmem
  rcases List.mem_cons.mp hmem with rfl | hmem
  · cases hrule
    exact hbest
  · rw [List.mem_singleton.mp hmem] at hrule
    cases hrule

/-- The rows are to be two at least, and the list inside of them is refused for having only one
item. -/
theorem inner_list_bound_by_outer :
    let d := (Draft.begin .standard .object).after rowsOfTags
    d.annotations.rules = [("$.rows", ⟨[.minType 2], .all⟩)]
    ∧ StandsAt d.value ["rows", "0", "tags"] (.list [.text "x"])
    ∧ (d.ruleSet.compare "body" ["$", "rows", "0", "tags"]
        (.list [.text "x"]) (.list [.text "x"])).toOption.map (List.map Mismatch.message) =
      some ["Expected ['x'] to have minimum 2"] :=
  ⟨rfl, standsAt_rowsOfTags, by decide +kernel⟩

end Json

end HttpContract
