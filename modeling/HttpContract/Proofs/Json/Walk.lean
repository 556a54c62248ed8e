import HttpContract.Proofs.Json.Place
import Mathlib.Data.List.Forall2

/-!
Ways through a document that is put together, level by level, and ways through its value. What
stands at a place stays there when other entries are added; in the value it stands at each position
that the place covers.
-/
namespace HttpContract.Json

/-! ## Ways through the nodes -/

def Entry.enter? (nodes : List Node) : Entry → Level → Option Entry
  | .node n, .field name =>
    match nodes[n]?.map Node.contents with
    | some (.object fields) => Keyed.get? fields name
    | _ => none
  | .node n, .item i =>
    match nodes[n]?.map Node.contents with
    | some (.array items) => items[i]?
    | _ => none
  | .copies _ n, .template => some (.node n)
  | _, _ => none

def Entry.walk? (nodes : List Node) (e : Entry) : List Level → Option Entry
  | [] => some e
  | l :: place => (e.enter? nodes l).bind fun e => e.walk? nodes place

def Draft.entryAt? (d : Draft) (place : List Level) : Option Entry :=
  Entry.walk? d.nodes (.node 0) place

theorem Entry.walk?_append (nodes : List Node) (e : Entry) (place rest : List Level) :
    e.walk? nodes (place ++ rest) = (e.walk? nodes place).bind fun e => e.walk? nodes rest := by
  induction place generalizing e with
  | nil => rfl
  | cons l place ih =>
    rw [List.cons_append, walk?, walk?]
    cases e.enter? nodes l with
    | none => rfl
    | some e => exact ih e

theorem Entry.walk?_singleton (nodes : List Node) (e : Entry) (l : Level) :
    e.walk? nodes [l] = e.enter? nodes l := by
  rw [walk?]
  cases e.enter? nodes l <;> rfl

theorem Draft.entryAt?_append {d : Draft} {place : List Level} {e : Entry}
    (h : d.entryAt? place = some e) (l : Level) :
    d.entryAt? (place ++ [l]) = e.enter? d.nodes l := by
  unfold entryAt? at h ⊢
  rw [Entry.walk?_append, h, Option.bind_some, Entry.walk?_singleton]

/-! ## What stays -/

def Contents.Extends : Contents → Contents → Prop
  | .object fields, .object more => ∀ name e, Keyed.get? fields name = some e →
    Keyed.get? more name = some e
  | .array items, .array more => items <+: more
  | _, _ => False

theorem Contents.extends_refl (c : Contents) : c.Extends c := by
  cases c with
  | object fields => exact fun _ _ h => h
  | array items => exact List.prefix_rfl

def Draft.Extends (d next : Draft) : Prop :=
  ∀ (i : Nat) (n : Node), d.nodes[i]? = some n →
    ∃ n', next.nodes[i]? = some n' ∧ n.contents.Extends n'.contents

theorem Draft.extends_setContents {d : Draft} {here : Nat} {n : Node}
    (hn : d.nodes[here]? = some n) {contents : Contents} (h : n.contents.Extends contents) :
    d.Extends (d.setContents here contents) := by
  intro i m hm
  by_cases hi : here = i
  · subst hi
    cases hn.symm.trans hm
    refine ⟨{ n with contents := contents }, ?_, h⟩
    rw [setContents, List.getElem?_modify_eq, hn]
    rfl
  · refine ⟨m, ?_, m.contents.extends_refl⟩
    rw [setContents, List.getElem?_modify_ne _ _ hi, hm]

theorem Entry.enter?_field {nodes : List Node} {n : Nat} {name : String} {e : Entry} :
    (Entry.node n).enter? nodes (.field name) = some e ↔
      ∃ m fields, nodes[n]? = some m ∧ m.contents = .object fields
        ∧ Keyed.get? fields name = some e := by
  unfold enter?
  cases hn : nodes[n]? with
  | none => simp [hn]
  | some m =>
    obtain ⟨path, parent, contents⟩ := m
    cases contents <;> simp [hn]

theorem Entry.enter?_item {nodes : List Node} {n i : Nat} {e : Entry} :
    (Entry.node n).enter? nodes (.item i) = some e ↔
      ∃ m items, nodes[n]? = some m ∧ m.contents = .array items ∧ items[i]? = some e := by
  unfold enter?
  cases hn : nodes[n]? with
  | none => simp [hn]
  | some m =>
    obtain ⟨path, parent, contents⟩ := m
    cases contents <;> simp [hn]

theorem Draft.Extends.enter? {d next : Draft} (h : d.Extends next) {e e' : Entry} {l : Level}
    (he : e.enter? d.nodes l = some e') : e.enter? next.nodes l = some e' := by
  cases e with
  | value v => cases l <;> cases he
  | node n =>
    cases l with
    | field name =>
      obtain ⟨m, fields, hm, hc, hf⟩ := Entry.enter?_field.mp he
      obtain ⟨m', hm', hx⟩ := h n m hm
      rw [hc] at hx
      cases hc' : m'.contents with
      | object more =>
        rw [hc'] at hx
        exact Entry.enter?_field.mpr ⟨m', more, hm', hc', hx name e' hf⟩
      | array items =>
        rw [hc'] at hx
        cases hx
    | item i =>
      obtain ⟨m, items, hm, hc, hi⟩ := Entry.enter?_item.mp he
      obtain ⟨m', hm', hx⟩ := h n m hm
      rw [hc] at hx
      cases hc' : m'.contents with
      | object fields =>
        rw [hc'] at hx
        cases hx
      | array more =>
        rw [hc'] at hx
        obtain ⟨rest, rfl⟩ := hx
        have hlt := (List.getElem?_eq_some_iff.mp hi).1
        exact Entry.enter?_item.mpr ⟨m', _, hm', hc', by rw [List.getElem?_append_left hlt, hi]⟩
    | template => cases he
  | copies count n =>
    cases l with
    | template => exact he
    | _ => cases he

theorem Draft.Extends.walk? {d next : Draft} (h : d.Extends next) {place : List Level}
    {e e' : Entry} (he : e.walk? d.nodes place = some e') : e.walk? next.nodes place = some e' := by
  induction place generalizing e with
  | nil => exact he
  | cons l place ih =>
    obtain ⟨e'', hl, hr⟩ := Option.bind_eq_some_iff.mp he
    rw [Entry.walk?, h.enter? hl]
    exact ih hr

/-! ## Values -/

def Contents.entries : Contents → List Entry
  | object fields => Keyed.values fields
  | array items => items

def Entry.Forward (i : Nat) : Entry → Prop
  | value _ => True
  | node n => i < n
  | copies k n => 0 < k ∧ i < n

def Forward (nodes : List Node) : Prop :=
  ∀ (i : Nat) (n : Node), nodes[i]? = some n → ∀ e ∈ n.contents.entries, e.Forward i

theorem Contents.toValue_congr_entries {c : Contents} {f g : Nat → Value}
    (h : ∀ e ∈ c.entries, e.toValue f = e.toValue g) : c.toValue f = c.toValue g := by
  cases c with
  | object fields =>
    rw [toValue, toValue]
    exact congrArg Value.record (List.map_congr_left fun e he =>
      congrArg (e.1, ·) (h e.2 (List.mem_map_of_mem he)))
  | array items =>
    rw [toValue, toValue]
    exact congrArg Value.list (List.map_congr_left h)

theorem Entry.toValue_congr {e : Entry} {i : Nat} (h : e.Forward i) {f g : Nat → Value}
    (hfg : ∀ n, i < n → f n = g n) : e.toValue f = e.toValue g := by
  cases e with
  | value v => rfl
  | node n => exact hfg n h
  | copies k n =>
    rw [toValue, toValue, hfg n h.2]

theorem Contents.toValue_congr {c : Contents} {i : Nat} (h : ∀ e ∈ c.entries, e.Forward i)
    {f g : Nat → Value} (hfg : ∀ n, i < n → f n = g n) : c.toValue f = c.toValue g :=
  toValue_congr_entries fun e he => Entry.toValue_congr (h e he) hfg

def nodeValue (nodes : List Node) (n : Nat) : Value := (valuesFrom 0 nodes).getD n .null

theorem length_valuesFrom (first : Nat) (nodes : List Node) :
    (valuesFrom first nodes).length = nodes.length := by
  induction nodes generalizing first with
  | nil => rfl
  | cons n nodes ih => rw [valuesFrom, List.length_cons, ih, List.length_cons]

theorem getElem?_valuesFrom {nodes : List Node} {first i : Nat} {n : Node}
    (hn : nodes[i]? = some n) (h : ∀ e ∈ n.contents.entries, e.Forward (first + i)) :
    (valuesFrom first nodes)[i]? =
      some (n.contents.toValue fun j => (valuesFrom first nodes).getD (j - first) .null) := by
  induction nodes generalizing first i with
  | nil => cases hn
  | cons m nodes ih =>
    cases i with
    | zero =>
      cases hn
      rw [valuesFrom, List.getElem?_cons_zero]
      refine congrArg some (Contents.toValue_congr h fun j hj => ?_)
      have : j - first = (j - (first + 1)) + 1 := by omega
      rw [this, List.getD_cons_succ]
    | succ i =>
      rw [List.getElem?_cons_succ] at hn
      rw [valuesFrom, List.getElem?_cons_succ]
      have hadd : first + 1 + i = first + (i + 1) := by omega
      rw [ih hn (hadd ▸ h)]
      refine congrArg some (Contents.toValue_congr h fun j hj => ?_)
      have : j - first = (j - (first + 1)) + 1 := by omega
      rw [this, List.getD_cons_succ]

theorem nodeValue_eq {nodes : List Node} (h : Forward nodes) {i : Nat} {n : Node}
    (hn : nodes[i]? = some n) : nodeValue nodes i = n.contents.toValue (nodeValue nodes) := by
  have hf : ∀ e ∈ n.contents.entries, e.Forward (0 + i) := by
    rw [Nat.zero_add]
    exact h i n hn
  rw [nodeValue, List.getD_eq_getElem?_getD, getElem?_valuesFrom hn hf]
  rfl

theorem value_eq_nodeValue (d : Draft) : d.value = nodeValue d.nodes 0 := by
  unfold Draft.value nodeValue
  cases valuesFrom 0 d.nodes <;> rfl

/-! ## Ways through values -/

/-- `StandsAt v position w`: from `v` on, the position leads to `w`, by the keys of maps and the
numbers of items. -/
inductive StandsAt : Value → List String → Value → Prop
  | here (v : Value) : StandsAt v [] v
  | field {entries : List (Value × Value)} {name : String} {v w : Value} {rest : List String}
      (h : Value.lookup entries name = some v) (hr : StandsAt v rest w) :
      StandsAt (.map entries) (name :: rest) w
  | item {items : List Value} {i : Nat} {v w : Value} {rest : List String}
      (h : items[i]? = some v) (hr : StandsAt v rest w) :
      StandsAt (.list items) (toString i :: rest) w

/-- A level of a place covers an element of a position: a template covers every index. -/
inductive Covers : Level → String → Prop
  | field (name : String) : Covers (.field name) name
  | item (n : Nat) : Covers (.item n) (toString n)
  | template (n : Nat) : Covers .template (toString n)

theorem toString_inj {m n : Nat} (h : toString m = toString n) : m = n := by
  rw [← Number.ofDigits_digitsOf m, ← Number.ofDigits_digitsOf n, ← Number.toList_toString,
    ← Number.toList_toString, h]

section

variable {nodes : List Node} (hf : Forward nodes)

include hf

theorem lookup_of_enter {n : Nat} {name : String} {e : Entry}
    (h : (Entry.node n).enter? nodes (.field name) = some e) :
    ∃ entries, (Entry.node n).toValue (nodeValue nodes) = .map entries
      ∧ Value.lookup entries name = some (e.toValue (nodeValue nodes)) := by
  obtain ⟨m, fields, hm, hc, hg⟩ := Entry.enter?_field.mp h
  have hv : (Entry.node n).toValue (nodeValue nodes) =
      .record (fields.map fun e => (e.1, e.2.toValue (nodeValue nodes))) := by
    rw [Entry.toValue, nodeValue_eq hf hm, hc, Contents.toValue]
  refine ⟨_, hv, ?_⟩
  rw [Value.lookup_record, ← Keyed.mapValues, Keyed.get?_mapValues, hg, Option.map_some]

theorem getElem?_of_enter {n i : Nat} {e : Entry}
    (h : (Entry.node n).enter? nodes (.item i) = some e) :
    ∃ items, (Entry.node n).toValue (nodeValue nodes) = .list items
      ∧ items[i]? = some (e.toValue (nodeValue nodes)) := by
  obtain ⟨m, items, hm, hc, hg⟩ := Entry.enter?_item.mp h
  have hv : (Entry.node n).toValue (nodeValue nodes) =
      .list (items.map (Entry.toValue (nodeValue nodes))) := by
    rw [Entry.toValue, nodeValue_eq hf hm, hc, Contents.toValue]
  exact ⟨_, hv, by rw [List.getElem?_map, hg, Option.map_some]⟩

/-- One level down, what stands below a covered element is the value of the entry entered. -/
theorem standsAt_of_enter {e e' : Entry} {l : Level} {element : String} {rest : List String}
    {w : Value} (he : e.enter? nodes l = some e') (hl : Covers l element)
    (hv : StandsAt (e.toValue (nodeValue nodes)) (element :: rest) w) :
    StandsAt (e'.toValue (nodeValue nodes)) rest w := by
  cases e with
  | value v => cases l <;> cases he
  | node n =>
    cases hl with
    | field name =>
      obtain ⟨entries, hm, hg⟩ := lookup_of_enter hf he
      rw [hm] at hv
      cases hv with
      | field h hr =>
        cases hg.symm.trans h
        exact hr
    | item i =>
      obtain ⟨items, hm, hg⟩ := getElem?_of_enter hf he
      rw [hm] at hv
      generalize hs : toString i = element at hv
      cases hv with
      | item h hr =>
        cases toString_inj hs
        cases hg.symm.trans h
        exact hr
    | template i => cases he
  | copies k n =>
    cases hl with
    | template i =>
      cases he
      rw [Entry.toValue] at hv
      generalize toString i = element at hv
      cases hv with
      | item h hr =>
        rw [List.getElem?_replicate] at h
        split at h
        · cases h
          exact hr
        · cases h
    | _ => cases he

/-- At every position that a place covers there stands the value of its entry. -/
theorem eq_of_standsAt {e x : Entry} {place : List Level} {position : List String} {v : Value}
    (hw : e.walk? nodes place = some x) (hp : List.Forall₂ Covers place position)
    (hv : StandsAt (e.toValue (nodeValue nodes)) position v) :
    v = x.toValue (nodeValue nodes) := by
  induction hp generalizing e with
  | nil =>
    cases hw
    generalize x.toValue (nodeValue nodes) = u at hv ⊢
    cases hv
    rfl
  | cons hl hp ih =>
    obtain ⟨e', he, hr⟩ := Option.bind_eq_some_iff.mp hw
    exact ih hr (standsAt_of_enter hf he hl hv)

/-- An entry that can be entered has something to show there. -/
theorem exists_standsAt_of_enter {e e' : Entry} {l : Level} (he : e.enter? nodes l = some e')
    (hc : ∀ k n, e = .copies k n → 0 < k) :
    ∃ element, Covers l element ∧ ∀ rest w, StandsAt (e'.toValue (nodeValue nodes)) rest w →
      StandsAt (e.toValue (nodeValue nodes)) (element :: rest) w := by
  cases e with
  | value v => cases l <;> cases he
  | node n =>
    cases l with
    | field name =>
      obtain ⟨entries, hm, hg⟩ := lookup_of_enter hf he
      exact ⟨name, .field name, fun rest w h => hm ▸ .field hg h⟩
    | item i =>
      obtain ⟨items, hm, hg⟩ := getElem?_of_enter hf he
      exact ⟨toString i, .item i, fun rest w h => hm ▸ .item hg h⟩
    | template => cases he
  | copies k n =>
    cases l with
    | template =>
      cases he
      have hk : 0 < k := hc k n rfl
      refine ⟨toString 0, .template 0, fun rest w h => .item (i := 0) ?_ h⟩
      rw [List.getElem?_replicate, if_pos hk]
      rfl
    | _ => cases he

theorem shows_of_enter {e e' : Entry} {l : Level} (he : e.enter? nodes l = some e') :
    ∀ k n, e' = .copies k n → 0 < k := by
  rintro k n rfl
  cases e with
  | value v => cases l <;> cases he
  | node i =>
    cases l with
    | field name =>
      obtain ⟨m, fields, hm, hc, hg⟩ := Entry.enter?_field.mp he
      refine (hf i m hm (.copies k n) ?_).1
      rw [hc]
      exact List.mem_map_of_mem (Keyed.mem_of_get? hg)
    | item j =>
      obtain ⟨m, items, hm, hc, hg⟩ := Entry.enter?_item.mp he
      refine (hf i m hm (.copies k n) ?_).1
      rw [hc]
      exact List.mem_of_getElem? hg
    | template => cases he
  | copies k n => cases l <;> cases he

/-- Whatever stands at a place shows at some position that the place covers. -/
theorem exists_standsAt {e x : Entry} {place : List Level} (hw : e.walk? nodes place = some x)
    (hc : ∀ k n, e = .copies k n → 0 < k) :
    ∃ position, List.Forall₂ Covers place position
      ∧ StandsAt (e.toValue (nodeValue nodes)) position (x.toValue (nodeValue nodes)) := by
  induction place generalizing e with
  | nil =>
    cases hw
    exact ⟨[], .nil, .here _⟩
  | cons l place ih =>
    obtain ⟨e', he, hr⟩ := Option.bind_eq_some_iff.mp hw
    obtain ⟨position, hp, hv⟩ := ih hr (shows_of_enter hf he)
    obtain ⟨element, hl, h⟩ := exists_standsAt_of_enter hf he hc
    exact ⟨element :: position, .cons hl hp, h _ _ hv⟩


end

/-! ## Positions and places -/

/-- A position goes along a place below an entry: up to its end, or up to a value given as a whole,
and from there on through that value. -/
inductive Along (nodes : List Node) : Entry → List Level → List String → Prop
  | here (e : Entry) : Along nodes e [] []
  | within (v : Value) (position : List String) : Along nodes (.value v) [] position
  | enter {e e' : Entry} {l : Level} {element : String} {place : List Level}
      {position : List String} (he : e.enter? nodes l = some e') (hl : Covers l element)
      (h : Along nodes e' place position) : Along nodes e (l :: place) (element :: position)

section

variable {nodes : List Node} {e x : Entry} {place : List Level} {position : List String}

theorem Along.of_walk (hw : e.walk? nodes place = some x) (hp : List.Forall₂ Covers place position) :
    Along nodes e place position := by
  induction hp generalizing e with
  | nil => exact .here e
  | cons hl hp ih =>
    obtain ⟨e', he, hr⟩ := Option.bind_eq_some_iff.mp hw
    exact .enter he hl (ih hr)

theorem Along.exists_walk (h : Along nodes e place position) : ∃ x, e.walk? nodes place = some x := by
  induction h with
  | here e => exact ⟨e, rfl⟩
  | within v position => exact ⟨.value v, rfl⟩
  | enter he hl h ih =>
    rw [Entry.walk?, he]
    exact ih

theorem Along.length_le (h : Along nodes e place position) : place.length ≤ position.length := by
  induction h with
  | here e => exact Nat.le_refl 0
  | within v position => exact Nat.zero_le _
  | enter he hl h ih => exact Nat.succ_le_succ ih

theorem Along.exists_front (h : Along nodes e place position) :
    ∃ front, front <+: position ∧ List.Forall₂ Covers place front := by
  induction h with
  | here e => exact ⟨[], List.prefix_rfl, .nil⟩
  | within v position => exact ⟨[], List.nil_prefix, .nil⟩
  | @enter _ _ _ element _ _ he hl h ih =>
    obtain ⟨front, hpre, hp⟩ := ih
    exact ⟨element :: front, List.cons_prefix_cons.mpr ⟨rfl, hpre⟩, .cons hl hp⟩

theorem exists_node_of_standsAt {n : Nat} {element : String} {rest : List String} {w : Value}
    (hv : StandsAt (nodeValue nodes n) (element :: rest) w) : ∃ m, nodes[n]? = some m := by
  cases hn : nodes[n]? with
  | some m => exact ⟨m, rfl⟩
  | none =>
    have hlength : nodes.length ≤ n := List.getElem?_eq_none_iff.mp hn
    have hnull : nodeValue nodes n = .null := by
      rw [nodeValue, List.getD_eq_getElem?_getD, List.getElem?_eq_none]
      · rfl
      · rwa [length_valuesFrom]
    rw [hnull] at hv
    cases hv

/-- Whatever stands below an entry, other than in a value given as a whole, stands in an entry one
level below it. -/
theorem exists_enter_of_standsAt (hf : Forward nodes) (hne : ∀ u, e ≠ .value u) {element : String}
    {rest : List String} {w : Value}
    (hv : StandsAt (e.toValue (nodeValue nodes)) (element :: rest) w) :
    ∃ l e', e.enter? nodes l = some e' ∧ Covers l element
      ∧ StandsAt (e'.toValue (nodeValue nodes)) rest w := by
  cases e with
  | value u => exact absurd rfl (hne u)
  | node n =>
    obtain ⟨⟨path, parent, contents⟩, hn⟩ := exists_node_of_standsAt hv
    rw [Entry.toValue, nodeValue_eq hf hn] at hv
    cases contents with
    | object fields =>
      rw [Contents.toValue, Value.record] at hv
      cases hv with
      | field h hr =>
        rw [Value.lookup_record, ← Keyed.mapValues, Keyed.get?_mapValues] at h
        obtain ⟨e', he, rfl⟩ := Option.map_eq_some_iff.mp h
        exact ⟨.field element, e', Entry.enter?_field.mpr ⟨_, fields, hn, rfl, he⟩, .field element, hr⟩
    | array items =>
      rw [Contents.toValue] at hv
      cases hv with
      | @item _ i _ _ _ h hr =>
        rw [List.getElem?_map] at h
        obtain ⟨e', he, rfl⟩ := Option.map_eq_some_iff.mp h
        exact ⟨.item i, e', Entry.enter?_item.mpr ⟨_, items, hn, rfl, he⟩, .item i, hr⟩
  | copies k n =>
    rw [Entry.toValue] at hv
    cases hv with
    | @item _ i _ _ _ h hr =>
      rw [List.getElem?_replicate] at h
      split at h
      · cases h
        exact ⟨.template, .node n, rfl, .template i, hr⟩
      · cases h

/-- Every position at which something stands goes along a place. -/
theorem exists_along (hf : Forward nodes) {v : Value}
    (hv : StandsAt (e.toValue (nodeValue nodes)) position v) :
    ∃ place, Along nodes e place position := by
  induction position generalizing e with
  | nil => exact ⟨[], .here e⟩
  | cons element rest ih =>
    by_cases hne : ∀ u, e ≠ .value u
    · obtain ⟨l, e', he, hl, hr⟩ := exists_enter_of_standsAt hf hne hv
      obtain ⟨place, h⟩ := ih hr
      exact ⟨l :: place, .enter he hl h⟩
    · obtain ⟨u, rfl⟩ := not_forall_not.mp hne
      exact ⟨[], .within u _⟩

end

end HttpContract.Json
