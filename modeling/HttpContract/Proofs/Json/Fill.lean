import HttpContract.Proofs.Json.Chart
import HttpContract.Proofs.Json.Nested
import HttpContract.Proofs.Json.Walk

/-!
What a step puts into a node of a document, and what that changes: the ways that lead over the
entry, and the values of the nodes from which a way leads to the node.
-/
namespace HttpContract.Json

/-! ## Entries put into contents -/

def Root.contents : Root → Contents
  | object => .object []
  | array => .array []

namespace Contents

def root : Contents → Root
  | object _ => .object
  | array _ => .array

def count : Contents → Nat
  | object _ => 0
  | array items => items.length

def get? : Contents → Level → Option Entry
  | object fields, .field name => Keyed.get? fields name
  | array items, .item i => items[i]?
  | _, _ => none

def Distinct : Contents → Prop
  | object fields => (Keyed.keys fields).Nodup
  | array _ => True

theorem mem_of_get? {c : Contents} {l : Level} {e : Entry} (h : c.get? l = some e) :
    e ∈ c.entries := by
  cases c with
  | object fields =>
    cases l with
    | field name => exact List.mem_map_of_mem (Keyed.mem_of_get? h)
    | _ => cases h
  | array items =>
    cases l with
    | item i => exact List.mem_of_getElem? h
    | _ => cases h

theorem Distinct.exists_get? {c : Contents} (h : c.Distinct) {e : Entry} (he : e ∈ c.entries) :
    ∃ l, c.get? l = some e := by
  cases c with
  | object fields =>
    obtain ⟨p, hp, rfl⟩ := List.mem_map.mp he
    exact ⟨.field p.1, Keyed.get?_of_mem h hp⟩
  | array items =>
    obtain ⟨i, hi⟩ := List.mem_iff_getElem?.mp he
    exact ⟨.item i, hi⟩

theorem distinct_of_entries_nil {c : Contents} (h : c.entries = []) : c.Distinct := by
  cases c with
  | object fields =>
    rw [entries, Keyed.values, List.map_eq_nil_iff] at h
    rw [h]
    exact .nil
  | array items => trivial

/-- Where one entry alone changes its value below, that of the contents changes below it. -/
theorem toValue_editAt {c : Contents} (hc : c.Distinct) {l : Level} {e : Entry}
    (he : c.get? l = some e) {f g : Nat → Value} {change : Value → Value} {place : List Level}
    (hl : e.toValue g = (e.toValue f).editAt change place)
    (ho : ∀ l' e', l' ≠ l → c.get? l' = some e' → e'.toValue g = e'.toValue f) :
    c.toValue g = (c.toValue f).editAt change (l :: place) := by
  cases c with
  | object fields =>
    cases l with
    | field name =>
      rw [toValue, toValue, Value.record, Value.record, Value.editAt, List.map_map, List.map_map,
        List.map_map]
      refine congrArg Value.map (List.map_congr_left fun p hp => ?_)
      have hget : Keyed.get? fields p.1 = some p.2 := Keyed.get?_of_mem hc hp
      simp only [Function.comp_apply, Value.same_text, decide_eq_true_eq]
      by_cases hk : p.1 = name
      · have hp2 : p.2 = e := Option.some.inj (hget.symm.trans ((congrArg _ hk).trans he))
        rw [if_pos hk, hp2, hl]
      · have hne : Level.field p.1 ≠ .field name := fun h => hk (Level.field.inj h)
        rw [if_neg hk, ho (.field p.1) p.2 hne hget]
    | _ => cases he
  | array items =>
    cases l with
    | item i =>
      rw [toValue, toValue, Value.editAt]
      refine congrArg Value.list (List.ext_getElem? fun j => ?_)
      rw [List.getElem?_modify, List.getElem?_map, List.getElem?_map]
      by_cases hj : i = j
      · subst hj
        have hi : items[i]? = some e := he
        simp [hi, hl]
      · cases hx : items[j]? with
        | none => rfl
        | some x =>
          have hne : Level.item j ≠ .item i := fun h => hj (Level.item.inj h).symm
          simp [hj, ho (.item j) x hne hx]
    | _ => cases he

end Contents

inductive Puts : Contents → Level → Entry → Contents → Prop
  | field (fields : Keyed String Entry) (name : String) (x : Entry) :
      Puts (.object fields) (.field name) x (.object (Keyed.put fields name x))
  | item (items : List Entry) (x : Entry) :
      Puts (.array items) (.item items.length) x (.array (items ++ [x]))

namespace Puts

variable {c more : Contents} {l : Level} {x : Entry}

theorem mem_entries (h : Puts c l x more) {e : Entry} (he : e ∈ more.entries) :
    e ∈ c.entries ∨ e = x := by
  cases h with
  | field fields name x =>
    obtain ⟨p, hp, rfl⟩ := List.mem_map.mp he
    obtain rfl | hm := Keyed.mem_put hp
    · exact .inr rfl
    · exact .inl (List.mem_map_of_mem hm)
  | item items x => simpa [Contents.entries] using he

theorem get?_eq (h : Puts c l x more) : more.get? l = some x := by
  cases h with
  | field fields name x => exact (Keyed.get?_put fields name name x).trans (if_pos rfl)
  | item items x => exact List.getElem?_concat_length

theorem get?_ne (h : Puts c l x more) {l' : Level} (hl : l' ≠ l) : more.get? l' = c.get? l' := by
  cases h with
  | field fields name x =>
    cases l' with
    | field other =>
      have hne : name ≠ other := fun h => hl (h ▸ rfl)
      exact (Keyed.get?_put fields name other x).trans (if_neg hne)
    | _ => rfl
  | item items x =>
    cases l' with
    | item i =>
      have hne : i ≠ items.length := fun h => hl (h ▸ rfl)
      simp only [Contents.get?, List.getElem?_append, List.getElem?_singleton]
      by_cases hi : i < items.length
      · rw [if_pos hi]
      · have hsub : i - items.length ≠ 0 := by omega
        rw [if_neg hi, if_neg hsub, List.getElem?_eq_none (by omega)]
    | _ => rfl

theorem distinct (h : Puts c l x more) (hc : c.Distinct) : more.Distinct := by
  cases h with
  | field fields name x => exact Keyed.nodup_keys_put hc name x
  | item items x => trivial

theorem root_eq (h : Puts c l x more) : more.root = c.root := by
  cases h <;> rfl

/-- The value of the contents takes that of the entry at its level. -/
theorem toValue_eq (h : Puts c l x more) (f : Nat → Value) :
    more.toValue f = Value.setLevel l (x.toValue f) (c.toValue f) := by
  cases h with
  | field fields name x =>
    rw [Contents.toValue, Contents.toValue, Value.record, Value.record, Value.setLevel]
    refine congrArg Value.map ?_
    induction fields with
    | nil => rfl
    | cons e fields ih =>
      obtain ⟨k, y⟩ := e
      by_cases hk : k = name
      · simp [Keyed.put, Value.putEntry, Value.same_text, hk]
      · simpa [Keyed.put, Value.putEntry, Value.same_text, hk] using ih
  | item items x => simp [Contents.toValue, Value.setLevel]

end Puts

/-! ## Steps at nodes -/

namespace Filling

def toEntry (n : Nat) : Filling → Entry
  | value v => .value v
  | node _ => .node n
  | copies count => .copies count n

def opens (here : Nat) : Filling → List (Nat × Contents)
  | value _ => []
  | node root => [(here, root.contents)]
  | copies _ => [(here, .object [])]

def below : Filling → Option (List Level)
  | value _ => none
  | node _ => some []
  | copies _ => some [.template]

def Shows : Filling → Prop
  | copies count => 0 < count
  | _ => True

theorem entries_nil_of_opens {here : Nat} {x : Filling} {p : Nat × Contents}
    (h : p ∈ x.opens here) : p.1 = here ∧ p.2.entries = [] := by
  cases x with
  | value v => cases h
  | node root =>
    rw [List.mem_singleton.mp h]
    cases root <;> exact ⟨rfl, rfl⟩
  | copies count =>
    rw [List.mem_singleton.mp h]
    exact ⟨rfl, rfl⟩

end Filling

structure Fills (nodes next : List Node) (here : Nat) (n : Node) (l : Level) (x : Filling)
    (more : Contents) (new : List Node) : Prop where
  node : nodes[here]? = some n
  shows : x.Shows
  puts : Puts n.contents l (x.toEntry nodes.length) more
  next_eq : next = (nodes.modify here fun n => { n with contents := more }) ++ new
  opened : new.map (fun m => (m.parent, m.contents)) = x.opens here

inductive Takes (d : Draft) (here : Nat) (n : Node) (step : Step) : Draft → Prop
  | stays (h : filling? n.contents.count n.contents.root step = none) : Takes d here n step d
  | fills {l : Level} {x : Filling} {more : Contents} {new : List Node} {next : Draft}
      (h : filling? n.contents.count n.contents.root step = some (l, x))
      (hf : Fills d.nodes next.nodes here n l x more new) : Takes d here n step next

section

variable {d next : Draft} {here there : Nat} {n : Node} {step : Step}

theorem minCount_eq (size : Int) (count : Option Int) :
    Draft.minCount size count = max size (askedOr size count) := by
  unfold Draft.minCount askedOr
  cases count with
  | none => rfl
  | some n => by_cases hn : n = 0 <;> simp [hn]

theorem toNat_max_one_pos (count : Int) : 0 < (max count 1).toNat := by
  omega

theorem takes_objectStep {path : String} {parent : Nat} {fields : Keyed String Entry}
    (hn : d.nodes[here]? = some ⟨path, parent, .object fields⟩)
    (h : d.objectStep? here path fields step = some (next, there)) :
    Takes d here ⟨path, parent, .object fields⟩ step next := by
  cases step with
  | put name e =>
    cases h
    exact .fills rfl ⟨hn, trivial, .field fields name _, (List.append_nil _).symm, rfl⟩
  | putNull name =>
    cases h
    exact .fills rfl ⟨hn, trivial, .field fields name _, (List.append_nil _).symm, rfl⟩
  | openObject name =>
    cases h
    exact .fills rfl ⟨hn, trivial, .field fields name _, rfl, rfl⟩
  | openArray name =>
    cases h
    exact .fills rfl ⟨hn, trivial, .field fields name _, rfl, rfl⟩
  | eachLike name count =>
    cases h
    exact .fills rfl ⟨hn, toNat_max_one_pos _, .field fields name _, rfl, rfl⟩
  | minLike name size count =>
    rw [Draft.objectStep?, minCount_eq] at h
    cases h
    exact .fills rfl ⟨hn, toNat_max_one_pos _, .field fields name _, rfl, rfl⟩
  | maxLike name size count =>
    cases h
    exact .fills rfl ⟨hn, toNat_max_one_pos _, .field fields name _, rfl, rfl⟩
  | _ => cases h

theorem takes_arrayStep {path : String} {parent : Nat} {items : List Entry}
    (hn : d.nodes[here]? = some ⟨path, parent, .array items⟩)
    (h : d.arrayStep? here path items step = some (next, there)) :
    Takes d here ⟨path, parent, .array items⟩ step next := by
  cases step with
  | append e =>
    cases h
    exact .fills rfl ⟨hn, trivial, .item items _, (List.append_nil _).symm, rfl⟩
  | appendObject =>
    cases h
    exact .fills rfl ⟨hn, trivial, .item items _, rfl, rfl⟩
  | _ => cases h

theorem takes_step (hn : d.nodes[here]? = some n) (h : d.step? here step = some (next, there)) :
    Takes d here n step next := by
  obtain ⟨path, parent, contents⟩ := n
  cases steps_of_step hn h with
  | closeNode => cases contents <;> exact .stays rfl
  | close => cases contents <;> exact .stays rfl
  | object hc h =>
    cases hc
    exact takes_objectStep hn h
  | array hc h =>
    cases hc
    exact takes_arrayStep hn h

/-- A step that is not one for its node fills in nothing. -/
theorem unfilled_of_step (hn : d.nodes[here]? = some n) (h : d.step? here step = none) :
    filling? n.contents.count n.contents.root step = none := by
  obtain ⟨path, parent, contents⟩ := n
  unfold Draft.step? at h
  rw [hn] at h
  cases contents <;> cases step <;> first | rfl | cases h

/-- Where a step leads: up, to the root, or to what it fills in. -/
theorem step?_snd (hn : d.nodes[here]? = some n) (step : Step) :
    (d.step? here step).map Prod.snd = match step with
      | .closeNode => some n.parent
      | .close => some 0
      | step => (filling? n.contents.count n.contents.root step).map fun e =>
        e.2.next here d.nodes.length := by
  obtain ⟨path, parent, contents⟩ := n
  unfold Draft.step?
  rw [hn]
  cases contents <;> cases step <;> rfl

end

/-! ## Orderly nodes -/

def Entry.Within (count : Nat) : Entry → Prop
  | value _ => True
  | node n | copies _ n => n < count

/-- The node of this number, of so many, refers to other ones only, forward and under distinct
names. The node that holds it stands before it; the root is its own. -/
structure Node.Orderly (count i : Nat) (n : Node) : Prop where
  forward : ∀ e ∈ n.contents.entries, e.Forward i
  within : ∀ e ∈ n.contents.entries, e.Within count
  distinct : n.contents.Distinct
  parent : n.parent < max i 1

def Orderly (nodes : List Node) : Prop :=
  ∀ (i : Nat) (n : Node), nodes[i]? = some n → n.Orderly nodes.length i

theorem Node.orderly_of_empty {count i : Nat} {n : Node} (h : n.contents.entries = [])
    (hp : n.parent < max i 1) : n.Orderly count i := by
  refine ⟨fun e he => ?_, fun e he => ?_, Contents.distinct_of_entries_nil h, hp⟩ <;>
  · rw [h] at he
    cases he

theorem Entry.enter?_node (nodes : List Node) (i : Nat) (l : Level) :
    (Entry.node i).enter? nodes l = nodes[i]?.bind fun m => m.contents.get? l := by
  cases hn : nodes[i]? with
  | none => cases l <;> simp [enter?, hn]
  | some m =>
    obtain ⟨path, parent, contents⟩ := m
    cases contents <;> cases l <;> simp [enter?, hn, Contents.get?]

namespace Orderly

variable {nodes : List Node} {e e' : Entry}

theorem forward (h : Orderly nodes) : Forward nodes := fun i n hn => (h i n hn).forward

theorem begins (root : Root) : Orderly [⟨"$", 0, root.contents⟩] := by
  intro i n hn
  cases i with
  | zero =>
    cases hn
    exact Node.orderly_of_empty (by cases root <;> rfl) Nat.one_pos
  | succ i => cases hn

theorem within_of_enter (h : Orderly nodes) {l : Level} (he : e.Within nodes.length)
    (hl : e.enter? nodes l = some e') : e'.Within nodes.length := by
  cases e with
  | value v => cases l <;> cases hl
  | node i =>
    rw [Entry.enter?_node] at hl
    obtain ⟨m, hm, hg⟩ := Option.bind_eq_some_iff.mp hl
    exact (h i m hm).within e' (Contents.mem_of_get? hg)
  | copies k i =>
    cases l with
    | template =>
      cases hl
      exact he
    | _ => cases hl

theorem within_of_walk (h : Orderly nodes) {place : List Level} (he : e.Within nodes.length)
    (hw : e.walk? nodes place = some e') : e'.Within nodes.length := by
  induction place generalizing e with
  | nil =>
    cases hw
    exact he
  | cons l place ih =>
    obtain ⟨e'', hl, hr⟩ := Option.bind_eq_some_iff.mp hw
    exact ih (h.within_of_enter he hl) hr

theorem lt_of_walk (h : Orderly nodes) {place : List Level} {i j : Nat} (he : e.Forward i)
    (hw : e.walk? nodes place = some (.node j)) : i < j := by
  induction place generalizing e i with
  | nil =>
    cases hw
    exact he
  | cons l place ih =>
    obtain ⟨e', hl, hr⟩ := Option.bind_eq_some_iff.mp hw
    cases e with
    | value v => cases l <;> cases hl
    | node k =>
      rw [Entry.enter?_node] at hl
      obtain ⟨m, hm, hg⟩ := Option.bind_eq_some_iff.mp hl
      exact Nat.lt_trans he (ih ((h k m hm).forward e' (Contents.mem_of_get? hg)) hr)
    | copies count k =>
      cases l with
      | template =>
        cases hl
        exact ih (e := .node k) he.2 hr
      | _ => cases hl

end Orderly

namespace Fills

variable {nodes next new : List Node} {here : Nat} {n : Node} {l : Level} {x : Filling}
  {more : Contents} (h : Fills nodes next here n l x more new)

include h

theorem here_lt : here < nodes.length := (List.getElem?_eq_some_iff.mp h.node).1

theorem length_pos : 0 < nodes.length := Nat.zero_lt_of_lt h.here_lt

theorem getElem?_here : next[here]? = some { n with contents := more } := by
  have hlt : here < (nodes.modify here fun n => { n with contents := more }).length := by
    rw [List.length_modify]
    exact h.here_lt
  rw [h.next_eq, List.getElem?_append_left hlt, List.getElem?_modify_eq, h.node]
  rfl

theorem getElem?_other {i : Nat} (hi : i < nodes.length) (hne : i ≠ here) :
    next[i]? = nodes[i]? := by
  have hlt : i < (nodes.modify here fun n => { n with contents := more }).length := by
    rwa [List.length_modify]
  rw [h.next_eq, List.getElem?_append_left hlt, List.getElem?_modify_ne _ _ (Ne.symm hne)]

theorem length_next : next.length = nodes.length + (x.opens here).length := by
  rw [h.next_eq, List.length_append, List.length_modify, ← h.opened, List.length_map]

theorem empty_of_le {i : Nat} {m : Node} (hi : nodes.length ≤ i) (hm : next[i]? = some m) :
    m.parent = here ∧ m.contents.entries = [] := by
  have hle : (nodes.modify here fun n => { n with contents := more }).length ≤ i := by
    rwa [List.length_modify]
  rw [h.next_eq, List.getElem?_append_right hle] at hm
  refine Filling.entries_nil_of_opens (x := x) (p := (m.parent, m.contents)) ?_
  rw [← h.opened]
  exact List.mem_map_of_mem (List.mem_of_getElem? hm)

theorem kinds : next.map (fun m => (m.parent, m.contents.root)) =
    nodes.map (fun m => (m.parent, m.contents.root)) ++
      (x.opens here).map (fun p => (p.1, p.2.root)) := by
  rw [h.next_eq, List.map_append, ← h.opened, List.map_map]
  refine congrArg (· ++ _) (List.ext_getElem? fun i => ?_)
  rw [List.getElem?_map, List.getElem?_map, List.getElem?_modify]
  by_cases hi : here = i
  · subst hi
    simp [h.node, h.puts.root_eq]
  · simp [hi]

theorem forward_entry : (x.toEntry nodes.length).Forward here := by
  have hs := h.shows
  cases x with
  | value v => trivial
  | node root => exact h.here_lt
  | copies k => exact ⟨hs, h.here_lt⟩

theorem within_entry : (x.toEntry nodes.length).Within next.length := by
  rw [h.length_next]
  cases x with
  | value v => trivial
  | node root => exact Nat.lt_succ_self _
  | copies k => exact Nat.lt_succ_self _

theorem orderly (ho : Orderly nodes) : Orderly next := by
  have hle : nodes.length ≤ next.length := by
    rw [h.length_next]
    exact Nat.le_add_right _ _
  have wider (e : Entry) (he : e.Within nodes.length) : e.Within next.length := by
    cases e with
    | value v => trivial
    | node i => exact Nat.lt_of_lt_of_le he hle
    | copies k i => exact Nat.lt_of_lt_of_le he hle
  intro i m hm
  by_cases hi : i = here
  · subst hi
    cases hm.symm.trans h.getElem?_here
    obtain ⟨hforward, hwithin, hdistinct, hparent⟩ := ho _ n h.node
    refine ⟨fun e he => ?_, fun e he => ?_, h.puts.distinct hdistinct, hparent⟩
    · obtain he | rfl := h.puts.mem_entries he
      · exact hforward e he
      · exact h.forward_entry
    · obtain he | rfl := h.puts.mem_entries he
      · exact wider e (hwithin e he)
      · exact h.within_entry
  · rcases Nat.lt_or_ge i nodes.length with hlt | hge
    · obtain ⟨hforward, hwithin, hdistinct, hparent⟩ :=
        ho i m ((h.getElem?_other hlt hi).symm.trans hm)
      exact ⟨hforward, fun e he => wider e (hwithin e he), hdistinct, hparent⟩
    · obtain ⟨hparent, hempty⟩ := h.empty_of_le hge hm
      have hlt := h.here_lt
      exact Node.orderly_of_empty hempty (by omega)

/-! ## Ways after the change -/

theorem enter?_here : (Entry.node here).enter? next l = some (x.toEntry nodes.length) := by
  rw [Entry.enter?_node, h.getElem?_here]
  exact h.puts.get?_eq

theorem enter?_other {e : Entry} (he : e.Within nodes.length) {l' : Level}
    (hne : e = .node here → l' ≠ l) : e.enter? next l' = e.enter? nodes l' := by
  cases e with
  | value v => cases l' <;> rfl
  | copies k i => cases l' <;> rfl
  | node i =>
    rw [Entry.enter?_node, Entry.enter?_node]
    by_cases hi : i = here
    · subst hi
      rw [h.getElem?_here, h.node]
      exact h.puts.get?_ne (hne rfl)
    · rw [h.getElem?_other he hi]

theorem walk?_other (ho : Orderly nodes) {e : Entry} (he : e.Within nodes.length)
    {place : List Level} (hne : ∀ r, e.walk? nodes r = some (.node here) → ¬ (r ++ [l]) <+: place) :
    e.walk? next place = e.walk? nodes place := by
  induction place generalizing e with
  | nil => rfl
  | cons l' place ih =>
    have hl : e = .node here → l' ≠ l := by
      rintro rfl rfl
      exact hne [] rfl (List.prefix_append [l'] place)
    rw [Entry.walk?, Entry.walk?, h.enter?_other he hl]
    cases hx : e.enter? nodes l' with
    | none => rfl
    | some e' =>
      refine ih (ho.within_of_enter he hx) fun r hr hp => hne (l' :: r) ?_ ?_
      · rw [Entry.walk?, hx]
        exact hr
      · exact List.cons_prefix_cons.mpr ⟨rfl, hp⟩

theorem enter?_opened (l' : Level) : (Entry.node nodes.length).enter? next l' = none := by
  rw [Entry.enter?_node]
  cases hm : next[nodes.length]? with
  | none => rfl
  | some m =>
    cases hg : m.contents.get? l' with
    | none => exact hg
    | some e =>
      have hmem := Contents.mem_of_get? hg
      rw [(h.empty_of_le (Nat.le_refl _) hm).2] at hmem
      cases hmem

/-- From the new entry there is one way, to the node that is opened. -/
theorem walk?_entry {place : List Level} {i : Nat} :
    (x.toEntry nodes.length).walk? next place = some (.node i) ↔
      i = nodes.length ∧ x.below = some place := by
  have opened (rest : List Level) : (Entry.node nodes.length).walk? next rest = some (.node i) ↔
      i = nodes.length ∧ some [] = some rest := by
    cases rest with
    | nil => simp [Entry.walk?, eq_comm]
    | cons l' rest => simp [Entry.walk?, h.enter?_opened l']
  cases x with
  | value v =>
    cases place with
    | nil => simp [Filling.toEntry, Entry.walk?, Filling.below]
    | cons l' rest => cases l' <;> simp [Filling.toEntry, Entry.walk?, Entry.enter?, Filling.below]
  | node root => exact opened place
  | copies k =>
    cases place with
    | nil => simp [Filling.toEntry, Entry.walk?, Filling.below]
    | cons l' rest =>
      cases l' with
      | template =>
        refine (opened rest).trans ?_
        simp [Filling.below]
      | _ => simp [Filling.toEntry, Entry.walk?, Entry.enter?, Filling.below]

/-! ## Values after the change -/

/-- The value of a node from which no way leads to the changed one stays. -/
theorem nodeValue_unreached (ho : Orderly nodes) {i : Nat} (hi : i < nodes.length)
    (hne : ∀ r, (Entry.node i).walk? nodes r ≠ some (.node here)) :
    nodeValue next i = nodeValue nodes i := by
  -- All that stands in a node comes behind it, so that the induction runs from the last node.
  induction hk : nodes.length - i using Nat.strongRecOn generalizing i with
  | ind k ih =>
    have hih : i ≠ here := fun he => hne [] (he ▸ rfl)
    have hnode : nodes[i]? = some nodes[i] := List.getElem?_eq_getElem hi
    have hnext : next[i]? = some nodes[i] := (h.getElem?_other hi hih).trans hnode
    obtain ⟨hforward, hwithin, hdistinct, -⟩ := ho i _ hnode
    rw [nodeValue_eq (h.orderly ho).forward hnext, nodeValue_eq ho.forward hnode]
    refine Contents.toValue_congr_entries fun e he => ?_
    obtain ⟨l', hl'⟩ := hdistinct.exists_get? he
    have henter : (Entry.node i).enter? nodes l' = some e := by
      rw [Entry.enter?_node, hnode]
      exact hl'
    have below (r : List Level) : e.walk? nodes r ≠ some (.node here) := fun hr =>
      hne (l' :: r) (by rwa [Entry.walk?, henter])
    have hf := hforward e he
    have hw := hwithin e he
    cases e with
    | value v => rfl
    | node j =>
      have hlt : nodes.length - j < k := Nat.lt_of_lt_of_eq (Nat.sub_lt_sub_left hi hf) hk
      exact ih _ hlt hw below rfl
    | copies count j =>
      have hlt : nodes.length - j < k := Nat.lt_of_lt_of_eq (Nat.sub_lt_sub_left hi hf.2) hk
      rw [Entry.toValue, Entry.toValue, ih _ hlt hw (fun r hr => below (.template :: r) hr) rfl]

theorem toValue_unreached (ho : Orderly nodes) {e : Entry} (he : e.Within nodes.length)
    (hne : ∀ r, e.walk? nodes r ≠ some (.node here)) :
    e.toValue (nodeValue next) = e.toValue (nodeValue nodes) := by
  cases e with
  | value v => rfl
  | node i => exact h.nodeValue_unreached ho he hne
  | copies k i =>
    rw [Entry.toValue, Entry.toValue,
      h.nodeValue_unreached ho he fun r hr => hne (.template :: r) hr]

theorem nodeValue_opened (ho : Orderly nodes) {root : Root} (hx : x.opens here = [(here, root.contents)]) :
    nodeValue next nodes.length = root.empty := by
  have hopened := h.opened
  rw [hx] at hopened
  obtain ⟨m, hm, hc⟩ := List.map_eq_singleton_iff.mp hopened
  have hnext : next[nodes.length]? = some m := by
    rw [h.next_eq, hm, ← List.length_modify (fun n : Node => { n with contents := more }) nodes here]
    exact List.getElem?_concat_length
  have hcontents : m.contents = root.contents := congrArg Prod.snd hc
  rw [nodeValue_eq (h.orderly ho).forward hnext, hcontents]
  cases root <;> rfl

theorem toValue_entry (ho : Orderly nodes) :
    (x.toEntry nodes.length).toValue (nodeValue next) = x.toValue := by
  cases x with
  | value v => rfl
  | node root => exact h.nodeValue_opened ho rfl
  | copies k =>
    have hopened : nodeValue next nodes.length = Root.object.empty := h.nodeValue_opened ho rfl
    rw [Filling.toEntry, Entry.toValue, hopened]
    rfl

theorem nodeValue_here (ho : Orderly nodes) :
    nodeValue next here = Value.setLevel l x.toValue (nodeValue nodes here) := by
  obtain ⟨hforward, hwithin, -, -⟩ := ho here n h.node
  have hold : n.contents.toValue (nodeValue next) = n.contents.toValue (nodeValue nodes) :=
    Contents.toValue_congr_entries fun e he => h.toValue_unreached ho (hwithin e he) fun r hr =>
      Nat.lt_irrefl here (ho.lt_of_walk (hforward e he) hr)
  rw [nodeValue_eq (h.orderly ho).forward h.getElem?_here, h.puts.toValue_eq, h.toValue_entry ho,
    hold, ← nodeValue_eq ho.forward h.node]

/-- Where a single way leads to the changed node, the value changes at the end of it. -/
theorem toValue_reached (ho : Orderly nodes) {e : Entry} (he : e.Within nodes.length)
    {place : List Level} (hw : e.walk? nodes place = some (.node here))
    (hu : ∀ r, e.walk? nodes r = some (.node here) → r = place) :
    e.toValue (nodeValue next) =
      (e.toValue (nodeValue nodes)).editAt (.setLevel l x.toValue) place := by
  -- Beside the way, values stay, since no other way leads to the changed node.
  induction place generalizing e with
  | nil =>
    cases hw
    rw [Value.editAt_nil]
    exact h.nodeValue_here ho
  | cons l' place ih =>
    obtain ⟨e', hl, hr⟩ := Option.bind_eq_some_iff.mp hw
    have below {l'' : Level} {e'' : Entry} (hl : e.enter? nodes l'' = some e'') {r : List Level}
        (hr : e''.walk? nodes r = some (.node here)) : l'' = l' ∧ r = place :=
      List.cons.inj (hu (l'' :: r) (by rwa [Entry.walk?, hl]))
    have hentered := ih (ho.within_of_enter he hl) hr fun r hr => (below hl hr).2
    cases e with
    | value v => cases l' <;> cases hl
    | copies k i =>
      cases l' with
      | template =>
        cases hl
        rw [Entry.toValue, Entry.toValue, Value.editAt, List.map_replicate]
        exact congrArg (fun v => Value.list (List.replicate k v)) hentered
      | _ => cases hl
    | node i =>
      have hi : i ≠ here := by
        rintro rfl
        cases hu [] rfl
      have hnode : nodes[i]? = some nodes[i] := List.getElem?_eq_getElem he
      have hnext : next[i]? = some nodes[i] := (h.getElem?_other he hi).trans hnode
      have hget (l'' : Level) : (Entry.node i).enter? nodes l'' = nodes[i].contents.get? l'' := by
        rw [Entry.enter?_node, hnode]
        rfl
      rw [Entry.toValue, Entry.toValue, nodeValue_eq (h.orderly ho).forward hnext,
        nodeValue_eq ho.forward hnode]
      refine Contents.toValue_editAt (ho i _ hnode).distinct ((hget l').symm.trans hl) hentered
        fun l'' e'' hne hg => ?_
      have hl'' := (hget l'').trans hg
      exact h.toValue_unreached ho (ho.within_of_enter he hl'') fun r hr => hne (below hl'' hr).1

end Fills

end HttpContract.Json
