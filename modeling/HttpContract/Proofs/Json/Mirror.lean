import HttpContract.Proofs.Json.Fill
import Mathlib.Logic.Function.Iterate

/-!
A document and the nested value of its steps are the same after every run: whatever the nodes share,
each of their copies shows all that has been put into any of them.
-/
namespace HttpContract.Json

/-! ## What stands at a place -/

section

variable {nodes : List Node} (hf : Forward nodes)

include hf

theorem at?_of_walk {e y : Entry} {place : List Level} (hw : e.walk? nodes place = some y)
    (hc : ∀ k n, e = .copies k n → 0 < k) :
    (e.toValue (nodeValue nodes)).at? place = some (y.toValue (nodeValue nodes)) := by
  induction place generalizing e with
  | nil =>
    cases hw
    exact Value.at?_nil _
  | cons l place ih =>
    obtain ⟨e', he, hr⟩ := Option.bind_eq_some_iff.mp hw
    have hbelow := ih hr (shows_of_enter hf he)
    cases e with
    | value v => cases l <;> cases he
    | node n =>
      cases l with
      | field name =>
        obtain ⟨entries, hv, hg⟩ := lookup_of_enter hf he
        rw [hv, Value.at?, hg]
        exact hbelow
      | item i =>
        obtain ⟨items, hv, hg⟩ := getElem?_of_enter hf he
        rw [hv, Value.at?, hg]
        exact hbelow
      | template => cases he
    | copies k n =>
      cases l with
      | template =>
        cases he
        obtain ⟨k, rfl⟩ := Nat.exists_eq_succ_of_ne_zero (Nat.ne_of_gt (hc k n rfl))
        exact hbelow
      | _ => cases he

end

theorem Draft.at?_value {d : Draft} (hf : Forward d.nodes) {place : List Level} {y : Entry}
    (h : d.entryAt? place = some y) :
    d.value.at? place = some (y.toValue (nodeValue d.nodes)) := by
  rw [value_eq_nodeValue]
  exact at?_of_walk (e := .node 0) hf h fun _ _ h => nomatch h

/-! ## Places after a change -/

namespace Nested

variable {r : Nested} {here : Nat} {l : Level} {x : Filling} {place : List Level}

theorem getElem?_fill_old {i : Nat} (hi : i < r.cursors.length) :
    (r.fill here (some place) l x).cursors[i]? =
      r.cursors[i]?.map (Cursor.without (place ++ [l])) := by
  have hlt : i < (r.cursors.map (Cursor.without (place ++ [l]))).length := by
    rwa [List.length_map]
  rw [fill, List.getElem?_append_left hlt, List.getElem?_map]

theorem getElem?_fill_new {i : Nat} (hi : r.cursors.length ≤ i) :
    (r.fill here (some place) l x).cursors[i]? =
      (opened here (some (place ++ [l])) x)[i - r.cursors.length]? := by
  have hle : (r.cursors.map (Cursor.without (place ++ [l]))).length ≤ i := by
    rwa [List.length_map]
  rw [fill, List.getElem?_append_right hle, List.length_map]

theorem place_without {gone p : List Level} {c : Cursor} :
    (c.without gone).place = some p ↔ c.place = some p ∧ ¬ gone <+: p := by
  rw [Cursor.without, Option.filter_eq_some_iff, Bool.not_eq_true', ← Bool.not_eq_true,
    List.isPrefixOf_iff_prefix]

theorem placeOf_fill_old {i : Nat} (hi : i < r.cursors.length) {p : List Level} :
    (r.fill here (some place) l x).placeOf i = some p ↔
      r.placeOf i = some p ∧ ¬ (place ++ [l]) <+: p := by
  rw [placeOf, getElem?_fill_old hi, placeOf, List.getElem?_eq_getElem hi]
  exact place_without

/-- What is opened stands at its place, a template one level below. -/
theorem place_opened {gone p : List Level} {j : Nat} :
    (opened here (some gone) x)[j]?.bind Cursor.place = some p ↔
      j = 0 ∧ ∃ s, x.below = some s ∧ p = gone ++ s := by
  cases x with
  | value v => simp [opened, Filling.below]
  | node root => cases j <;> simp [opened, Filling.below, eq_comm]
  | copies k => cases j <;> simp [opened, Filling.below, eq_comm]

/-- A template stands below the list that shows its copies. -/
theorem copies_opened {gone p : List Level} {j k : Nat} {c : Cursor}
    (hc : (opened here (some gone) x)[j]? = some c) (hk : c.copies = some k)
    (hp : c.place = some p) : j = 0 ∧ x = .copies k ∧ p = gone ++ [.template] := by
  cases x with
  | value v => cases hc
  | node root =>
    cases j with
    | zero =>
      cases hc
      cases hk
    | succ j => cases hc
  | copies count =>
    cases j with
    | zero =>
      cases hc
      cases hk
      cases hp
      exact ⟨rfl, rfl, rfl⟩
    | succ j => cases hc

theorem placeOf_fill_new {i : Nat} (hi : r.cursors.length ≤ i) {p : List Level} :
    (r.fill here (some place) l x).placeOf i = some p ↔
      i = r.cursors.length ∧ ∃ s, x.below = some s ∧ p = place ++ [l] ++ s := by
  have hzero : i - r.cursors.length = 0 ↔ i = r.cursors.length := by omega
  rw [placeOf, getElem?_fill_new hi, place_opened, hzero]

theorem getElem?_fill_none {i : Nat} {c : Cursor} {p : List Level} (hp : c.place = some p) :
    (r.fill here none l x).cursors[i]? = some c ↔ r.cursors[i]? = some c := by
  rw [fill, List.getElem?_append]
  split
  · exact Iff.rfl
  · rename_i hi
    have hnew : (opened here none x)[i - r.cursors.length]? ≠ some c := fun hc => by
      have hmem := List.mem_of_getElem? hc
      cases x with
      | value v => cases hmem
      | node root =>
        cases List.mem_singleton.mp hmem
        cases hp
      | copies k =>
        cases List.mem_singleton.mp hmem
        cases hp
    rw [List.getElem?_eq_none (Nat.le_of_not_lt hi)]
    exact ⟨fun h => absurd h hnew, fun h => nomatch h⟩

theorem placeOf_eq_some_iff {i : Nat} {p : List Level} :
    r.placeOf i = some p ↔ ∃ c, r.cursors[i]? = some c ∧ c.place = some p :=
  Option.bind_eq_some_iff

theorem placeOf_fill_none {i : Nat} {p : List Level} :
    (r.fill here none l x).placeOf i = some p ↔ r.placeOf i = some p := by
  rw [placeOf_eq_some_iff, placeOf_eq_some_iff]
  exact exists_congr fun c => and_congr_left getElem?_fill_none

end Nested

/-! ## Document and nested value -/

/-- The nested value is that of the document, and for each node there is a cursor of its kind, at
the place of the node; that of a template tells how often it is shown. -/
structure Mirrors (d : Draft) (r : Nested) : Prop where
  orderly : Orderly d.nodes
  kinds : r.cursors.map (fun c => (c.above, c.root)) =
    d.nodes.map (fun n => (n.parent, n.contents.root))
  stands : ∀ i place, r.placeOf i = some place ↔ d.entryAt? place = some (.node i)
  copies : ∀ i c k place, r.cursors[i]? = some c → c.copies = some k → c.place = some place →
    ∃ above, place = above ++ [.template] ∧ d.entryAt? above = some (.copies k i)
  value : r.value = d.value

namespace Mirrors

variable {d next : Draft} {r : Nested} {here : Nat} {n : Node} {l : Level} {x : Filling}
  {more : Contents} {new : List Node} {c : Cursor}

theorem begins (config : Config) (root : Root) :
    Mirrors (.begin config root) (.begin root) := by
  have hnodes : (Draft.begin config root).nodes = [⟨"$", 0, root.contents⟩] := by
    cases root <;> rfl
  refine ⟨hnodes ▸ Orderly.begins root, ?kinds, fun i place => ?stands, fun i c k place hc => ?copies,
    ?value⟩
  case kinds => cases root <;> rfl
  case stands =>
    rw [Draft.entryAt?, hnodes]
    cases place with
    | nil => cases i <;> simp [Nested.placeOf, Nested.begin, Entry.walk?]
    | cons l place =>
      have hl : (Entry.node 0).enter? [⟨"$", 0, root.contents⟩] l = none := by
        cases root <;> cases l <;> rfl
      cases i <;> simp [Nested.placeOf, Nested.begin, Entry.walk?, hl]
  case copies =>
    cases i with
    | zero =>
      cases hc
      rintro ⟨⟩
    | succ i => cases hc
  case value => cases root <;> rfl

theorem length_cursors (h : Mirrors d r) : r.cursors.length = d.nodes.length := by
  simpa using congrArg List.length h.kinds

theorem exists_cursor (h : Mirrors d r) (hn : d.nodes[here]? = some n) :
    ∃ c, r.cursors[here]? = some c ∧ c.above = n.parent ∧ c.root = n.contents.root := by
  have hk := congrArg (·[here]?) h.kinds
  simp only [List.getElem?_map, hn, Option.map_some] at hk
  obtain ⟨c, hc, he⟩ := Option.map_eq_some_iff.mp hk
  exact ⟨c, hc, congrArg Prod.fst he, congrArg Prod.snd he⟩

theorem itemCount_eq (h : Mirrors d r) (hn : d.nodes[here]? = some n)
    (hc : r.cursors[here]? = some c) {place : List Level} (hp : c.place = some place) :
    r.itemCount c = n.contents.count := by
  have hplace : r.placeOf here = some place := by
    rw [Nested.placeOf, hc]
    exact hp
  have hv := Draft.at?_value h.orderly.forward ((h.stands here place).mp hplace)
  rw [Entry.toValue, nodeValue_eq h.orderly.forward hn, ← h.value] at hv
  rw [Nested.itemCount, hp, Option.bind_some, hv]
  cases n.contents with
  | object fields => rfl
  | array items => exact List.length_map ..

theorem place_unique (h : Mirrors d r) {i : Nat} {p q : List Level}
    (hp : d.entryAt? p = some (.node i)) (hq : d.entryAt? q = some (.node i)) : p = q :=
  Option.some.inj (((h.stands i p).mpr hp).symm.trans ((h.stands i q).mpr hq))

theorem lt_of_entryAt? (h : Mirrors d r) {i : Nat} {p : List Level} (hlt : 0 < d.nodes.length)
    (hp : d.entryAt? p = some (.node i)) : i < r.cursors.length := by
  rw [h.length_cursors]
  exact h.orderly.within_of_walk (e := .node 0) hlt hp

/-! ## One step -/

section

variable (h : Mirrors d r) (hf : Fills d.nodes next.nodes here n l x more new)

include h hf

theorem kinds_fill {cursors opened : List Cursor}
    (hc : cursors.map (fun c => (c.above, c.root)) = r.cursors.map (fun c => (c.above, c.root)))
    (ho : opened.map (fun c => (c.above, c.root)) = (x.opens here).map (fun p => (p.1, p.2.root))) :
    (cursors ++ opened).map (fun c => (c.above, c.root)) =
      next.nodes.map (fun n => (n.parent, n.contents.root)) := by
  rw [List.map_append, hc, ho, h.kinds, hf.kinds]

omit h hf in
theorem kinds_opened (place : Option (List Level)) :
    (Nested.opened here place x).map (fun c => (c.above, c.root)) =
      (x.opens here).map (fun p => (p.1, p.2.root)) := by
  cases x with
  | value v => rfl
  | node root => cases root <;> rfl
  | copies k => rfl

/-- Where the node is no part of the document, nothing changes in it. -/
theorem entryAt?_detached (hp : r.placeOf here = none) (p : List Level) :
    next.entryAt? p = d.entryAt? p :=
  hf.walk?_other h.orderly (e := .node 0) hf.length_pos fun q hq => by
    rw [(h.stands here q).mpr hq] at hp
    cases hp

theorem fill_detached (hp : r.placeOf here = none) (l' : Level) :
    Mirrors next (r.fill here none l' x) := by
  refine ⟨hf.orderly h.orderly, h.kinds_fill hf rfl (kinds_opened none), fun i p => ?stands,
    fun i c k p hc hk hcp => ?copies, ?value⟩
  case stands => rw [Nested.placeOf_fill_none, h.entryAt?_detached hf hp, h.stands]
  case copies =>
    obtain ⟨above, rfl, habove⟩ := h.copies i c k p ((Nested.getElem?_fill_none hcp).mp hc) hk hcp
    exact ⟨above, rfl, (h.entryAt?_detached hf hp above).trans habove⟩
  case value =>
    show r.value = next.value
    rw [h.value, value_eq_nodeValue, value_eq_nodeValue]
    refine (hf.nodeValue_unreached h.orderly hf.length_pos fun q hq => ?_).symm
    rw [(h.stands here q).mpr hq] at hp
    cases hp

variable {place : List Level} (hp : r.placeOf here = some place)

include hp

theorem entryAt?_other {p : List Level} (hne : ¬ (place ++ [l]) <+: p) :
    next.entryAt? p = d.entryAt? p :=
  hf.walk?_other h.orderly (e := .node 0) hf.length_pos fun q hq => by
    rwa [h.place_unique hq ((h.stands here place).mp hp)]

theorem entryAt?_filled : next.entryAt? (place ++ [l]) = some (x.toEntry d.nodes.length) := by
  have hshort : ¬ (place ++ [l]) <+: place := fun hpre => by
    have := hpre.length_le
    rw [List.length_append, List.length_singleton] at this
    omega
  have hplace : next.entryAt? place = some (.node here) :=
    (h.entryAt?_other hf hp hshort).trans ((h.stands here place).mp hp)
  rw [Draft.entryAt?_append hplace, hf.enter?_here]

theorem stands_filled (i : Nat) (p : List Level) :
    (r.fill here (some place) l x).placeOf i = some p ↔ next.entryAt? p = some (.node i) := by
  have hlen := h.length_cursors
  by_cases hgone : (place ++ [l]) <+: p
  · -- Below what is put there, only what has just been opened stands.
    obtain ⟨s, rfl⟩ := hgone
    rw [Draft.entryAt?, Entry.walk?_append, ← Draft.entryAt?, h.entryAt?_filled hf hp,
      Option.bind_some, hf.walk?_entry]
    rcases Nat.lt_or_ge i r.cursors.length with hi | hi
    · rw [Nested.placeOf_fill_old hi]
      have hne : i ≠ d.nodes.length := by omega
      simp [hne]
    · rw [Nested.placeOf_fill_new hi, hlen]
      simp
  · rw [h.entryAt?_other hf hp hgone, ← h.stands]
    rcases Nat.lt_or_ge i r.cursors.length with hi | hi
    · rw [Nested.placeOf_fill_old hi]
      exact and_iff_left hgone
    · rw [Nested.placeOf_fill_new hi]
      constructor
      · rintro ⟨-, s, -, rfl⟩
        exact absurd (List.prefix_append ..) hgone
      · intro hold
        exact absurd (h.lt_of_entryAt? hf.length_pos ((h.stands i p).mp hold)) (by omega)

theorem copies_filled {i k : Nat} {p : List Level}
    (hc : (r.fill here (some place) l x).cursors[i]? = some c) (hk : c.copies = some k)
    (hcp : c.place = some p) :
    ∃ above, p = above ++ [.template] ∧ next.entryAt? above = some (.copies k i) := by
  rcases Nat.lt_or_ge i r.cursors.length with hi | hi
  · rw [Nested.getElem?_fill_old hi] at hc
    obtain ⟨old, hold, rfl⟩ := Option.map_eq_some_iff.mp hc
    obtain ⟨hplace, hgone⟩ := Nested.place_without.mp hcp
    obtain ⟨above, rfl, habove⟩ := h.copies i old k p hold hk hplace
    refine ⟨above, rfl, ?_⟩
    rw [h.entryAt?_other hf hp fun hpre => hgone (hpre.trans (List.prefix_append ..)), habove]
  · rw [Nested.getElem?_fill_new hi] at hc
    obtain ⟨hzero, rfl, rfl⟩ := Nested.copies_opened hc hk hcp
    have hlen := h.length_cursors
    have hi' : i = d.nodes.length := by omega
    exact ⟨place ++ [l], rfl, hi' ▸ h.entryAt?_filled hf hp⟩

theorem fill_placed : Mirrors next (r.fill here (some place) l x) := by
  have hhere := (h.stands here place).mp hp
  refine ⟨hf.orderly h.orderly, h.kinds_fill hf ?kinds (kinds_opened _), h.stands_filled hf hp,
    fun i c k p hc hk hcp => h.copies_filled hf hp hc hk hcp, ?value⟩
  case kinds =>
    rw [List.map_map]
    rfl
  case value =>
    show r.value.editAt _ place = next.value
    rw [h.value, value_eq_nodeValue, value_eq_nodeValue]
    exact (hf.toValue_reached h.orderly (e := .node 0) hf.length_pos hhere
      fun q hq => h.place_unique hq hhere).symm

end

/-- Both take the step alike, also where it is not one for the node. -/
theorem takes (h : Mirrors d r) (hn : d.nodes[here]? = some n) {step : Step}
    (ht : Takes d here n step next) : Mirrors next (r.step (here, step)) := by
  obtain ⟨c, hc, -, hroot⟩ := h.exists_cursor hn
  have hplaceOf : r.placeOf here = c.place := by rw [Nested.placeOf, hc, Option.bind_some]
  have hcount := filling?_count (r.itemCount c) n.contents.count n.contents.root step
  rw [Nested.step]
  simp only [hc, hroot]
  cases ht with
  | stays hnone =>
    rw [hnone, Option.map_none, Option.map_eq_none_iff] at hcount
    rw [hcount]
    exact h
  | fills hsome hf =>
    rw [hsome, Option.map_some] at hcount
    obtain ⟨⟨l', x'⟩, hx', rfl⟩ := Option.map_eq_some_iff.mp hcount
    rw [hx']
    cases hp : c.place with
    | none => exact h.fill_detached hf (hplaceOf.trans hp) l'
    | some place =>
      rw [h.itemCount_eq hn hc hp, hsome] at hx'
      cases hx'
      exact h.fill_placed hf (hplaceOf.trans hp)

theorem step_of_no_node (h : Mirrors d r) (hn : d.nodes[here]? = none) (step : Step) :
    r.step (here, step) = r := by
  have hc : r.cursors[here]? = none := by
    rw [List.getElem?_eq_none_iff, h.length_cursors, ← List.getElem?_eq_none_iff, hn]
  rw [Nested.step, hc]

theorem withAsked (h : Mirrors d r) (asked : List String) :
    Mirrors { d with asked := asked } r :=
  ⟨h.orderly, h.kinds, h.stands, h.copies, h.value⟩

end Mirrors

/-! ## Every run -/

namespace Draft

def settledMove? (d : Draft) (move : Nat × Step) : Option (Nat × Step) :=
  (d.settled? move.2).map fun step => (move.1, step)

def settledMoves : Draft → List (Nat × Step) → List (Nat × Step)
  | _, [] => []
  | d, move :: moves => (d.settledMove? move).toList ++ (d.moved move).settledMoves moves

def above (d : Draft) (here : Nat) : Nat := ((d.step? here .closeNode).map Prod.snd).getD here

theorem serialisable_settled {d : Draft} {step settled : Step} (hs : step.Serialisable)
    (h : d.settled? step = some settled) : settled.Serialisable := by
  have sampled {pattern : String} {e : Example} (he : d.sampled? pattern = some e) :
      Json.Serialisable e.value := by
    unfold sampled? at he
    split at he
    · cases he
      exact ⟨_, rfl⟩
    · cases he
  cases step with
  | putSample name pattern =>
    obtain ⟨e, he, rfl⟩ := Option.map_eq_some_iff.mp h
    exact sampled he
  | appendSample pattern =>
    obtain ⟨e, he, rfl⟩ := Option.map_eq_some_iff.mp h
    exact sampled he
  | _ =>
    cases h
    exact hs

theorem serialisable_settledMoves {d : Draft} {moves : List (Nat × Step)}
    (hs : ∀ move ∈ moves, move.2.Serialisable) :
    ∀ move ∈ d.settledMoves moves, move.2.Serialisable := by
  induction moves generalizing d with
  | nil => exact fun move h => absurd h List.not_mem_nil
  | cons move moves ih =>
    obtain ⟨hmove, hmoves⟩ := List.forall_mem_cons.mp hs
    intro m hm
    rw [settledMoves, List.mem_append, Option.mem_toList] at hm
    rcases hm with hm | hm
    · obtain ⟨step, hstep, rfl⟩ := Option.map_eq_some_iff.mp hm
      exact serialisable_settled hmove hstep
    · exact ih hmoves m hm

end Draft

namespace Mirrors

variable {d : Draft} {r : Nested}

theorem moved (h : Mirrors d r) (move : Nat × Step) :
    Mirrors (d.moved move) (r.after (d.settledMove? move).toList) := by
  obtain ⟨here, step⟩ := move
  have hs := settles_moved d here step
  unfold Draft.settledMove?
  generalize d.moved (here, step) = next at hs ⊢
  generalize d.settled? step = settled at hs ⊢
  cases hs with
  | unsettled asked => exact h.withAsked asked
  | @taken step asked next there hstep =>
    cases hn : d.nodes[here]? with
    | none =>
      rw [Chart.step_of_no_node (d := { d with asked := asked }) hn] at hstep
      cases hstep
    | some n => exact (h.withAsked asked).takes hn (takes_step hn hstep)
  | @refused step asked hstep =>
    cases hn : d.nodes[here]? with
    | none =>
      show Mirrors d (r.step (here, step))
      rw [h.step_of_no_node hn]
      exact h
    | some n =>
      exact h.takes hn (.stays (unfilled_of_step (d := { d with asked := asked }) hn hstep))

theorem after (h : Mirrors d r) (moves : List (Nat × Step)) :
    Mirrors (d.after moves) (r.after (d.settledMoves moves)) := by
  induction moves generalizing d r with
  | nil => exact h
  | cons move moves ih =>
    have hrun := ih (h.moved move)
    rwa [Nested.after, Nested.after, ← List.foldl_append] at hrun

/-- Every step leads to the same node in both. -/
theorem next?_eq (h : Mirrors d r) (here : Nat) (step : Step) :
    (d.step? here step).map Prod.snd = r.next? here step := by
  cases hn : d.nodes[here]? with
  | none =>
    have hc : r.cursors[here]? = none := by
      rw [List.getElem?_eq_none_iff, h.length_cursors, ← List.getElem?_eq_none_iff, hn]
    rw [Chart.step_of_no_node hn, Nested.next?, hc]
    rfl
  | some n =>
    obtain ⟨c, hc, habove, hroot⟩ := h.exists_cursor hn
    rw [step?_snd hn, Nested.next?, hc, Option.bind_some, ← habove, ← hroot, ← h.length_cursors]
    have hcount := filling?_count n.contents.count (r.itemCount c) c.root step
    have hnext := congrArg (Option.map (Filling.next here r.cursors.length)) hcount
    rw [Option.map_map, Option.map_map] at hnext
    cases step with
    | closeNode => rfl
    | close => rfl
    | _ => exact hnext

theorem at?_placeOf (h : Mirrors d r) {i : Nat} {place : List Level}
    (hp : r.placeOf i = some place) : r.value.at? place = some (nodeValue d.nodes i) := by
  rw [h.value]
  exact Draft.at?_value h.orderly.forward ((h.stands i place).mp hp)

theorem exists_above_eq_zero (h : Mirrors d r) {here : Nat} (hlt : here < d.nodes.length) :
    ∃ k, d.above^[k] here = 0 := by
  induction here using Nat.strongRecOn with
  | ind here ih =>
    rcases Nat.eq_zero_or_pos here with rfl | hpos
    · exact ⟨0, rfl⟩
    · have hn : d.nodes[here]? = some d.nodes[here] := List.getElem?_eq_getElem hlt
      have hparent : d.nodes[here].parent < here := by
        have := (h.orderly here _ hn).parent
        omega
      have habove : d.above here = d.nodes[here].parent := by
        rw [Draft.above, step?_snd hn]
        rfl
      obtain ⟨k, hk⟩ := ih _ hparent (Nat.lt_trans hparent hlt)
      exact ⟨k + 1, by rwa [Function.iterate_succ_apply, habove]⟩

end Mirrors

/-- After any steps at any nodes, the document is the nested value of these steps, and its text and
bytes are those of that value; if all values can be written down, it has a text. Every step leads to
the same node in both, and from every node closing leads to the root. Where a cursor stands there is
the value of its node; and the list of a template shows, as often as it was asked for, what the
template holds now. -/
theorem document_is_nested (config : Config) (root : Root) (moves : List (Nat × Step)) :
    let d := (Draft.begin config root).after moves
    let r := (Nested.begin root).after ((Draft.begin config root).settledMoves moves)
    d.value = r.value ∧ d.text = text r.value
    ∧ (∀ charset, d.bytes charset = do
        let s ← text r.value
        Encoding.encodeText (.jsonEncoding charset) charset s.toList)
    ∧ ((∀ move ∈ moves, move.2.Serialisable) → ∃ s, d.text = .ok s)
    ∧ (∀ here step, (d.step? here step).map Prod.snd = r.next? here step)
    ∧ (∀ here < d.nodes.length, d.step? here .close = some (d, 0) ∧ ∃ k, d.above^[k] here = 0)
    ∧ (∀ i place, r.placeOf i = some place → r.value.at? place = some (nodeValue d.nodes i))
    ∧ (∀ i c k place, r.cursors[i]? = some c → c.copies = some k → c.place = some place →
      ∃ above, place = above ++ [.template]
        ∧ r.value.at? above = some (.list (List.replicate k (nodeValue d.nodes i)))) := by
  intro d r
  have h : Mirrors d r := (Mirrors.begins config root).after moves
  have htext : d.text = text r.value := congrArg text h.value.symm
  refine ⟨h.value.symm, htext, fun charset => ?_, fun hs => ?_, h.next?_eq, fun here hlt => ?_,
    fun i place => h.at?_placeOf, fun i c k place hc hk hp => ?_⟩
  · rw [Draft.bytes, htext]
  · rw [htext]
    exact (Nested.serialisable_after root.serialisable_empty
      (Draft.serialisable_settledMoves hs)).exists_text
  · refine ⟨?_, h.exists_above_eq_zero hlt⟩
    unfold Draft.step?
    rw [List.getElem?_eq_getElem hlt]
  · obtain ⟨above, rfl, habove⟩ := h.copies i c k place hc hk hp
    rw [h.value]
    exact ⟨above, rfl, Draft.at?_value h.orderly.forward habove⟩

/-- A field that is put into a template stands in both of its copies. -/
theorem document_is_nested_rows :
    let moves : List (Nat × Step) :=
      [(0, .eachLike "rows" 2), (1, .put "id" (.string (.text "u")))]
    let d := (Draft.begin .standard .object).after moves
    let r := (Nested.begin .object).after ((Draft.begin .standard .object).settledMoves moves)
    let row := Value.record [("id", .text "u")]
    d.value = .record [("rows", .list [row, row])] ∧ (∃ s, d.text = .ok s)
      ∧ d.step? 1 .close = some (d, 0) ∧ (∃ k, d.above^[k] 1 = 0)
      ∧ r.value.at? [.field "rows", .template] = some row
      ∧ r.value.at? [.field "rows"] = some (.list (List.replicate 2 row)) := by
  intro moves d r row
  obtain ⟨hvalue, -, -, hserialisable, -, hclose, hplace, hcopies⟩ :=
    document_is_nested .standard .object moves
  have htext : ∃ s, d.text = .ok s :=
    hserialisable (List.forall_mem_cons.mpr ⟨trivial, List.forall_mem_singleton.mpr ⟨_, rfl⟩⟩)
  obtain ⟨hroot, habove⟩ := hclose 1 (by decide)
  obtain ⟨above, hsplit, hlist⟩ := hcopies 1 _ 2 [.field "rows", .template] rfl rfl rfl
  obtain rfl : [.field "rows"] = above := List.append_cancel_right hsplit
  exact ⟨hvalue.trans rfl, htext, hroot, habove, hplace 1 _ rfl, hlist⟩

end HttpContract.Json
