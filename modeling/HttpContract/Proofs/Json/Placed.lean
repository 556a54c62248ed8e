import HttpContract.Proofs.Json.Fill

/-!
Documents in which no place is taken twice: no name is given twice in one object, and all names can
be written. In such a document everything stands where it was noted, under a place of its own.
-/
namespace HttpContract.Json

def NewName (fields : Keyed String Entry) (name : String) : Prop :=
  name ∉ Keyed.keys fields ∧ (Level.field name).Writable

/-- The index of the next item can be written, as that of every list in a memory can. -/
def NewItem (items : List Entry) : Prop := (Level.item items.length).Writable

/-- What the step puts in stands where there was nothing, at a level that can be written. -/
def Fresh : Contents → Step → Prop
  | .object fields, .put name _ | .object fields, .putNull name | .object fields, .openObject name
  | .object fields, .openArray name | .object fields, .eachLike name _
  | .object fields, .minLike name _ _ | .object fields, .maxLike name _ _ => NewName fields name
  | .array items, .append _ | .array items, .appendObject => NewItem items
  | _, _ => True

def Draft.EachStep (P : Contents → Step → Prop) : Draft → List (Nat × Step) → Prop
  | _, [] => True
  | d, move :: moves =>
    (∀ n step, d.nodes[move.1]? = some n → d.settled? move.2 = some step → P n.contents step)
      ∧ (d.moved move).EachStep P moves

/-! ## What a fresh step adds -/

inductive Adds : Contents → Level → Entry → Contents → Prop
  | field {fields : Keyed String Entry} {name : String} (x : Entry)
      (h : name ∉ Keyed.keys fields) :
      Adds (.object fields) (.field name) x (.object (Keyed.put fields name x))
  | item (items : List Entry) (x : Entry) :
      Adds (.array items) (.item items.length) x (.array (items ++ [x]))

def Entry.places (place : List Level) : Entry → List (List Level)
  | value _ => []
  | node _ => [place]
  | copies _ _ => [place ++ [.template]]

def Entry.IsNew (count : Nat) : Entry → Prop
  | value _ => True
  | node n => n = count
  | copies k n => 0 < k ∧ n = count

def Suits (F : Rule → Entry → Prop) : Contents → Step → Prop
  | .object _, .put _ e | .array _, .append e =>
    ∀ rule, e.rule = some rule → F rule (.value e.value)
  | .object _, .putNull _ => F .null (.value .null)
  | .object _, .eachLike _ count => ∀ n, F .type (.copies (max count 1).toNat n)
  | .object _, .minLike _ size count =>
    ∀ n, F (.minType size) (.copies (max (Draft.minCount size count) 1).toNat n)
  | .object _, .maxLike _ size count =>
    ∀ n, F (.maxType size) (.copies (max (min size count) 1).toNat n)
  | _, _ => True

/-- Where nothing is asked of the rules, every fresh step will do. -/
theorem suits_of_fresh (contents : Contents) (step : Step) (h : Fresh contents step) :
    Fresh contents step ∧ Suits (fun _ _ => True) contents step := by
  refine ⟨h, ?_⟩
  cases contents <;> cases step <;> simp [Suits]

variable {F : Rule → Entry → Prop}

/-- What a fresh step does: nothing, or it adds an entry, to which the rule noted there is related,
and the node that this entry refers to. -/
inductive Grows (F : Rule → Entry → Prop) (d : Draft) (here : Nat) (contents : Contents)
    (place : List Level) : Draft → List (List Level) → List Mark → Prop
  | stays : Grows F d here contents place d [] []
  | adds {next : Draft} {l : Level} {x : Entry} {more : Contents} {new : List Node}
      {marks : List Mark} (ha : Adds contents l x more) (hw : l.Writable)
      (hx : x.IsNew d.nodes.length)
      (hn : next.nodes = (d.setContents here more).nodes ++ new)
      (he : ∀ n ∈ new, n.contents.entries = [])
      (hm : ∀ m ∈ marks, m.place = place ++ [l] ∧ ∀ rule, m.rule = some rule → F rule x)
      (h1 : marks.length ≤ 1) : Grows F d here contents place next (x.places (place ++ [l])) marks

variable {d next : Draft} {here there : Nat} {path : String} {place : List Level}

theorem suits_ofExample {e : Example} {x : Entry} (h : ∀ rule, e.rule = some rule → F rule x)
    (place : List Level) : ∀ m ∈ [Mark.ofExample place e], m.place = place
      ∧ ∀ rule, m.rule = some rule → F rule x := by
  intro m hm
  rw [List.mem_singleton.mp hm]
  exact ⟨rfl, h⟩

theorem suits_ofRule {rule : Rule} {x : Entry} (h : F rule x) (place : List Level) :
    ∀ m ∈ [Mark.ofRule place rule], m.place = place
      ∧ ∀ rule, m.rule = some rule → F rule x := by
  intro m hm
  rw [List.mem_singleton.mp hm]
  refine ⟨rfl, fun r hr => ?_⟩
  cases hr
  exact h

theorem grows_template {fields : Keyed String Entry} {name : String} (hf : NewName fields name)
    {rule : Rule} {count : Int} (hr : ∀ n, F rule (.copies (max count 1).toNat n)) (path : String) :
    Grows F d here (.object fields) place (d.template here path fields name rule count).1
      [place ++ [.field name] ++ [.template]] [.ofRule (place ++ [.field name]) rule] := by
  have hk : 0 < (max count 1).toNat := toNat_max_one_pos count
  exact .adds (.field (.copies (max count 1).toNat d.nodes.length) hf.1) hf.2 ⟨hk, rfl⟩ rfl
    (fun n hn => by rw [List.mem_singleton.mp hn]; rfl) (suits_ofRule (hr _) _) (Nat.le_refl 1)

theorem grows_objectStep {fields : Keyed String Entry} {step : Step}
    (h : d.objectStep? here path fields step = some (next, there))
    (ht : Fresh (.object fields) step) (hs : Suits F (.object fields) step) :
    Grows F d here (.object fields) place next (placesOf place (.object fields) step)
      (marksOf place (.object fields) step) := by
  have single (n : Node) (hn : n.contents.entries = []) :
      ∀ m ∈ [n], m.contents.entries = [] := fun m hm => List.mem_singleton.mp hm ▸ hn
  cases step with
  | put name e =>
    cases h
    exact .adds (.field (.value e.value) ht.1) ht.2 trivial (List.append_nil _).symm
      (fun n hn => absurd hn List.not_mem_nil) (suits_ofExample hs _) (Nat.le_refl 1)
  | putNull name =>
    cases h
    exact .adds (.field (.value .null) ht.1) ht.2 trivial (List.append_nil _).symm
      (fun n hn => absurd hn List.not_mem_nil) (suits_ofRule hs _) (Nat.le_refl 1)
  | openObject name =>
    cases h
    exact .adds (.field (.node d.nodes.length) ht.1) ht.2 rfl rfl (single _ rfl)
      (fun m hm => absurd hm List.not_mem_nil) (Nat.zero_le 1)
  | openArray name =>
    cases h
    exact .adds (.field (.node d.nodes.length) ht.1) ht.2 rfl rfl (single _ rfl)
      (fun m hm => absurd hm List.not_mem_nil) (Nat.zero_le 1)
  | eachLike name count =>
    cases h
    exact grows_template ht hs _
  | minLike name size count =>
    cases h
    exact grows_template ht hs _
  | maxLike name size count =>
    cases h
    exact grows_template ht hs _
  | _ => cases h

theorem grows_arrayStep {items : List Entry} {step : Step}
    (h : d.arrayStep? here path items step = some (next, there)) (ht : Fresh (.array items) step)
    (hs : Suits F (.array items) step) :
    Grows F d here (.array items) place next (placesOf place (.array items) step)
      (marksOf place (.array items) step) := by
  cases step with
  | append e =>
    cases h
    exact .adds (.item items (.value e.value)) ht trivial (List.append_nil _).symm
      (fun n hn => absurd hn List.not_mem_nil) (suits_ofExample hs _) (Nat.le_refl 1)
  | appendObject =>
    cases h
    exact .adds (.item items (.node d.nodes.length)) ht rfl rfl
      (fun n hn => by rw [List.mem_singleton.mp hn]; rfl)
      (fun m hm => absurd hm List.not_mem_nil) (Nat.zero_le 1)
  | _ => cases h

/-- All that a fresh step can do. -/
theorem grows_step {n : Node} {step : Step} (hn : d.nodes[here]? = some n)
    (h : d.step? here step = some (next, there)) (ht : Fresh n.contents step)
    (hs : Suits F n.contents step) :
    Grows F d here n.contents place next (placesOf place n.contents step)
      (marksOf place n.contents step) := by
  obtain ⟨path, parent, contents⟩ := n
  cases steps_of_step hn h with
  | closeNode => cases contents <;> exact .stays
  | close => cases contents <;> exact .stays
  | object hc h =>
    cases hc
    exact grows_objectStep h ht hs
  | array hc h =>
    cases hc
    exact grows_arrayStep h ht hs

/-! ## Where entries stand -/

def LevelsWritable (nodes : List Node) : Prop :=
  ∀ i l x, (Entry.node i).enter? nodes l = some x → l.Writable

theorem LevelsWritable.of_walk {nodes : List Node} (h : LevelsWritable nodes) {e x : Entry}
    {place : List Level} (hw : e.walk? nodes place = some x) : ∀ l ∈ place, l.Writable := by
  induction place generalizing e with
  | nil => exact fun l hl => absurd hl List.not_mem_nil
  | cons l place ih =>
    obtain ⟨e', he, hr⟩ := Option.bind_eq_some_iff.mp hw
    refine List.forall_mem_cons.mpr ⟨?_, ih hr⟩
    cases e with
    | value v => cases l <;> cases he
    | node i => exact h i l e' he
    | copies k i =>
      cases l with
      | template => trivial
      | _ => cases he

section

variable {c more : Contents} {l : Level} {x : Entry}

theorem Adds.puts (h : Adds c l x more) : Puts c l x more := by
  cases h with
  | @field fields name x h => exact .field fields name x
  | item items x => exact .item items x

theorem Adds.extends (h : Adds c l x more) : c.Extends more := by
  cases h with
  | @field fields name x h =>
    intro other e he
    have hne : name ≠ other := by
      rintro rfl
      rw [Keyed.get?_eq_none h] at he
      cases he
    rw [Keyed.get?_put, if_neg hne, he]
  | item items x => exact List.prefix_append items [x]

theorem Adds.get?_eq_none (h : Adds c l x more) : c.get? l = none := by
  cases h with
  | @field fields name x h => exact Keyed.get?_eq_none h
  | item items x => exact List.getElem?_eq_none (Nat.le_refl _)

variable {n : Node} {new : List Node} (ha : Adds n.contents l x more)
  (hn : d.nodes[here]? = some n) (hnext : next.nodes = (d.setContents here more).nodes ++ new)

include ha hn hnext

theorem Adds.draft_extends : d.Extends next := by
  intro i m hm
  obtain ⟨m', hm', he⟩ := Draft.extends_setContents hn ha.extends i m hm
  refine ⟨m', ?_, he⟩
  rw [hnext, List.getElem?_append_left (List.getElem?_eq_some_iff.mp hm').1, hm']

theorem Adds.draft_entered : (Entry.node here).enter? next.nodes l = some x := by
  have hset : (d.setContents here more).nodes[here]? = some { n with contents := more } := by
    rw [Draft.setContents, List.getElem?_modify_eq, hn]
    rfl
  have hlt := (List.getElem?_eq_some_iff.mp hset).1
  rw [Entry.enter?_node, hnext, List.getElem?_append_left hlt, hset]
  exact ha.puts.get?_eq

omit ha in
/-- A node is the changed one, or one of the others, or has just been opened. -/
theorem Adds.draft_cases (he : ∀ n ∈ new, n.contents.entries = []) {i : Nat} {m : Node}
    (hm : next.nodes[i]? = some m) :
    i = here ∧ m.contents = more ∨ d.nodes[i]? = some m ∨ m.contents.entries = [] := by
  rw [hnext, List.getElem?_append] at hm
  split at hm
  · rw [Draft.setContents, List.getElem?_modify] at hm
    by_cases hi : here = i
    · subst hi
      simp only [hn, Option.map_eq_map, Option.map_some, if_true, Option.some.injEq] at hm
      exact .inl ⟨rfl, hm ▸ rfl⟩
    · simp only [hi, if_false, Option.map_eq_map, Option.map_id'] at hm
      exact .inr (.inl hm)
  · exact .inr (.inr (he m (List.mem_of_getElem? hm)))

theorem Adds.draft_forward (hf : Forward d.nodes) (hx : x.IsNew d.nodes.length)
    (he : ∀ n ∈ new, n.contents.entries = []) : Forward next.nodes := by
  have hlt : here < d.nodes.length := (List.getElem?_eq_some_iff.mp hn).1
  have hxf : x.Forward here := by
    cases x with
    | value v => trivial
    | node i => exact hx ▸ hlt
    | copies k i => exact ⟨hx.1, hx.2 ▸ hlt⟩
  intro i m hm e hme
  obtain ⟨rfl, hmore⟩ | hm | hm := Adds.draft_cases hn hnext he hm
  · rw [hmore] at hme
    obtain he | rfl := ha.puts.mem_entries hme
    · exact hf _ n hn e he
    · exact hxf
  · exact hf i m hm e hme
  · rw [hm] at hme
    cases hme

theorem Adds.draft_writable (hw : LevelsWritable d.nodes) (hl : l.Writable)
    (he : ∀ n ∈ new, n.contents.entries = []) : LevelsWritable next.nodes := by
  intro i l' y hy
  rw [Entry.enter?_node] at hy
  obtain ⟨m, hm, hg⟩ := Option.bind_eq_some_iff.mp hy
  obtain ⟨rfl, hmore⟩ | hm | hm := Adds.draft_cases hn hnext he hm
  · by_cases hne : l' = l
    · exact hne ▸ hl
    · rw [hmore, ha.puts.get?_ne hne] at hg
      refine hw i l' y ?_
      rw [Entry.enter?_node, hn]
      exact hg
  · refine hw i l' y ?_
    rw [Entry.enter?_node, hm]
    exact hg
  · have hmem := Contents.mem_of_get? hg
    rw [hm] at hmem
    cases hmem

end

/-! ## Fresh runs -/

namespace Chart

/-- Every node stands at its place, and at the place of every mark an entry to which its rule is
related; no two marks share their place. -/
structure Placed (F : Rule → Entry → Prop) (c : Chart) : Prop where
  sound : c.Sound
  forward : Forward c.draft.nodes
  stands : ∀ i place, c.places[i]? = some place → c.draft.entryAt? place = some (.node i)
  fits : ∀ m ∈ c.marks, ∃ x, c.draft.entryAt? m.place = some x
    ∧ ∀ rule, m.rule = some rule → F rule x
  writable : LevelsWritable c.draft.nodes
  distinct : (c.marks.map Mark.place).Nodup

variable {c : Chart}

theorem placed_begin (config : Config) (root : Root) : (begin config root).Placed F where
  sound := sound_begin config root
  forward i n hn e he := by
    cases i with
    | zero =>
      cases hn
      cases root <;> cases he
    | succ i => cases hn
  stands i place hp := by
    cases i with
    | zero =>
      cases hp
      rfl
    | succ i => cases hp
  fits m hm := absurd hm List.not_mem_nil
  writable i l x hx := by
    rw [Entry.enter?_node] at hx
    obtain ⟨n, hn, hg⟩ := Option.bind_eq_some_iff.mp hx
    have hmem := Contents.mem_of_get? hg
    cases i with
    | zero =>
      cases hn
      cases root <;> cases hmem
    | succ i => cases hn
  distinct := .nil

theorem Placed.length_places (h : c.Placed F) : c.places.length = c.draft.nodes.length := by
  have := congrArg List.length h.sound.paths
  simpa using this.symm

theorem Placed.marksWritable (h : c.Placed F) {m : Mark} (hm : m ∈ c.marks) :
    ∀ l ∈ m.place, l.Writable := by
  obtain ⟨x, hx, -⟩ := h.fits m hm
  exact h.writable.of_walk hx

/-- The node that a new entry refers to stands at the place below it. -/
theorem entryAt?_of_places {d : Draft} {place p : List Level} {x : Entry} {i count : Nat}
    (he : d.entryAt? place = some x) (hx : x.IsNew count) (hp : (x.places place)[i]? = some p) :
    d.entryAt? p = some (.node (count + i)) := by
  cases x with
  | value v => cases hp
  | node n =>
    cases i with
    | zero =>
      cases hp
      exact he.trans (congrArg (some ∘ Entry.node) hx)
    | succ i => cases hp
  | copies k n =>
    cases i with
    | zero =>
      cases hp
      rw [Draft.entryAt?_append he, Nat.add_zero, ← hx.2]
      rfl
    | succ i => cases hp

theorem Placed.grow (h : c.Placed F) {here : Nat} {n : Node} {place : List Level}
    (hn : c.draft.nodes[here]? = some n) (hp : c.places[here]? = some place) {next : Draft}
    {places : List (List Level)} {marks : List Mark}
    (hg : Grows F c.draft here n.contents place next places marks)
    (hs : Sound ⟨next, c.places ++ places, c.marks ++ marks⟩) :
    Placed F ⟨next, c.places ++ places, c.marks ++ marks⟩ := by
  cases hg with
  | stays =>
    rw [List.append_nil, List.append_nil]
    exact h
  | @adds next l x more new marks ha hw hx hnext he hm h1 =>
    have hext : c.draft.Extends next := ha.draft_extends hn hnext
    have hhere : next.entryAt? place = some (.node here) := hext.walk? (h.stands here place hp)
    have hentry : next.entryAt? (place ++ [l]) = some x := by
      rw [Draft.entryAt?_append hhere, ha.draft_entered hn hnext]
    have hold : c.draft.entryAt? (place ++ [l]) = none := by
      rw [Draft.entryAt?_append (h.stands here place hp), Entry.enter?_node, hn]
      exact ha.get?_eq_none
    refine ⟨hs, ha.draft_forward hn hnext h.forward hx he, ?stands, ?fits,
      ha.draft_writable hn hnext h.writable hw he, ?distinct⟩
    case stands =>
      intro i p hi
      rw [List.getElem?_append] at hi
      split at hi
      · exact hext.walk? (h.stands i p hi)
      · rename_i hlt
        have hcount : c.draft.nodes.length + (i - c.places.length) = i := by
          rw [← h.length_places]
          omega
        rw [entryAt?_of_places hentry hx hi, hcount]
    case fits =>
      intro m hmem
      rcases List.mem_append.mp hmem with hmem | hmem
      · obtain ⟨y, hy, hfit⟩ := h.fits m hmem
        exact ⟨y, hext.walk? hy, hfit⟩
      · obtain ⟨hplace, hfit⟩ := hm m hmem
        exact ⟨x, hplace ▸ hentry, hfit⟩
    case distinct =>
      rw [List.map_append, List.nodup_append]
      refine ⟨h.distinct, ?_, ?_⟩
      · rcases marks with _ | ⟨m, _ | ⟨m', marks⟩⟩
        · exact .nil
        · exact List.pairwise_singleton _ _
        · exact absurd h1 (by simp)
      · -- At the places of older marks something stood before.
        rintro p hold' q hq rfl
        obtain ⟨m, hmem, hmp⟩ := List.mem_map.mp hold'
        obtain ⟨m', hmem', hmp'⟩ := List.mem_map.mp hq
        obtain ⟨y, hy, -⟩ := h.fits m hmem
        rw [hmp, ← hmp', (hm m' hmem').1, hold] at hy
        cases hy

theorem Placed.moved (h : c.Placed F) {move : Nat × Step}
    (ht : ∀ n step, c.draft.nodes[move.1]? = some n → c.draft.settled? move.2 = some step →
      Fresh n.contents step ∧ Suits F n.contents step) : (c.moved move).Placed F := by
  have hs := h.sound.moved move
  have hm := h.sound.moves move
  generalize c.moved move = t at hm hs ⊢
  cases hm with
  | stays asked => exact { h with sound := hs }
  | @takes n place step asked next there hn hp hsettled hstep =>
    have h' : Placed F { c with draft := { c.draft with asked := asked } } :=
      { h with sound := ⟨h.sound.paths, h.sound.annotations⟩ }
    obtain ⟨hfresh, hsuits⟩ := ht n step hn hsettled
    have hg : Grows F { c.draft with asked := asked } move.1 n.contents place next
        (placesOf place n.contents step) (marksOf place n.contents step) :=
      grows_step hn hstep hfresh hsuits
    exact h'.grow hn hp hg hs

theorem Placed.after (h : c.Placed F) {P : Contents → Step → Prop}
    (hP : ∀ contents step, P contents step → Fresh contents step ∧ Suits F contents step)
    {moves : List (Nat × Step)} (ht : c.draft.EachStep P moves) : (c.after moves).Placed F := by
  induction moves generalizing c with
  | nil => exact h
  | cons move moves ih =>
    obtain ⟨ht, hrest⟩ := ht
    exact ih (h.moved fun n step hn hs => hP _ _ (ht n step hn hs))
      (c.draft_moved move ▸ hrest)

end Chart

end HttpContract.Json
