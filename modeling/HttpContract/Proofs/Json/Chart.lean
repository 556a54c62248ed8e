import HttpContract.Proofs.Json.Place

/-!
Charts of documents that are put together: at each step the places of the nodes and what has been
noted at which place. The paths of the nodes and the keys of the annotations are the expressions of
these places.
-/
namespace HttpContract.Json

/-! ## Runs -/

def Draft.sampled? (d : Draft) (pattern : String) : Option Example :=
  match d.examples d.asked pattern with
  | .ok s => some (.sampled pattern s)
  | .error _ => none

def Draft.settled? (d : Draft) : Step → Option Step
  | .putSample name pattern => (d.sampled? pattern).map (.put name)
  | .appendSample pattern => (d.sampled? pattern).map .append
  | step => some step

/-- The document after a step at some node. A step that is not one for this node changes nothing. -/
def Draft.moved (d : Draft) (move : Nat × Step) : Draft :=
  match d.attempt? move.1 move.2 with
  | some (_, next) => next
  | none => d

def Draft.after (d : Draft) (moves : List (Nat × Step)) : Draft := moves.foldl Draft.moved d

/-! ## Charts -/

structure Mark where
  place : List Level
  rule : Option Rule
  generator : Option Generator

def Mark.ofExample (place : List Level) (e : Example) : Mark := ⟨place, e.rule, e.generator⟩

def Mark.ofRule (place : List Level) (rule : Rule) : Mark := ⟨place, some rule, none⟩

def marksOf (place : List Level) : Contents → Step → List Mark
  | .object _, .put name e => [.ofExample (place ++ [.field name]) e]
  | .object _, .putNull name => [.ofRule (place ++ [.field name]) .null]
  | .object _, .eachLike name _ => [.ofRule (place ++ [.field name]) .type]
  | .object _, .minLike name size _ => [.ofRule (place ++ [.field name]) (.minType size)]
  | .object _, .maxLike name size _ => [.ofRule (place ++ [.field name]) (.maxType size)]
  | .array items, .append e => [.ofExample (place ++ [.item items.length]) e]
  | _, _ => []

def placesOf (place : List Level) : Contents → Step → List (List Level)
  | .object _, .openObject name | .object _, .openArray name => [place ++ [.field name]]
  | .object _, .eachLike name _ | .object _, .minLike name _ _ | .object _, .maxLike name _ _ =>
    [place ++ [.field name] ++ [.template]]
  | .array items, .appendObject => [place ++ [.item items.length]]
  | _, _ => []

structure Chart where
  draft : Draft
  /-- The places of the nodes, by their numbers. -/
  places : List (List Level)
  marks : List Mark

namespace Chart

def begin (config : Config) (root : Root) : Chart := ⟨.begin config root, [[]], []⟩

def site? (c : Chart) (move : Nat × Step) : Option (List Level × Contents × Step) := do
  let node ← c.draft.nodes[move.1]?
  let place ← c.places[move.1]?
  let step ← c.draft.settled? move.2
  return (place, node.contents, step)

def moved (c : Chart) (move : Nat × Step) : Chart :=
  match c.site? move with
  | some (place, contents, step) => ⟨c.draft.moved move, c.places ++ placesOf place contents step,
      c.marks ++ marksOf place contents step⟩
  | none => { c with draft := c.draft.moved move }

def after (c : Chart) (moves : List (Nat × Step)) : Chart := moves.foldl moved c

end Chart

def mark (a : Annotations) (m : Mark) : Annotations :=
  a.note (keyOf m.place) ⟨.null, m.rule, m.generator⟩

/-! ## One step -/

structure Follows (d next : Draft) (places : List (List Level)) (marks : List Mark) : Prop where
  paths : next.nodes.map Node.path = d.nodes.map Node.path ++ places.map keyOf
  annotations : next.annotations = marks.foldl mark d.annotations

namespace Follows

variable {d next last : Draft} {places others : List (List Level)} {marks further : List Mark}

theorem trans (h : Follows d next places marks) (h' : Follows next last others further) :
    Follows d last (places ++ others) (marks ++ further) := by
  refine ⟨?_, ?_⟩
  · rw [h'.paths, h.paths, List.map_append, List.append_assoc]
  · rw [h'.annotations, h.annotations, List.foldl_append]

theorem of_same (hn : next.nodes = d.nodes) (ha : next.annotations = d.annotations) :
    Follows d next [] [] := by
  refine ⟨?_, ha⟩
  rw [hn, List.map_nil, List.append_nil]

theorem note (d : Draft) (place : List Level) (e : Example) :
    Follows d (d.note (keyOf place) e) [] [.ofExample place e] :=
  ⟨(List.append_nil _).symm, rfl⟩

theorem addRule (d : Draft) (place : List Level) (rule : Rule) :
    Follows d (d.addRule (keyOf place) rule) [] [.ofRule place rule] :=
  ⟨(List.append_nil _).symm, rfl⟩

theorem setContents (d : Draft) (here : Nat) (contents : Contents) :
    Follows d (d.setContents here contents) [] [] := by
  refine ⟨List.ext_getElem? fun i => ?_, rfl⟩
  simp only [Draft.setContents, List.map_nil, List.append_nil, List.getElem?_map,
    List.getElem?_modify]
  cases d.nodes[i]? with
  | none => rfl
  | some n =>
    rw [Option.map_eq_map, Option.map_some]
    split <;> rfl

theorem addNode (d : Draft) (place : List Level) (parent : Nat) (contents : Contents) :
    Follows d (d.addNode ⟨keyOf place, parent, contents⟩) [place] [] :=
  ⟨List.map_append, rfl⟩

end Follows

variable {d next : Draft} {here there : Nat} {place : List Level}

theorem childPath_keyOf (place : List Level) (name : String) :
    childPath (keyOf place) name = keyOf (place ++ [.field name]) :=
  (keyOf_append place (.field name)).symm

theorem itemPath_keyOf (place : List Level) (items : List Entry) :
    itemPath (keyOf place) items = keyOf (place ++ [.item items.length]) :=
  (keyOf_append place (.item items.length)).symm

theorem template_keyOf (place : List Level) : keyOf place ++ "[*]" = keyOf (place ++ [.template]) :=
  (keyOf_append place .template).symm

theorem follows_template (d : Draft) (here : Nat) (place : List Level)
    (fields : Keyed String Entry) (name : String) (rule : Rule) (count : Int) :
    Follows d (d.template here (keyOf place) fields name rule count).1 [place ++ [.template]]
      [.ofRule place rule] := by
  unfold Draft.template
  rw [template_keyOf]
  exact ((Follows.addRule d place rule).trans (.setContents _ here _)).trans (.addNode _ _ here _)

theorem follows_objectStep {fields : Keyed String Entry} {step : Step}
    (h : d.objectStep? here (keyOf place) fields step = some (next, there)) :
    Follows d next (placesOf place (.object fields) step) (marksOf place (.object fields) step) := by
  unfold Draft.objectStep? at h
  simp only [childPath_keyOf] at h
  cases step with
  | put name e =>
    cases h
    exact (Follows.note d _ e).trans (.setContents _ here _)
  | putNull name =>
    cases h
    exact (Follows.addRule d _ .null).trans (.setContents _ here _)
  | openObject name =>
    cases h
    exact (Follows.setContents d here _).trans (.addNode _ _ here _)
  | openArray name =>
    cases h
    exact (Follows.setContents d here _).trans (.addNode _ _ here _)
  | eachLike name count =>
    cases h
    exact follows_template d here _ fields name .type count
  | minLike name size count =>
    cases h
    exact follows_template d here _ fields name _ _
  | maxLike name size count =>
    cases h
    exact follows_template d here _ fields name _ _
  | _ => cases h

theorem follows_arrayStep {items : List Entry} {step : Step}
    (h : d.arrayStep? here (keyOf place) items step = some (next, there)) :
    Follows d next (placesOf place (.array items) step) (marksOf place (.array items) step) := by
  unfold Draft.arrayStep? at h
  simp only [itemPath_keyOf] at h
  cases step with
  | append e =>
    cases h
    exact (Follows.note d _ e).trans (.setContents _ here _)
  | appendObject =>
    cases h
    exact (Follows.setContents d here _).trans (.addNode _ _ here _)
  | _ => cases h

inductive Steps (d : Draft) (here : Nat) (n : Node) : Step → Draft → Nat → Prop
  | closeNode : Steps d here n .closeNode d n.parent
  | close : Steps d here n .close d 0
  | object {fields : Keyed String Entry} {step : Step} {next : Draft} {there : Nat}
      (hc : n.contents = .object fields)
      (h : d.objectStep? here n.path fields step = some (next, there)) : Steps d here n step next there
  | array {items : List Entry} {step : Step} {next : Draft} {there : Nat}
      (hc : n.contents = .array items)
      (h : d.arrayStep? here n.path items step = some (next, there)) : Steps d here n step next there

theorem steps_of_step {n : Node} {step : Step} (hn : d.nodes[here]? = some n)
    (h : d.step? here step = some (next, there)) : Steps d here n step next there := by
  obtain ⟨path, parent, contents⟩ := n
  unfold Draft.step? at h
  rw [hn] at h
  cases step with
  | closeNode =>
    cases h
    exact .closeNode
  | close =>
    cases h
    exact .close
  | _ =>
    cases contents with
    | object fields => exact .object rfl h
    | array items => exact .array rfl h

theorem follows_step {n : Node} {step : Step} (hn : d.nodes[here]? = some n)
    (hp : n.path = keyOf place) (h : d.step? here step = some (next, there)) :
    Follows d next (placesOf place n.contents step) (marksOf place n.contents step) := by
  obtain ⟨path, parent, contents⟩ := n
  subst hp
  cases steps_of_step hn h with
  | closeNode => cases contents <;> exact .of_same rfl rfl
  | close => cases contents <;> exact .of_same rfl rfl
  | object hc h =>
    cases hc
    exact follows_objectStep h
  | array hc h =>
    cases hc
    exact follows_arrayStep h

/-- A step that is not one for its node notes nothing. -/
theorem unnoted_of_step (place : List Level) {n : Node} {step : Step}
    (hn : d.nodes[here]? = some n) (h : d.step? here step = none) :
    placesOf place n.contents step = [] ∧ marksOf place n.contents step = [] := by
  obtain ⟨path, parent, contents⟩ := n
  unfold Draft.step? at h
  rw [hn] at h
  cases contents <;> cases step <;> first | exact ⟨rfl, rfl⟩ | cases h

/-- The outcome of a move, seen from the settled step: without one, nothing changes but what is
remembered of examples. -/
inductive Settles (d : Draft) (here : Nat) : Option Step → Draft → Prop
  | unsettled (asked : List String) : Settles d here none { d with asked := asked }
  | taken {step : Step} {asked : List String} {next : Draft} {there : Nat}
      (h : { d with asked := asked }.step? here step = some (next, there)) :
      Settles d here (some step) next
  | refused {step : Step} {asked : List String}
      (h : { d with asked := asked }.step? here step = none) : Settles d here (some step) d

theorem settles_plain {step : Step} (h : d.attempt? here step =
      (d.step? here step).map fun (next, there) => (.ok there, next)) :
    Settles d here (some step) (d.moved (here, step)) := by
  unfold Draft.moved
  rw [h]
  cases hs : d.step? here step with
  | none => exact Settles.refused hs
  | some next => exact Settles.taken hs

theorem settles_sample {step : Step} {pattern : String} {build : Example → Step}
    (h : d.attempt? here step = d.sampleStep? here pattern build) :
    Settles d here ((d.sampled? pattern).map build) (d.moved (here, step)) := by
  unfold Draft.moved Draft.sampled?
  rw [h]
  unfold Draft.sampleStep?
  cases d.examples d.asked pattern with
  | error e => exact .unsettled _
  | ok s =>
    dsimp only [Option.map_some]
    cases hs : Draft.step? { d with asked := d.asked ++ [pattern] } here
        (build (.sampled pattern s)) with
    | none => exact .refused hs
    | some next => exact .taken hs

theorem settles_moved (d : Draft) (here : Nat) (step : Step) :
    Settles d here (d.settled? step) (d.moved (here, step)) := by
  cases step with
  | putSample name pattern => exact settles_sample rfl
  | appendSample pattern => exact settles_sample rfl
  | _ => exact settles_plain rfl

/-! ## Every run -/

namespace Chart

structure Sound (c : Chart) : Prop where
  paths : c.draft.nodes.map Node.path = c.places.map keyOf
  annotations : c.draft.annotations = c.marks.foldl mark .none

theorem sound_begin (config : Config) (root : Root) : (begin config root).Sound := ⟨rfl, rfl⟩

variable {c : Chart}

theorem Sound.of_follows (h : c.Sound) {next : Draft} {places : List (List Level)}
    {marks : List Mark} (hf : Follows c.draft next places marks) :
    Sound ⟨next, c.places ++ places, c.marks ++ marks⟩ where
  paths := by rw [hf.paths, h.paths, List.map_append]
  annotations := by rw [hf.annotations, h.annotations, List.foldl_append]

theorem Sound.path_eq (h : c.Sound) {here : Nat} {n : Node} {place : List Level}
    (hn : c.draft.nodes[here]? = some n) (hp : c.places[here]? = some place) :
    n.path = keyOf place := by
  have := congrArg (·[here]?) h.paths
  simpa [hn, hp] using this

inductive Moves (c : Chart) (move : Nat × Step) : Chart → Prop
  | stays (asked : List String) : Moves c move { c with draft := { c.draft with asked := asked } }
  | takes {n : Node} {place : List Level} {step : Step} {asked : List String} {next : Draft}
      {there : Nat} (hn : c.draft.nodes[move.1]? = some n) (hp : c.places[move.1]? = some place)
      (hs : c.draft.settled? move.2 = some step)
      (h : { c.draft with asked := asked }.step? move.1 step = some (next, there)) :
      Moves c move ⟨next, c.places ++ placesOf place n.contents step,
        c.marks ++ marksOf place n.contents step⟩

theorem Sound.exists_place (h : c.Sound) {here : Nat} {n : Node}
    (hn : c.draft.nodes[here]? = some n) : ∃ place, c.places[here]? = some place := by
  have := congrArg (·[here]?) h.paths
  simp only [List.getElem?_map, hn, Option.map_some] at this
  obtain ⟨place, hp, -⟩ := Option.map_eq_some_iff.mp this.symm
  exact ⟨place, hp⟩

/-- Where there is no node, no step is one for it. -/
theorem step_of_no_node (hn : d.nodes[here]? = none) (step : Step) : d.step? here step = none := by
  unfold Draft.step?
  rw [hn]

theorem Sound.moves (h : c.Sound) (move : Nat × Step) : Moves c move (c.moved move) := by
  obtain ⟨here, step⟩ := move
  have hm := settles_moved c.draft here step
  unfold Chart.moved site?
  generalize c.draft.moved (here, step) = next at hm
  cases hn : c.draft.nodes[here]? with
  | none =>
    generalize c.draft.settled? step = settled at hm
    cases hm with
    | unsettled asked => exact .stays asked
    | @taken _ asked _ _ hstep =>
      rw [step_of_no_node (d := { c.draft with asked := asked }) hn] at hstep
      cases hstep
    | refused => exact .stays c.draft.asked
  | some n =>
    obtain ⟨place, hp⟩ := h.exists_place hn
    rw [hp]
    cases hs : c.draft.settled? step with
    | none =>
      rw [hs] at hm
      cases hm with
      | unsettled asked => exact .stays asked
    | some settled =>
      rw [hs] at hm
      cases hm with
      | taken hstep => exact .takes hn hp hs hstep
      | @refused _ asked hstep =>
        -- A refused step is charted as nothing.
        obtain ⟨hplaces, hmarks⟩ :=
          unnoted_of_step (d := { c.draft with asked := asked }) place hn hstep
        show Moves c (here, step) ⟨c.draft, c.places ++ placesOf place n.contents settled,
          c.marks ++ marksOf place n.contents settled⟩
        rw [hplaces, hmarks, List.append_nil, List.append_nil]
        exact .stays c.draft.asked

theorem Sound.moved (h : c.Sound) (move : Nat × Step) : (c.moved move).Sound := by
  have hm := h.moves move
  generalize c.moved move = t at hm ⊢
  cases hm with
  | stays asked => exact ⟨h.paths, h.annotations⟩
  | @takes n place step asked next there hn hp hs hstep =>
    have hf := follows_step (d := { c.draft with asked := asked }) hn (h.path_eq hn hp) hstep
    exact h.of_follows ⟨hf.paths, hf.annotations⟩

theorem draft_moved (c : Chart) (move : Nat × Step) :
    (c.moved move).draft = c.draft.moved move := by
  unfold Chart.moved
  split <;> rfl

theorem draft_after (c : Chart) (moves : List (Nat × Step)) :
    (c.after moves).draft = c.draft.after moves := by
  induction moves generalizing c with
  | nil => rfl
  | cons move moves ih =>
    exact (ih (c.moved move)).trans (congrArg (Draft.after · moves) (c.draft_moved move))

theorem Sound.after (h : c.Sound) (moves : List (Nat × Step)) : (c.after moves).Sound := by
  induction moves generalizing c with
  | nil => exact h
  | cons move moves ih => exact ih (h.moved move)

end Chart

end HttpContract.Json
