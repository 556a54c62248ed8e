import HttpContract.Proofs.Json.Place
import HttpContract.Proofs.Success
import HttpContract.Proofs.Value.Equality

/-!
Documents as nested values. Here nothing is shared: a list shows each copy of a template by itself,
and a step below the template is taken in every copy. Steps are taken at cursors, which stand at
places of the value; what is put where something stood before takes the cursors there out of the
document.
-/
namespace HttpContract

open Json (Level)

/-! ## Places in values -/

namespace Value

/-- What stands at a place: where all copies are meant, in the first of them. -/
def at? : Value → List Level → Option Value
  | v, [] => some v
  | map entries, .field name :: place => (lookup entries name).bind fun v => v.at? place
  | list items, .item i :: place => items[i]?.bind fun v => v.at? place
  | list items, .template :: place => items.head?.bind fun v => v.at? place
  | _, _ :: _ => none

/-- The value with what stands at a place changed: where all copies are meant, in every one. -/
def editAt (f : Value → Value) : Value → List Level → Value
  | v, [] => f v
  | map entries, .field name :: place =>
    map (entries.map fun e => if same e.1 (text name) then (e.1, e.2.editAt f place) else e)
  | list items, .item i :: place => list (items.modify i fun v => v.editAt f place)
  | list items, .template :: place => list (items.map fun v => v.editAt f place)
  | v, _ :: _ => v

def setLevel : Level → Value → Value → Value
  | .field name, w, map entries => map (putEntry entries (text name) w)
  | .item _, w, list items => list (items ++ [w])
  | _, _, v => v

theorem at?_nil (v : Value) : v.at? [] = some v := by
  cases v <;> rfl

theorem editAt_nil (f : Value → Value) (v : Value) : v.editAt f [] = f v := by
  cases v <;> rfl

end Value

namespace Json

/-! ## Steps -/

def Root.empty : Root → Value
  | .object => .record []
  | .array => .list []

inductive Filling
  | value (v : Value)
  /-- An empty object or array, for further steps. -/
  | node (root : Root)
  /-- So many copies of one empty object. -/
  | copies (count : Nat)

def Filling.toValue : Filling → Value
  | value v => v
  | node root => root.empty
  | copies count => .list (List.replicate count (.record []))

def Filling.next (here count : Nat) : Filling → Nat
  | value _ => here
  | node _ | copies _ => count

/-- The number of examples that is asked for; none and zero ask for as many as the size. -/
def askedOr (size : Int) : Option Int → Int
  | some n => if n = 0 then size else n
  | none => size

def filling? (count : Nat) : Root → Step → Option (Level × Filling)
  | .object, .put name e => some (.field name, .value e.value)
  | .object, .putNull name => some (.field name, .value .null)
  | .object, .openObject name => some (.field name, .node .object)
  | .object, .openArray name => some (.field name, .node .array)
  | .object, .eachLike name n => some (.field name, .copies (max n 1).toNat)
  | .object, .minLike name size n =>
    some (.field name, .copies (max (max size (askedOr size n)) 1).toNat)
  | .object, .maxLike name size n => some (.field name, .copies (max (min size n) 1).toNat)
  | .array, .append e => some (.item count, .value e.value)
  | .array, .appendObject => some (.item count, .node .object)
  | _, _ => none

/-- An open node: what it is, the cursor that it was opened at, and the number of copies that it
stands for if it is a template. It has a place as long as nothing else is put there. -/
structure Cursor where
  root : Root
  above : Nat
  copies : Option Nat
  place : Option (List Level)

def Cursor.without (gone : List Level) (c : Cursor) : Cursor :=
  { c with place := c.place.filter fun place => !gone.isPrefixOf place }

structure Nested where
  value : Value
  cursors : List Cursor

namespace Nested

def begin (root : Root) : Nested := ⟨root.empty, [⟨root, 0, none, some []⟩]⟩

def itemCount (r : Nested) (c : Cursor) : Nat :=
  match c.place.bind fun place => r.value.at? place with
  | some (.list items) => items.length
  | _ => 0

def placeOf (r : Nested) (i : Nat) : Option (List Level) := r.cursors[i]?.bind Cursor.place

def opened (here : Nat) (place : Option (List Level)) : Filling → List Cursor
  | .value _ => []
  | .node root => [⟨root, here, none, place⟩]
  | .copies count => [⟨.object, here, some count, place.map fun place => place ++ [.template]⟩]

/-- Puts something in where a cursor stands. One that stands nowhere changes nothing. -/
def fill (r : Nested) (here : Nat) (place : Option (List Level)) (l : Level) (x : Filling) :
    Nested :=
  match place with
  | some place => ⟨r.value.editAt (.setLevel l x.toValue) place,
      r.cursors.map (Cursor.without (place ++ [l])) ++ opened here (some (place ++ [l])) x⟩
  | none => ⟨r.value, r.cursors ++ opened here none x⟩

def step (r : Nested) (move : Nat × Step) : Nested :=
  match r.cursors[move.1]? with
  | none => r
  | some c =>
    match filling? (r.itemCount c) c.root move.2 with
    | some (l, x) => r.fill move.1 c.place l x
    | none => r

def after (r : Nested) (moves : List (Nat × Step)) : Nested := moves.foldl step r

def next? (r : Nested) (here : Nat) (step : Step) : Option Nat :=
  r.cursors[here]?.bind fun c =>
    match step with
    | .closeNode => some c.above
    | .close => some 0
    | step => (filling? (r.itemCount c) c.root step).map fun e => e.2.next here r.cursors.length

end Nested

/-- What is put in does not depend on the number of items before it. -/
theorem filling?_count (m n : Nat) (root : Root) (step : Step) :
    (filling? m root step).map Prod.snd = (filling? n root step).map Prod.snd := by
  cases root <;> cases step <;> rfl

/-! ## Values that can be written down -/

def Serialisable (v : Value) : Prop := ∃ s, render v = .ok s

def Step.Serialisable : Step → Prop
  | .put _ e | .append e => Json.Serialisable e.value
  | _ => True

theorem Serialisable.exists_text {v : Value} (h : Serialisable v) : ∃ s, text v = .ok s := by
  obtain ⟨s, hs⟩ := h
  exact ⟨String.ofList s, by rw [text, hs]⟩

theorem exists_renderItems_iff {items : List Value} :
    (∃ pieces, renderItems items = .ok pieces) ↔ ∀ v ∈ items, Serialisable v := by
  induction items with
  | nil => exact ⟨fun _ v hv => absurd hv List.not_mem_nil, fun _ => ⟨[], rfl⟩⟩
  | cons v rest ih =>
    rw [renderItems, exists_bind_ok_iff, List.forall_mem_cons, ← ih, Serialisable]
    simp only [pure, Except.pure, exists_bind_pure_iff, exists_and_right]

theorem serialisable_list_iff {items : List Value} :
    Serialisable (.list items) ↔ ∀ v ∈ items, Serialisable v := by
  rw [← exists_renderItems_iff, Serialisable, render]
  exact exists_bind_pure_iff

def SerialisableEntry (e : Value × Value) : Prop :=
  (∃ s, keyText e.1 = .ok s) ∧ Serialisable e.2

theorem exists_renderEntries_iff {entries : List (Value × Value)} :
    (∃ pieces, renderEntries entries = .ok pieces) ↔ ∀ e ∈ entries, SerialisableEntry e := by
  induction entries with
  | nil => exact ⟨fun _ e he => absurd he List.not_mem_nil, fun _ => ⟨[], rfl⟩⟩
  | cons e rest ih =>
    obtain ⟨k, v⟩ := e
    rw [renderEntries, exists_bind_ok_iff, List.forall_mem_cons, ← ih, SerialisableEntry,
      Serialisable]
    simp only [exists_bind_ok_iff, pure, Except.pure, Except.ok.injEq, exists_eq', and_true,
      exists_and_right, and_assoc]

theorem serialisable_map_iff {entries : List (Value × Value)} :
    Serialisable (.map entries) ↔ ∀ e ∈ entries, SerialisableEntry e := by
  rw [← exists_renderEntries_iff, Serialisable, render]
  exact exists_bind_pure_iff

/-- A change that keeps values writable keeps the value around them writable. -/
theorem Serialisable.editAt {f : Value → Value} (hf : ∀ v, Serialisable v → Serialisable (f v))
    {place : List Level} {v : Value} (h : Serialisable v) : Serialisable (v.editAt f place) := by
  induction place generalizing v with
  | nil =>
    rw [Value.editAt_nil]
    exact hf v h
  | cons l place ih =>
    cases v with
    | list items =>
      rw [serialisable_list_iff] at h
      cases l with
      | field name => exact serialisable_list_iff.mpr h
      | item i =>
        refine serialisable_list_iff.mpr fun w hw => ?_
        obtain ⟨j, hj⟩ := List.mem_iff_getElem?.mp hw
        rw [List.getElem?_modify] at hj
        obtain ⟨u, hu, rfl⟩ := Option.map_eq_some_iff.mp hj
        have hu := h u (List.mem_of_getElem? hu)
        split
        · exact ih hu
        · exact hu
      | template =>
        refine serialisable_list_iff.mpr fun w hw => ?_
        obtain ⟨u, hu, rfl⟩ := List.mem_map.mp hw
        exact ih (h u hu)
    | map entries =>
      rw [serialisable_map_iff] at h
      cases l with
      | field name =>
        refine serialisable_map_iff.mpr fun e he => ?_
        obtain ⟨u, hu, rfl⟩ := List.mem_map.mp he
        split
        · exact ⟨(h u hu).1, ih (h u hu).2⟩
        · exact h u hu
      | item i => exact serialisable_map_iff.mpr h
      | template => exact serialisable_map_iff.mpr h
    | _ => cases l <;> exact h

theorem serialisable_putEntry {entries : List (Value × Value)} (name : String) {w : Value}
    (hw : Serialisable w) (h : ∀ e ∈ entries, SerialisableEntry e) :
    ∀ e ∈ Value.putEntry entries (.text name) w, SerialisableEntry e := by
  induction entries with
  | nil =>
    intro e he
    rw [List.mem_singleton.mp he]
    exact ⟨⟨name.toList, rfl⟩, hw⟩
  | cons d rest ih =>
    obtain ⟨hd, hrest⟩ := List.forall_mem_cons.mp h
    intro e he
    rw [Value.putEntry] at he
    split at he
    · rcases List.mem_cons.mp he with rfl | he
      · exact ⟨hd.1, hw⟩
      · exact hrest e he
    · rcases List.mem_cons.mp he with rfl | he
      · exact hd
      · exact ih hrest e he

theorem Serialisable.setLevel {l : Level} {w v : Value} (hw : Serialisable w)
    (h : Serialisable v) : Serialisable (Value.setLevel l w v) := by
  cases v with
  | map entries =>
    cases l with
    | field name =>
      exact serialisable_map_iff.mpr (serialisable_putEntry name hw (serialisable_map_iff.mp h))
    | _ => exact h
  | list items =>
    cases l with
    | item i =>
      refine serialisable_list_iff.mpr fun u hu => ?_
      rcases List.mem_append.mp hu with hu | hu
      · exact serialisable_list_iff.mp h u hu
      · exact List.mem_singleton.mp hu ▸ hw
    | _ => exact h
  | _ => cases l <;> exact h

theorem Root.serialisable_empty (root : Root) : Serialisable root.empty := by
  cases root with
  | object => exact ⟨_, rfl⟩
  | array => exact ⟨_, rfl⟩

theorem serialisable_filling {count : Nat} {root : Root} {step : Step} {l : Level} {x : Filling}
    (hs : step.Serialisable) (h : filling? count root step = some (l, x)) :
    Serialisable x.toValue := by
  have hcopies (k : Nat) : Serialisable (Filling.copies k).toValue :=
    serialisable_list_iff.mpr fun v hv =>
      (List.mem_replicate.mp hv).2 ▸ Root.serialisable_empty .object
  cases root with
  | object =>
    cases step with
    | put name e => cases h; exact hs
    | putNull name => cases h; exact ⟨_, rfl⟩
    | openObject name => cases h; exact Root.serialisable_empty .object
    | openArray name => cases h; exact Root.serialisable_empty .array
    | eachLike name n => cases h; exact hcopies _
    | minLike name size n => cases h; exact hcopies _
    | maxLike name size n => cases h; exact hcopies _
    | _ => cases h
  | array =>
    cases step with
    | append e => cases h; exact hs
    | appendObject => cases h; exact Root.serialisable_empty .object
    | _ => cases h

namespace Nested

theorem serialisable_step {r : Nested} {move : Nat × Step} (h : Serialisable r.value)
    (hs : move.2.Serialisable) : Serialisable (r.step move).value := by
  unfold step
  split
  · exact h
  · split
    · rename_i c hc l x hx
      unfold fill
      split
      · exact h.editAt fun v hv => (serialisable_filling hs hx).setLevel hv
      · exact h
    · exact h

theorem serialisable_after {r : Nested} {moves : List (Nat × Step)} (h : Serialisable r.value)
    (hs : ∀ move ∈ moves, move.2.Serialisable) : Serialisable (r.after moves).value := by
  induction moves generalizing r with
  | nil => exact h
  | cons move moves ih =>
    obtain ⟨hmove, hmoves⟩ := List.forall_mem_cons.mp hs
    exact ih (serialisable_step h hmove) hmoves

end Nested

end Json

end HttpContract
