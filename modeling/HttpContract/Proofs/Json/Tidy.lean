import HttpContract.Matching.Comparison
import HttpContract.Proofs.Json.Placed

/-!
Documents that are put together tidily: no name is given twice in one object, all names can be
written, and every rule accepts its own example. In such a document every rule accepts what stands
at its place.
-/
namespace HttpContract

/-- The rule finds nothing to object to in its own example. -/
def Example.Accepted (e : Example) : Prop :=
  ∀ rule, e.rule = some rule → ∀ path, rule.check path e.value e.value = .ok []

namespace Json

def Tidy : Contents → Step → Prop
  | .object fields, .put name e => NewName fields name ∧ e.Accepted
  | .object fields, .putNull name | .object fields, .openObject name
  | .object fields, .openArray name | .object fields, .eachLike name _
  | .object fields, .minLike name _ _ => NewName fields name
  | .object fields, .maxLike name size _ => NewName fields name ∧ 1 ≤ size
  | .array items, .append e => NewItem items ∧ e.Accepted
  | .array items, .appendObject => NewItem items
  | _, _ => True

def Draft.TidyRun : Draft → List (Nat × Step) → Prop
  | _, [] => True
  | d, move :: moves =>
    (∀ n step, d.nodes[move.1]? = some n → d.settled? move.2 = some step → Tidy n.contents step)
      ∧ (d.moved move).TidyRun moves

/-- The rule accepts what stands there: an example, or a list by its type and size. -/
inductive Fits : Rule → Entry → Prop
  | value {rule : Rule} {v : Value} (h : ∀ path, rule.check path v v = .ok []) :
      Fits rule (.value v)
  | type (k n : Nat) : Fits .type (.copies k n)
  | least {size : Int} {k : Nat} (h : size ≤ k) (n : Nat) : Fits (.minType size) (.copies k n)
  | greatest {size : Int} {k : Nat} (h : k ≤ size) (n : Nat) : Fits (.maxType size) (.copies k n)

theorem le_minCount (size : Int) (count : Option Int) : size ≤ Draft.minCount size count := by
  unfold Draft.minCount
  omega

theorem suits_of_tidy (contents : Contents) (step : Step) (h : Tidy contents step) :
    Fresh contents step ∧ Suits Fits contents step := by
  have example_fits {e : Example} (he : e.Accepted) :
      ∀ rule, e.rule = some rule → Fits rule (.value e.value) := fun rule hr => .value (he rule hr)
  cases contents with
  | object fields =>
    cases step with
    | put name e => exact ⟨h.1, example_fits h.2⟩
    | putNull name => exact ⟨h, .value fun _ => rfl⟩
    | openObject name => exact ⟨h, trivial⟩
    | openArray name => exact ⟨h, trivial⟩
    | eachLike name count => exact ⟨h, .type _⟩
    | minLike name size count =>
      have hs := le_minCount size count
      exact ⟨h, .least (by omega)⟩
    | maxLike name size count =>
      have hs := h.2
      exact ⟨h.1, .greatest (by omega)⟩
    | _ => exact ⟨trivial, trivial⟩
  | array items =>
    cases step with
    | append e => exact ⟨h.1, example_fits h.2⟩
    | appendObject => exact ⟨h, trivial⟩
    | _ => exact ⟨trivial, trivial⟩

theorem Draft.TidyRun.eachStep {d : Draft} {moves : List (Nat × Step)} (h : d.TidyRun moves) :
    d.EachStep Tidy moves := by
  induction moves generalizing d with
  | nil => trivial
  | cons move moves ih => exact ⟨h.1, ih h.2⟩

namespace Chart

/-- Everything stands where it was noted, and each rule accepts what stands at its place. -/
abbrev Faithful (c : Chart) : Prop := c.Placed Fits

theorem faithful_begin (config : Config) (root : Root) : (begin config root).Faithful :=
  placed_begin config root

theorem Faithful.after {c : Chart} (h : c.Faithful) {moves : List (Nat × Step)}
    (ht : c.draft.TidyRun moves) : (c.after moves).Faithful :=
  Placed.after h suits_of_tidy ht.eachStep

end Chart

end Json

end HttpContract
