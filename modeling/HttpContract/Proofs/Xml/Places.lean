import HttpContract.Proofs.Path.Reading
import HttpContract.Proofs.Xml.Counting

/-!
The places that the keys of an XML document stand for. A key is written from the tags and marks on
the way to an element and the attribute or the text that is meant there, with points between them
and without quotes: it is read back as its place exactly if no name on the way has a character that
would have to stand in quotes.
-/
namespace HttpContract

namespace Xml

open HttpContract.Path (IsFieldName Opens Spells)

/-! ## Places -/

inductive Mark
  | number (index : Int)
  | template

inductive Place
  | text
  | attribute (name : String)
  | child (tag : String) (mark : Mark) (inner : Place)

namespace Mark

def text : Mark → String
  | number index => String.ofList (Number.integerText index)
  | template => "*"

def token : Mark → PathToken
  | number index => .field (String.ofList (Number.integerText index))
  | template => .star

end Mark

namespace Place

def parts : Place → List String
  | text => ["#text"]
  | «attribute» name => ["@" ++ name]
  | child tag mark inner => tag :: mark.text :: inner.parts

def tokens : Place → List PathToken
  | text => [.field "#text"]
  | «attribute» name => [.field ("@" ++ name)]
  | child tag mark inner => .field tag :: mark.token :: inner.tokens

def names : Place → List String
  | text => []
  | «attribute» name => [name]
  | child tag _ inner => tag :: inner.names

def key (root : String) (place : Place) : String := ruleKey ["$", root] place.parts

/-- All names can be written as they are; that of an attribute stands behind a sign of its own. -/
def Readable : Place → Prop
  | text => True
  | «attribute» name => ∀ c ∈ name.toList, Path.isFieldChar c = true
  | child tag _ inner => IsFieldName tag ∧ inner.Readable

end Place

/-! ## Keys are read as places -/

def pointed (parts : List String) : List Char := parts.flatMap fun s => '.' :: s.toList

theorem toList_ruleKey (first : String) (path key : List String) :
    (ruleKey (first :: path) key).toList = first.toList ++ pointed (path ++ key) := by
  have joined (parts : List String) (s : String) :
      (".".intercalate (s :: parts)).toList = s.toList ++ pointed parts := by
    induction parts generalizing s with
    | nil => simp [pointed]
    | cons t parts ih =>
      rw [String.intercalate_cons_cons, String.toList_append, ih, String.toList_append,
        List.append_assoc]
      rfl
  exact joined (path ++ key) first

theorem opens_pointed (parts : List String) : Opens (pointed parts) := by
  cases parts with
  | nil => trivial
  | cons s parts => exact .inl rfl

theorem isFieldName_attribute_iff {name : String} :
    IsFieldName ("@" ++ name) ↔ ∀ c ∈ name.toList, Path.isFieldChar c = true := by
  have hlist : ("@" ++ name).toList = '@' :: name.toList := String.toList_append
  rw [IsFieldName, hlist, List.forall_mem_cons]
  refine ⟨fun h => h.2.2, fun h => ⟨fun he => ?_, by decide, h⟩⟩
  rw [he] at hlist
  cases hlist

theorem isFieldName_integerText (index : Int) :
    IsFieldName (String.ofList (Number.integerText index)) := by
  have hdigits : ∀ c ∈ Number.digitsOf index.natAbs, Path.isFieldChar c = true := fun c hc => by
    rw [Path.isFieldChar, Number.isAsciiDigit_of_mem_digitsOf hc, Bool.or_true, Bool.true_or]
  unfold Number.integerText IsFieldName
  rw [Ne, String.ofList_eq_empty_iff, String.toList_ofList]
  split
  · exact ⟨List.cons_ne_nil _ _, List.forall_mem_cons.mpr ⟨by decide, hdigits⟩⟩
  · exact ⟨Number.digitsOf_ne_nil _, hdigits⟩

theorem Mark.spells_iff (mark : Mark) {rest : List Char} {tokens : List PathToken}
    (hr : Opens rest) : Spells ('.' :: (mark.text.toList ++ rest)) (mark.token :: tokens) ↔
      Spells rest tokens := by
  cases mark with
  | number index =>
    rw [Mark.text, Mark.token, Path.spells_field_iff hr,
      and_iff_right (isFieldName_integerText index)]
  | template => exact Path.spells_star_iff

theorem Place.spells_iff (place : Place) :
    Spells (pointed place.parts) place.tokens ↔ place.Readable := by
  have single {name : String} : Spells (pointed [name]) [.field name] ↔ IsFieldName name :=
    (Path.spells_field_iff (show Opens [] from trivial)).trans (and_iff_left .nil)
  induction place with
  | text => exact single.trans (iff_true_intro (by decide))
  | «attribute» name => exact single.trans isFieldName_attribute_iff
  | child tag mark inner ih =>
    exact (Path.spells_field_iff (opens_pointed (mark.text :: inner.parts))).trans
      (and_congr_right' ((mark.spells_iff (opens_pointed inner.parts)).trans ih))

/-- The key of a place is read back as the root and the place exactly if all names on the way can be
written as they are. -/
theorem Place.parse_key_iff (root : String) (place : Place) :
    Path.parse (place.key root) = .ok (.root :: .field root :: place.tokens) ↔
      IsFieldName root ∧ place.Readable := by
  have hkey : (place.key root).toList = '$' :: pointed (root :: place.parts) :=
    toList_ruleKey "$" [root] place.parts
  have hspells : Spells (pointed (root :: place.parts)) (.field root :: place.tokens) ↔
      IsFieldName root ∧ Spells (pointed place.parts) place.tokens :=
    Path.spells_field_iff (opens_pointed place.parts)
  rw [← place.spells_iff, ← hspells, Path.parse_eq_ok_iff]
  constructor
  · rintro (⟨-, h⟩ | ⟨s, rest, hs, hr, h⟩)
    · cases h
    · cases hkey.symm.trans hs
      cases hr
      exact h
  · exact fun h => .inr ⟨_, _, hkey, rfl, h⟩

/-! ## What a run notes -/

structure Note where
  place : Place
  shown : Example

def Note.under (tag : String) (mark : Mark) (n : Note) : Note := ⟨.child tag mark n.place, n.shown⟩

def Note.HasAnnotation (n : Note) : Prop := n.shown.rule.isSome ∨ n.shown.generator.isSome

def noteAll (path : List String) (a : Annotations) (notes : List Note) : Annotations :=
  notes.foldl (fun a n => a.note (ruleKey path n.place.parts) n.shown) a

def Progress.attributeNotes (p : Progress) : List (String × Example) → List Note
  | [] => []
  | (name, e) :: rest =>
    let next := p.attributeStep name e
    ⟨.attribute name, e⟩ :: if next.fault.isSome then [] else next.attributeNotes rest

mutual

def Step.notes (p : Progress) : Step → List Note
  | .attribute name e => [⟨.attribute name, e⟩]
  | .attributes entries => p.attributeNotes entries
  | .text e => [⟨.text, e⟩]
  | .element tag content =>
    let index := p.node.nextIndex tag
    match Value.integerShown index with
    | .ok mark =>
      (content.notes ((p.count tag 1).child tag (String.ofList mark))).map
        (.under tag (.number index))
    | .error _ => []
  | .eachLike tag count steps =>
    (Step.notesOfAll ((p.count tag count).child tag "*") steps).map (.under tag .template)
  | .namespaceOf _ _ | .refused _ => []

def Content.notes (p : Progress) : Content → List Note
  | .nothing => []
  | .example e => [⟨.text, e⟩]
  | .steps steps => Step.notesOfAll p steps

def Step.notesOfAll (p : Progress) : List Step → List Note
  | [] => []
  | step :: rest =>
    let next := step.run p
    step.notes p ++ if next.fault.isSome then [] else Step.notesOfAll next rest

end

theorem noteAll_append (path : List String) (a : Annotations) (notes others : List Note) :
    noteAll path a (notes ++ others) = noteAll path (noteAll path a notes) others :=
  List.foldl_append

/-- What is noted below a child is noted below its parent. -/
theorem noteAll_under (path : List String) (tag : String) (mark : Mark) (a : Annotations)
    (notes : List Note) : noteAll path a (notes.map (.under tag mark)) =
      noteAll (path ++ [tag, mark.text]) a notes := by
  have hkey (n : Note) : ruleKey path (n.under tag mark).place.parts =
      ruleKey (path ++ [tag, mark.text]) n.place.parts := by
    rw [ruleKey, ruleKey, List.append_assoc]
    rfl
  rw [noteAll, List.foldl_map]
  simp only [hkey]
  rfl

theorem Progress.annotations_attributesStep (p : Progress) (entries : List (String × Example)) :
    (p.attributesStep entries).annotations =
      noteAll p.node.path p.annotations (p.attributeNotes entries) := by
  induction entries generalizing p with
  | nil => rfl
  | cons e rest ih =>
    obtain ⟨name, e⟩ := e
    have hfirst : (p.attributeStep name e).annotations = noteAll p.node.path p.annotations
        [⟨.attribute name, e⟩] := annotations_fillIn ..
    have hpath : (p.attributeStep name e).node.path = p.node.path := path_fillIn ..
    rw [attributesStep, attributeNotes]
    split
    · exact hfirst
    · rw [ih, hfirst, hpath]
      rfl

theorem mark_of_shown {index : Int} {mark : List Char} (h : Value.integerShown index = .ok mark) :
    String.ofList mark = (Mark.number index).text := by
  unfold Value.integerShown at h
  split at h
  · cases h
    rfl
  · cases h

mutual

/-- The annotations after a step are those before it with its notes. -/
theorem Step.annotations_run (p : Progress) : (step : Step) →
    (step.run p).annotations = noteAll p.node.path p.annotations (step.notes p)
  | .attribute _ _ => Progress.annotations_fillIn ..
  | .attributes entries => p.annotations_attributesStep entries
  | .text _ => Progress.annotations_fillIn ..
  | .element tag content => by
    rw [Step.notes]
    obtain ⟨mark, hmark, is⟩ | ⟨fault, hfault, is⟩ := Step.annotations_element p tag content
    · rw [is, hmark]
      dsimp only
      rw [noteAll_under, ← mark_of_shown hmark]
      exact content.annotations_fill ((p.count tag 1).child tag (String.ofList mark))
    · rw [is, hfault]
      rfl
  | .eachLike tag count steps => by
    have hinner : (Step.runAll ((p.count tag count).child tag "*") steps).annotations = _ :=
      Step.annotations_runAll ((p.count tag count).child tag "*") steps
    rw [Step.notes, noteAll_under, Step.run]
    split
    · exact hinner
    · rw [Progress.annotations_appendCopies]
      exact hinner
  | .namespaceOf _ _ => rfl
  | .refused _ => rfl

theorem Content.annotations_fill (p : Progress) : (content : Content) →
    (content.fill p).annotations = noteAll p.node.path p.annotations (content.notes p)
  | .nothing => rfl
  | .example _ => Progress.annotations_fillIn ..
  | .steps steps => Step.annotations_runAll p steps

theorem Step.annotations_runAll (p : Progress) : (steps : List Step) →
    (Step.runAll p steps).annotations = noteAll p.node.path p.annotations (Step.notesOfAll p steps)
  | [] => rfl
  | step :: rest => by
    have hfirst := step.annotations_run p
    rw [Step.runAll, Step.notesOfAll]
    split
    · rw [List.append_nil]
      exact hfirst
    · rw [noteAll_append, ← hfirst, ← step.path_run p]
      exact Step.annotations_runAll (step.run p) rest

end

theorem hasKey_noteAll (path : List String) (a : Annotations) (notes : List Note) {key : String} :
    (noteAll path a notes).HasKey key ↔
      a.HasKey key ∨ ∃ n ∈ notes, n.HasAnnotation ∧ key = ruleKey path n.place.parts := by
  induction notes generalizing a with
  | nil => exact ⟨.inl, fun h => h.elim id fun ⟨_, hn, _⟩ => absurd hn List.not_mem_nil⟩
  | cons n notes ih =>
    rw [noteAll, List.foldl_cons]
    refine (ih _).trans ?_
    rw [Annotations.hasKey_note, or_assoc, List.exists_mem_cons_iff]
    rfl

/-! ## The names of a run -/

mutual

def Step.names : Step → List String
  | .attribute name _ => [name]
  | .attributes entries => entries.map Prod.fst
  | .element tag content => tag :: content.names
  | .eachLike tag _ steps => tag :: Step.namesOfAll steps
  | .text _ | .namespaceOf _ _ | .refused _ => []

def Content.names : Content → List String
  | .nothing | .example _ => []
  | .steps steps => Step.namesOfAll steps

def Step.namesOfAll : List Step → List String
  | [] => []
  | step :: rest => step.names ++ Step.namesOfAll rest

end

def Named (notes : List Note) (names : List String) : Prop :=
  ∀ n ∈ notes, ∀ name ∈ n.place.names, name ∈ names

namespace Named

variable {notes others : List Note} {names more : List String}

theorem nil (names : List String) : Named [] names := fun _ h => absurd h List.not_mem_nil

theorem single (name : String) (e : Example) : Named [⟨.attribute name, e⟩] [name] := by
  intro n hn other hother
  cases List.mem_singleton.mp hn
  exact hother

theorem append (h : Named notes names) (h' : Named others more) :
    Named (notes ++ others) (names ++ more) := by
  intro n hn name hname
  rcases List.mem_append.mp hn with hn | hn
  · exact List.mem_append_left _ (h n hn name hname)
  · exact List.mem_append_right _ (h' n hn name hname)

theorem under (h : Named notes names) (tag : String) (mark : Mark) :
    Named (notes.map (.under tag mark)) (tag :: names) := by
  intro m hm name hname
  obtain ⟨n, hn, rfl⟩ := List.mem_map.mp hm
  rcases List.mem_cons.mp hname with rfl | hname
  · exact List.mem_cons_self
  · exact List.mem_cons_of_mem _ (h n hn name hname)

end Named

theorem Progress.named_attributeNotes (p : Progress) (entries : List (String × Example)) :
    Named (p.attributeNotes entries) (entries.map Prod.fst) := by
  induction entries generalizing p with
  | nil => exact .nil _
  | cons e rest ih =>
    obtain ⟨name, e⟩ := e
    rw [attributeNotes]
    split
    · exact (Named.single name e).append (.nil _)
    · exact (Named.single name e).append (ih _)

mutual

theorem Step.named_notes (p : Progress) : (step : Step) → Named (step.notes p) step.names
  | .attribute name e => .single name e
  | .attributes entries => p.named_attributeNotes entries
  | .text e => by
    rintro n hn name hname
    cases List.mem_singleton.mp hn
    exact absurd hname List.not_mem_nil
  | .element tag content => by
    rw [Step.notes, Step.names]
    split
    · exact (content.named_notes _).under tag _
    · exact .nil _
  | .eachLike tag count steps => (Step.named_notesOfAll _ steps).under tag _
  | .namespaceOf _ _ => .nil _
  | .refused _ => .nil _

theorem Content.named_notes (p : Progress) :
    (content : Content) → Named (content.notes p) content.names
  | .nothing => .nil _
  | .example e => Step.named_notes p (.text e)
  | .steps steps => Step.named_notesOfAll p steps

theorem Step.named_notesOfAll (p : Progress) :
    (steps : List Step) → Named (Step.notesOfAll p steps) (Step.namesOfAll steps)
  | [] => .nil _
  | step :: rest => by
    rw [Step.notesOfAll, Step.namesOfAll]
    refine (step.named_notes p).append ?_
    split
    · exact .nil _
    · exact Step.named_notesOfAll (step.run p) rest

end

/-! ## Calls at the root -/

def Progress.notesAfter (p : Progress) : List Step → List Note
  | [] => []
  | step :: rest => step.notes { p with fault := none } ++ (p.next step).notesAfter rest

theorem Progress.annotations_after (p : Progress) (steps : List Step) :
    (p.after steps).annotations = noteAll p.node.path p.annotations (p.notesAfter steps) := by
  induction steps generalizing p with
  | nil => rfl
  | cons step rest ih =>
    have hfirst : (p.next step).annotations = noteAll p.node.path p.annotations
        (step.notes { p with fault := none }) := step.annotations_run { p with fault := none }
    have hpath : (p.next step).node.path = p.node.path := step.path_run { p with fault := none }
    have hrest : (p.after (step :: rest)).annotations = _ := ih (p.next step)
    rw [hrest, hfirst, hpath, notesAfter, noteAll_append]

theorem Progress.named_notesAfter (p : Progress) (steps : List Step) :
    Named (p.notesAfter steps) (Step.namesOfAll steps) := by
  induction steps generalizing p with
  | nil => exact .nil _
  | cons step rest ih =>
    rw [notesAfter, Step.namesOfAll]
    exact (step.named_notes _).append (ih _)

/-! ## Names as XML has them -/

def isNameChar (c : Char) : Bool :=
  Text.isAsciiLetter c || Text.isAsciiDigit c || ['.', '-', '_', ':'].contains c
    || (0x80 ≤ c.toNat && Text.CharClass.of c = .letter)

def IsXmlName (name : String) : Prop := name ≠ "" ∧ ∀ c ∈ name.toList, isNameChar c = true

instance : DecidablePred IsXmlName := fun name =>
  decidable_of_iff (name ≠ "" ∧ name.toList.all isNameChar = true)
    (and_congr_right' List.all_eq_true)

theorem isFieldChar_iff_of_isNameChar {c : Char} (h : isNameChar c = true) :
    Path.isFieldChar c = true ↔ c ≠ '.' ∧ c.toNat < 0x80 := by
  unfold isNameChar at h
  unfold Path.isFieldChar
  simp only [Bool.or_eq_true, List.contains_eq_mem, decide_eq_true_eq, Bool.and_eq_true,
    List.mem_cons, List.not_mem_nil, or_false] at h ⊢
  constructor
  · rintro ((hc | hc) | hc)
    · simp only [Text.isAsciiLetter, Bool.or_eq_true, Bool.and_eq_true, decide_eq_true_eq] at hc
      exact ⟨by rintro rfl; revert hc; decide, by omega⟩
    · simp only [Text.isAsciiDigit, Bool.and_eq_true, decide_eq_true_eq] at hc
      exact ⟨by rintro rfl; revert hc; decide, by omega⟩
    · rcases hc with rfl | rfl | rfl | rfl | rfl | rfl <;> decide
  · rintro ⟨hpoint, hascii⟩
    rcases h with ((hc | hc) | hc) | hc
    · exact .inl (.inl hc)
    · exact .inl (.inr hc)
    · rcases hc with rfl | rfl | rfl | rfl
      · exact absurd rfl hpoint
      all_goals exact .inr (by decide)
    · omega

theorem IsXmlName.isFieldName_iff {name : String} (h : IsXmlName name) :
    IsFieldName name ↔ ∀ c ∈ name.toList, c ≠ '.' ∧ c.toNat < 0x80 :=
  (and_iff_right h.1).trans (forall₂_congr fun c hc => isFieldChar_iff_of_isNameChar (h.2 c hc))

theorem Place.readable_iff {place : Place} (h : ∀ name ∈ place.names, name ≠ "") :
    place.Readable ↔ ∀ name ∈ place.names, IsFieldName name := by
  induction place with
  | text => exact ⟨fun _ _ hn => absurd hn List.not_mem_nil, fun _ => trivial⟩
  | «attribute» name =>
    rw [names, List.forall_mem_singleton] at h ⊢
    exact (and_iff_right h).symm
  | child tag mark inner ih =>
    rw [names, List.forall_mem_cons] at h ⊢
    exact and_congr_right' (ih h.2)

theorem annotations_of_ofSteps {root : String} {steps : List Step} {d : Draft}
    (h : Draft.ofSteps root steps = .ok d) :
    d.annotations = ((Progress.begin root).after steps).annotations := by
  obtain ⟨done, rest, hsteps, hrun, hend⟩ :=
    Progress.exists_runAll_eq_after (p := .begin root) rfl steps
  unfold Draft.ofSteps at h
  dsimp only at h
  split at h
  · cases h
  · rename_i hnone
    cases h
    rw [hend hnone, List.append_nil] at hsteps
    rw [hsteps, ← hrun, ← hsteps]

/-- Whatever is done to a document and whether all of it succeeds or not: the keys of its rules and
generators are those of the places at which something was noted, and the names on the way there are
names that the calls were given. A key is read back as the root, the tag of the document and the
place, tag by tag, exactly if all these names can be written after a point as they are; among the
names of XML those are the ones without points and without letters beyond ASCII. -/
theorem noted_keys_read_as_places (root : String) (steps : List Step) :
    let p := (Progress.begin root).after steps
    let notes := (Progress.begin root).notesAfter steps
    (∀ key, p.annotations.HasKey key ↔ ∃ n ∈ notes, n.HasAnnotation ∧ key = n.place.key root)
    ∧ (∀ d, Draft.ofSteps root steps = .ok d → d.annotations = p.annotations)
    ∧ (∀ n ∈ notes, ∀ name ∈ n.place.names, name ∈ Step.namesOfAll steps)
    ∧ (∀ place : Place, Path.parse (place.key root) = .ok (.root :: .field root :: place.tokens) ↔
        IsFieldName root ∧ place.Readable)
    ∧ ((∀ name ∈ root :: Step.namesOfAll steps, IsXmlName name) → ∀ n ∈ notes,
        (Path.parse (n.place.key root) = .ok (.root :: .field root :: n.place.tokens) ↔
          ∀ name ∈ root :: n.place.names, ∀ c ∈ name.toList, c ≠ '.' ∧ c.toNat < 0x80)) := by
  intro p notes
  have hnamed : Named notes (Step.namesOfAll steps) := Progress.named_notesAfter _ steps
  refine ⟨fun key => ?keys, fun d => annotations_of_ofSteps, hnamed, Place.parse_key_iff root,
    fun hxml n hn => ?xml⟩
  case keys =>
    have hall : p.annotations = noteAll ["$", root] .none notes :=
      (Progress.begin root).annotations_after steps
    rw [hall, hasKey_noteAll]
    exact or_iff_right fun h => h.elim List.not_mem_nil List.not_mem_nil
  case xml =>
    obtain ⟨hroot, hxml⟩ := List.forall_mem_cons.mp hxml
    have hplace : ∀ name ∈ n.place.names, IsXmlName name :=
      fun name h => hxml name (hnamed n hn name h)
    rw [Place.parse_key_iff, Place.readable_iff fun name h => (hplace name h).1,
      List.forall_mem_cons, hroot.isFieldName_iff]
    exact and_congr_right' (forall₂_congr fun name h => (hplace name h).isFieldName_iff)

/-- The attributes of items: one is noted under a key that is read as its place, the other is not. -/
theorem noted_keys_read_as_places_items :
    let steps : List Step := [.eachLike "item" 2
      [.attribute "id" (.like (.text "x")), .attribute "ship.to" (.like (.text "x"))]]
    let place (name : String) : Place := .child "item" .template (.attribute name)
    (∃ d, Draft.ofSteps "order" steps = .ok d
        ∧ ∀ name ∈ ["id", "ship.to"], d.annotations.HasKey ((place name).key "order"))
      ∧ Path.parse ((place "id").key "order") =
        .ok [.root, .field "order", .field "item", .star, .field "@id"]
      ∧ Path.parse ((place "ship.to").key "order") ≠
        .ok [.root, .field "order", .field "item", .star, .field "@ship.to"] := by
  intro steps place
  obtain ⟨hkeys, hdone, -, -, hread⟩ := noted_keys_read_as_places "order" steps
  have hxml : ∀ name ∈ "order" :: Step.namesOfAll steps, IsXmlName name := by decide +kernel
  have hnotes : (Progress.begin "order").notesAfter steps =
      [⟨place "id", .like (.text "x")⟩, ⟨place "ship.to", .like (.text "x")⟩] := by
    with_unfolding_all rfl
  rw [hnotes] at hkeys hread
  obtain ⟨d, hd⟩ : ∃ d, Draft.ofSteps "order" steps = .ok d := by
    with_unfolding_all exact ⟨_, rfl⟩
  have hplain : ∀ name ∈ ["order", "item", "id"], ∀ c ∈ name.toList, c ≠ '.' ∧ c.toNat < 0x80 := by
    simp
  refine ⟨⟨d, hd, fun name hname => ?_⟩, (hread hxml _ (.head _)).mpr hplain, fun h => ?_⟩
  · rw [hdone d hd, hkeys]
    obtain rfl | hname := List.mem_cons.mp hname
    · exact ⟨_, .head _, .inl rfl, rfl⟩
    · obtain rfl := List.mem_singleton.mp hname
      exact ⟨_, .tail _ (.head _), .inl rfl, rfl⟩
  · have hpoints := (hread hxml _ (.tail _ (.head _))).mp h
    exact (hpoints "ship.to" (by decide) '.' (by decide)).1 rfl

/-- Two names of XML: one is refused where it stands in a key, the other is read as two fields. -/
theorem unquoted_names_misread :
    let q := (Progress.begin "größe").after [.text (.like (.text "x"))]
    let p := (Progress.begin "order").after [.attribute "ship.to" (.like (.text "x"))]
    (∀ name ∈ ["größe", "order", "ship.to"], IsXmlName name)
      ∧ Keyed.keys q.annotations.rules = ["$.größe.#text"]
      ∧ (Path.parse "$.größe.#text").toOption = none
      ∧ Keyed.keys p.annotations.rules = ["$.order.@ship.to"]
      ∧ Path.parse "$.order.@ship.to" =
        .ok [.root, .field "order", .field "@ship", .field "to"] := by
  exact ⟨by decide +kernel, by decide +kernel, by decide +kernel, by decide +kernel,
    eq_ok_of_toOption (by decide +kernel)⟩

end Xml

end HttpContract
