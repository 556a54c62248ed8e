import HttpContract.Proofs.Success
import HttpContract.Proofs.Xml.Keys

/-!
How children are numbered. `element` numbers its child by a counter for its tag, and `each_like`
adds to that counter what it was asked for, which need not be what it puts in place: the counter and
the children of a tag drift apart by exactly that, and nothing else moves either of them.
-/
namespace HttpContract.Xml

theorem children_setAttribute (e : Element) (name : String) (v : Value) :
    (e.setAttribute name v).children = e.children := by
  cases e
  rfl

theorem children_setText (e : Element) (s : String) : (e.setText s).children = e.children := by
  cases e
  rfl

theorem children_append (e child : Element) : (e.append child).children = e.children ++ [child] := by
  cases e
  rfl

theorem tag_setAttribute (e : Element) (name : String) (v : Value) :
    (e.setAttribute name v).tag = e.tag := by
  cases e
  rfl

theorem tag_setText (e : Element) (s : String) : (e.setText s).tag = e.tag := by
  cases e
  rfl

theorem tag_append (e child : Element) : (e.append child).tag = e.tag := by
  cases e
  rfl

namespace Node

def blank (own : String) (path : List String) : Node := ⟨.ofTag own, path, []⟩

def nextIndex (n : Node) (tag : String) : Int := (Keyed.get? n.counts tag).getD (-1) + 1

def childrenOf (n : Node) (tag : String) : List Element :=
  n.element.children.filter fun e => decide (e.tag = tag)

/-- How far the counter of a tag is ahead of the children that are there. -/
def lead (n : Node) (tag : String) : Int := n.nextIndex tag - (n.childrenOf tag).length

end Node

namespace Progress

structure Trims (p q : Progress) : Prop where
  tag : q.node.element.tag = p.node.element.tag
  children : q.node.element.children = p.node.element.children
  counts : q.node.counts = p.node.counts

theorem Trims.lead {p q : Progress} (h : Trims p q) (tag : String) :
    q.node.lead tag = p.node.lead tag := by
  rw [Node.lead, Node.nextIndex, Node.childrenOf, h.counts, h.children]
  rfl

theorem trims_fillIn (p : Progress) (key : String) (e : Example)
    {place : String → Element → Element}
    (ht : ∀ s element, (place s element).tag = element.tag)
    (hc : ∀ s element, (place s element).children = element.children) :
    Trims p (p.fillIn key e place) := by
  unfold fillIn
  split
  · exact ⟨ht _ _, hc _ _, rfl⟩
  · exact ⟨rfl, rfl, rfl⟩

theorem trims_attributeStep (p : Progress) (name : String) (e : Example) :
    Trims p (p.attributeStep name e) :=
  trims_fillIn p _ e (fun s element => tag_setAttribute element name (.text s))
    fun s element => children_setAttribute element name (.text s)

theorem trims_textStep (p : Progress) (e : Example) : Trims p (p.textStep e) :=
  trims_fillIn p _ e (fun s element => tag_setText element s)
    fun s element => children_setText element s

theorem trims_attributesStep (p : Progress) (entries : List (String × Example)) :
    Trims p (p.attributesStep entries) := by
  induction entries generalizing p with
  | nil => exact ⟨rfl, rfl, rfl⟩
  | cons e rest ih =>
    have hfirst := p.trims_attributeStep e.1 e.2
    rw [attributesStep]
    split
    · exact hfirst
    · have hrest := ih (p.attributeStep e.1 e.2)
      exact ⟨hrest.tag.trans hfirst.tag, hrest.children.trans hfirst.children,
        hrest.counts.trans hfirst.counts⟩

theorem nextIndex_count (p : Progress) (t tag : String) (n : Int) :
    (p.count t n).node.nextIndex tag = p.node.nextIndex tag + if t = tag then n else 0 := by
  unfold count Node.nextIndex
  rw [Keyed.get?_put]
  split
  · rename_i h
    subst h
    rw [Option.getD_some]
    omega
  · rw [Int.add_zero]

theorem tag_appendCopies (p : Progress) (e : Element) (n : Nat) :
    (p.appendCopies e n).node.element.tag = p.node.element.tag := by
  induction n generalizing p with
  | zero => rfl
  | succ n ih => exact (ih _).trans (tag_append ..)

theorem counts_appendCopies (p : Progress) (e : Element) (n : Nat) :
    (p.appendCopies e n).node.counts = p.node.counts := by
  induction n generalizing p with
  | zero => rfl
  | succ n ih => exact ih _

theorem children_appendCopies (p : Progress) (e : Element) (n : Nat) :
    (p.appendCopies e n).node.element.children =
      p.node.element.children ++ List.replicate n e := by
  induction n generalizing p with
  | zero => exact (List.append_nil _).symm
  | succ n ih =>
    rw [appendCopies, ih]
    exact (congrArg (· ++ _) (children_append ..)).trans (List.append_assoc ..)

theorem fault_appendCopies (p : Progress) (e : Element) (n : Nat) :
    (p.appendCopies e n).fault = p.fault := by
  induction n generalizing p with
  | zero => rfl
  | succ n ih => exact ih _

end Progress

/-! ## The tag of an element never changes -/

theorem Progress.tag_numbered (p : Progress) (tag : String) (fill : Progress → Progress) :
    (p.numbered tag fill).node.element.tag = p.node.element.tag := by
  obtain ⟨_, _, is⟩ | ⟨_, _, is⟩ := p.numbered_cases tag fill <;> rw [is] <;>
    exact tag_append ..

theorem Step.tag_run (p : Progress) (step : Step) :
    (step.run p).node.element.tag = p.node.element.tag := by
  cases step with
  | «attribute» name e => exact (p.trims_attributeStep name e).tag
  | attributes entries => exact (p.trims_attributesStep entries).tag
  | text e => exact (p.trims_textStep e).tag
  | element tag content =>
    rw [Step.run]
    exact Progress.tag_numbered ..
  | eachLike tag count steps =>
    rw [Step.run]
    split
    · exact tag_append ..
    · exact (Progress.tag_appendCopies ..).trans (tag_append ..)
  | namespaceOf name uri => exact tag_setAttribute ..
  | refused fault => rfl

theorem Step.tag_runAll (p : Progress) (steps : List Step) :
    (Step.runAll p steps).node.element.tag = p.node.element.tag := by
  induction steps generalizing p with
  | nil => rfl
  | cons step rest ih =>
    rw [Step.runAll]
    split
    · exact step.tag_run p
    · exact (ih _).trans (step.tag_run p)

theorem Content.tag_fill (p : Progress) (content : Content) :
    (content.fill p).node.element.tag = p.node.element.tag := by
  cases content with
  | nothing => rfl
  | «example» e => exact (p.trims_textStep e).tag
  | steps nested => exact Step.tag_runAll p nested

/-! ## One call -/

/-- From `p` to `q` this many children of a tag have been counted, and `e` has been put in place so
many times. -/
structure Progress.Appends (p q : Progress) (t : String) (counted : Int) (e : Element) (n : Nat) :
    Prop where
  tag : e.tag = t
  counts : q.node.counts = (p.count t counted).node.counts
  children : q.node.element.children = p.node.element.children ++ List.replicate n e

theorem Progress.Appends.childrenOf {p q : Progress} {t : String} {counted : Int} {e : Element}
    {n : Nat} (h : Appends p q t counted e n) (tag : String) :
    q.node.childrenOf tag = p.node.childrenOf tag ++ if t = tag then List.replicate n e else [] := by
  rw [Node.childrenOf, h.children, List.filter_append, List.filter_replicate, h.tag]
  by_cases ht : t = tag <;> simp [Node.childrenOf, ht]

/-- The lead of a tag moves by what is counted and not put in place. -/
theorem Progress.Appends.lead {p q : Progress} {t : String} {counted : Int} {e : Element} {n : Nat}
    (h : Appends p q t counted e n) (tag : String) :
    q.node.lead tag = p.node.lead tag + if t = tag then counted - n else 0 := by
  have hindex : q.node.nextIndex tag = p.node.nextIndex tag + if t = tag then counted else 0 := by
    rw [← nextIndex_count, Node.nextIndex, h.counts]
    rfl
  rw [Node.lead, hindex, h.childrenOf, Node.lead, List.length_append]
  split
  · rw [List.length_replicate]
    omega
  · rw [List.length_nil]
    omega

/-- `element` counts one child and puts one in place, whatever happens inside of it. -/
theorem Step.appends_element (p : Progress) (tag : String) (content : Content) :
    ∃ e, p.Appends (Step.run p (.element tag content)) tag 1 e 1 := by
  rw [Step.run]
  obtain ⟨mark, _, is⟩ | ⟨fault, _, is⟩ :=
    (p.count tag 1).numbered_cases tag fun child => content.fill child
  · rw [is]
    exact ⟨_, content.tag_fill _, rfl, children_append ..⟩
  · rw [is]
    exact ⟨_, rfl, rfl, children_append ..⟩

/-- `each_like` counts what it was asked for. It puts in place the one child that it has made, and
only if that is complete the copies of it. -/
theorem Step.appends_eachLike (p : Progress) (tag : String) (count : Int) (steps : List Step) :
    ∃ e, p.Appends (Step.run p (.eachLike tag count steps)) tag count e
      (if (Step.run p (.eachLike tag count steps)).fault.isSome then 1 else (max count 1).toNat) := by
  have htag := Step.tag_runAll ((p.count tag count).child tag "*") steps
  refine ⟨(Step.runAll ((p.count tag count).child tag "*") steps).node.element, ?_⟩
  rw [Step.run]
  by_cases hf :
      ((p.count tag count).adopt (Step.runAll ((p.count tag count).child tag "*") steps)).fault.isSome
  · rw [if_pos hf, if_pos hf]
    exact ⟨htag, rfl, children_append ..⟩
  · rw [if_neg hf, Progress.fault_appendCopies, if_neg hf]
    refine ⟨htag, Progress.counts_appendCopies .., ?_⟩
    have hn : (max count 1).toNat = 1 + (count - 1).toNat := by omega
    rw [Progress.children_appendCopies, hn, ← List.replicate_append_replicate, ← List.append_assoc]
    exact congrArg (· ++ _) (children_append ..)

namespace Progress

def next (p : Progress) (step : Step) : Progress := step.run { p with fault := none }

def after (p : Progress) (steps : List Step) : Progress := steps.foldl next p

/-- How many more children of the tag a call counts than it puts in place. -/
def surplus (p : Progress) (tag : String) : Step → Int
  | .eachLike t count steps =>
    if t = tag then
      count - if (p.next (.eachLike t count steps)).fault.isSome then 1 else max count 1
    else 0
  | .element _ _ | .attribute _ _ | .attributes _ | .text _ | .namespaceOf _ _ | .refused _ => 0

def totalSurplus (p : Progress) (tag : String) : List Step → Int
  | [] => 0
  | step :: rest => p.surplus tag step + (p.next step).totalSurplus tag rest

/-- A call moves the lead of a tag by its own surplus. -/
theorem lead_next (p : Progress) (tag : String) : (step : Step) →
    (p.next step).node.lead tag = p.node.lead tag + p.surplus tag step
  | .element t content => by
    obtain ⟨e, h⟩ := Step.appends_element { p with fault := none } t content
    refine (h.lead tag).trans ?_
    rw [surplus]
    split <;> rfl
  | .eachLike t count steps => by
    obtain ⟨e, h⟩ := Step.appends_eachLike { p with fault := none } t count steps
    refine (h.lead tag).trans (congrArg (p.node.lead tag + ·) ?_)
    rw [surplus, next]
    split
    · split
      · rfl
      · omega
    · rfl
  | .attribute name e => by
    rw [surplus, Int.add_zero]
    exact (trims_attributeStep { p with fault := none } name e).lead tag
  | .attributes entries => by
    rw [surplus, Int.add_zero]
    exact (trims_attributesStep { p with fault := none } entries).lead tag
  | .text e => by
    rw [surplus, Int.add_zero]
    exact (trims_textStep { p with fault := none } e).lead tag
  | .namespaceOf name uri => by
    rw [surplus, Int.add_zero]
    exact Trims.lead (p := p) (q := p.next (.namespaceOf name uri))
      ⟨tag_setAttribute .., children_setAttribute .., rfl⟩ tag
  | .refused fault => by
    rw [surplus, Int.add_zero]
    rfl

theorem lead_after (p : Progress) (tag : String) (steps : List Step) :
    (p.after steps).node.lead tag = p.node.lead tag + p.totalSurplus tag steps := by
  induction steps generalizing p with
  | nil => exact (Int.add_zero _).symm
  | cons step rest ih =>
    refine (ih (p.next step)).trans ?_
    rw [lead_next, totalSurplus, Int.add_assoc]

theorem path_after (p : Progress) (steps : List Step) :
    (p.after steps).node.path = p.node.path := by
  induction steps generalizing p with
  | nil => rfl
  | cons step rest ih => exact (ih (p.next step)).trans (Step.path_run _ step)

/-- The steps of a nested node are calls like any others, up to the first that fails. -/
theorem exists_runAll_eq_after {p : Progress} (hp : p.fault = none) (steps : List Step) :
    ∃ done rest, steps = done ++ rest ∧ Step.runAll p steps = p.after done
      ∧ ((Step.runAll p steps).fault = none → rest = []) := by
  induction steps generalizing p with
  | nil => exact ⟨[], [], rfl, rfl, fun _ => rfl⟩
  | cons step rest ih =>
    obtain ⟨node, annotations, fault⟩ := p
    cases hp
    by_cases hf : (step.run ⟨node, annotations, none⟩).fault.isSome
    · refine ⟨[step], rest, rfl, ?_, fun hnone => ?_⟩
      · rw [Step.runAll, if_pos hf]
        rfl
      · rw [Step.runAll, if_pos hf] at hnone
        rw [hnone] at hf
        cases hf
    · obtain ⟨done, left, hsplit, hrun, hend⟩ := ih (Option.not_isSome_iff_eq_none.mp hf)
      rw [Step.runAll, if_neg hf]
      exact ⟨step :: done, left, congrArg (step :: ·) hsplit, hrun, hend⟩

def Completes (p : Progress) (tag : String) : List Step → Prop
  | [] => True
  | step :: rest =>
    (∀ count nested, step = .eachLike tag count nested → (p.next step).fault = none)
      ∧ (p.next step).Completes tag rest

/-- What is complete is not counted more often than it is put in place; what was not asked for at
least once is counted less often. -/
theorem surplus_of_complete (p : Progress) (tag : String) : (step : Step) →
    (∀ count nested, step = .eachLike tag count nested → (p.next step).fault = none) →
    p.surplus tag step ≤ 0
      ∧ (p.surplus tag step = 0 ↔ ∀ count nested, step = .eachLike tag count nested → 1 ≤ count)
  | .eachLike t count nested => fun hf => by
    rw [surplus]
    by_cases ht : t = tag
    · subst ht
      rw [if_pos rfl, hf count nested rfl, Option.isSome_none, if_neg Bool.false_ne_true]
      refine ⟨by omega, fun h => ?_, fun h => ?_⟩
      · rintro _ _ ⟨⟩
        omega
      · have hasked := h count nested rfl
        omega
    · rw [if_neg ht]
      refine ⟨Int.le_refl 0, fun _ => ?_, fun _ => rfl⟩
      rintro _ _ ⟨⟩
      exact absurd rfl ht
  | .element _ _ | .attribute _ _ | .attributes _ | .text _ | .namespaceOf _ _ | .refused _ =>
    fun _ => by
      rw [surplus]
      refine ⟨Int.le_refl 0, iff_of_true rfl ?_⟩
      rintro _ _ ⟨⟩

theorem totalSurplus_of_complete {p : Progress} {tag : String} {steps : List Step}
    (h : p.Completes tag steps) :
    p.totalSurplus tag steps ≤ 0
      ∧ (p.totalSurplus tag steps = 0 ↔
        ∀ count nested, .eachLike tag count nested ∈ steps → 1 ≤ count) := by
  induction steps generalizing p with
  | nil => exact ⟨Int.le_refl 0, iff_of_true rfl fun _ _ h => absurd h List.not_mem_nil⟩
  | cons step rest ih =>
    obtain ⟨hstep, hrest⟩ := h
    obtain ⟨hle, hiff⟩ := p.surplus_of_complete tag step hstep
    obtain ⟨hles, hiffs⟩ := ih hrest
    rw [totalSurplus]
    refine ⟨by omega, fun hz count nested hmem => ?_, fun hall => ?_⟩
    · rcases List.mem_cons.mp hmem with he | hmem
      · exact hiff.mp (by omega) count nested he.symm
      · exact hiffs.mp (by omega) count nested hmem
    · have hfirst := hiff.mpr fun count nested he => hall count nested (he ▸ List.mem_cons_self)
      have hothers := hiffs.mpr fun count nested hm => hall count nested (List.mem_cons_of_mem _ hm)
      omega

end Progress

/-- The child is filled at the path that the counter of its tag gives it. -/
theorem Step.annotations_element (p : Progress) (tag : String) (content : Content) :
    (∃ mark, Value.integerShown (p.node.nextIndex tag) = .ok mark ∧
        (Step.run p (.element tag content)).annotations =
          (content.fill { p with
            node := .blank tag (p.node.path ++ [tag, String.ofList mark]) }).annotations)
      ∨ ∃ fault, Value.integerShown (p.node.nextIndex tag) = .error fault ∧
        (Step.run p (.element tag content)).annotations = p.annotations := by
  have hindex : (Keyed.get? (p.count tag 1).node.counts tag).getD 0 = p.node.nextIndex tag := by
    unfold Progress.count Node.nextIndex
    rw [Keyed.get?_put, if_pos rfl, Option.getD_some]
  rw [Step.run, ← hindex]
  obtain ⟨mark, hmark, is⟩ | ⟨fault, hfault, is⟩ :=
    (p.count tag 1).numbered_cases tag fun child => content.fill child
  · exact .inl ⟨mark, hmark, by rw [is]; rfl⟩
  · exact .inr ⟨fault, hfault, by rw [is]; rfl⟩

/-- Whatever is done to a node and in whatever order, `element` puts one child behind the others,
and what is noted inside of it stands below the tag and a number. That number is the number of
children of the tag which come before it, and what the `each_like` calls for the tag have counted
beyond what they put in place. So it tells the child's place exactly if these differences come to
nothing; where each of the calls was completed, exactly if each asked for at least one example. -/
theorem element_numbered (own : String) (path : List String) (annotations : Annotations)
    (steps : List Step) (tag : String) (content : Content) :
    let blank : Progress := ⟨.blank own path, annotations, none⟩
    let p := blank.after steps
    let q := p.next (.element tag content)
    let index := p.node.nextIndex tag
    let before := p.node.childrenOf tag
    (∃ e, e.tag = tag ∧ q.node.element.children = p.node.element.children ++ [e])
    ∧ (∀ key, q.annotations.HasKey key → p.annotations.HasKey key ∨ ∃ mark below,
        Value.integerShown index = .ok mark ∧ KeyBelow below
          ∧ key = ruleKey (path ++ [tag, String.ofList mark]) below)
    ∧ (∀ mark e, Value.integerShown index = .ok mark → content = .example e → e.rule.isSome →
        q.annotations.HasKey (ruleKey (path ++ [tag, String.ofList mark]) ["#text"]))
    ∧ index = before.length + blank.totalSurplus tag steps
    ∧ (index = before.length ↔ blank.totalSurplus tag steps = 0)
    ∧ (blank.Completes tag steps →
        (index = before.length ↔ ∀ count nested, .eachLike tag count nested ∈ steps → 1 ≤ count)) := by
  intro blank p q index before
  have hlead : p.node.lead tag = blank.totalSurplus tag steps :=
    (blank.lead_after tag steps).trans (Int.zero_add _)
  have hindex : index = before.length + blank.totalSurplus tag steps := by
    rw [← hlead]
    change index = before.length + (index - before.length)
    omega
  have hiff : index = before.length ↔ blank.totalSurplus tag steps = 0 := by omega
  have hpath : p.node.path = path := blank.path_after steps
  obtain ⟨e, h⟩ := Step.appends_element { p with fault := none } tag content
  have hnoted := Step.annotations_element { p with fault := none } tag content
  refine ⟨⟨e, h.tag, h.children⟩, fun key hk => ?_, fun mark e hmark he hrule => ?_, hindex, hiff,
    fun hc => hiff.trans (Progress.totalSurplus_of_complete hc).2⟩
  · obtain ⟨mark, hmark, is⟩ | ⟨_, _, is⟩ := hnoted
    · have hbelow := content.addsBelow_fill
        ⟨.blank tag (p.node.path ++ [tag, String.ofList mark]), p.annotations, none⟩ key (is ▸ hk)
      refine hbelow.imp_right fun hb => ?_
      obtain ⟨below, hb, rfl⟩ := hb
      exact ⟨mark, below, hmark, hb, by rw [← hpath]; rfl⟩
    · exact .inl (is ▸ hk)
  · subst he
    obtain ⟨other, hother, is⟩ | ⟨fault, hfault, _⟩ := hnoted
    · obtain rfl : mark = other := Except.ok.inj (hmark.symm.trans hother)
      have hkey : (p.next (.element tag (.example e))).annotations = _ := is
      rw [hkey, Content.fill, Progress.textStep, Progress.annotations_fillIn, ← hpath]
      exact Annotations.hasKey_note.mpr (.inr ⟨.inl hrule, rfl⟩)
    · have hno := hmark.symm.trans hfault
      cases hno

/-- Behind the two children that were asked for, the third is noted as such. -/
theorem element_numbered_third :
    let p := (Progress.begin "r").after [.eachLike "a" 2 []]
    let q := p.next (.element "a" (.example (.like (.text "x"))))
    p.node.nextIndex "a" = (p.node.childrenOf "a").length
      ∧ q.annotations.HasKey (ruleKey ["$", "r", "a", "2"] ["#text"])
      ∧ ∀ key, q.annotations.HasKey key →
        ∃ below, KeyBelow below ∧ key = ruleKey ["$", "r", "a", "2"] below := by
  intro p q
  obtain ⟨-, hkeys, hnoted, -, -, hindex⟩ := element_numbered "r" ["$", "r"] .none
    [.eachLike "a" 2 []] "a" (.example (.like (.text "x")))
  have hmark : Value.integerShown (p.node.nextIndex "a") = .ok ['2'] :=
    eq_ok_of_toOption (by decide +kernel)
  refine ⟨(hindex ⟨fun _ _ _ => rfl, trivial⟩).mpr fun count nested h => ?_,
    hnoted ['2'] _ hmark rfl rfl, fun key hk => ?_⟩
  · cases List.mem_singleton.mp h
    decide
  · obtain hold | ⟨mark, below, hshown, hbelow, rfl⟩ := hkeys key hk
    · have hnone : Annotations.none.HasKey key := hold
      exact (hnone.elim List.not_mem_nil List.not_mem_nil).elim
    · obtain rfl : ['2'] = mark := Except.ok.inj (hmark.symm.trans hshown)
      exact ⟨below, hbelow, rfl⟩

/-- Nothing is asked for and one child is put in place: the child behind it has its number. -/
theorem no_examples_put_one :
    let p := (Progress.begin "r").after [.eachLike "a" 0 []]
    let q := p.next (.element "a" (.example (.like (.text "x"))))
    (p.node.childrenOf "a").length = 1
      ∧ p.node.nextIndex "a" = 0
      ∧ q.node.element.children.map Element.tag = ["a", "a"]
      ∧ Keyed.keys q.annotations.rules = ["$.r.a.0.#text"] := by
  decide +kernel

end HttpContract.Xml
