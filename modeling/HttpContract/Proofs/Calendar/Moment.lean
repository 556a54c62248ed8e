import HttpContract.Calendar.Moment
import HttpContract.Proofs.Success

/-!
What reading a moment can find fault with. A format that can be used is never complained about: only
the text that is read after it is.
-/
namespace HttpContract.Calendar

def IsFormat (format : List Char) : Prop :=
  ∃ source p, pattern false format = .ok source
    ∧ Regex.Pattern.parse ("(?i)".toList ++ source) = .ok p

def MomentFault.IsOfText : MomentFault → Prop
  | .format _ | .repeatedDirective => False
  | _ => True

abbrev BlamesText {α : Type} (x : Except MomentFault α) : Prop := FailsOnly MomentFault.IsOfText x

namespace Parts

theorem blamesText_indexOf (names : List String) (s : List Char) : BlamesText (indexOf names s) := by
  unfold indexOf
  split
  · exact .ok _
  · exact .error trivial

theorem blamesText_plainOffset (s : List Char) : BlamesText (plainOffset s) := by
  unfold plainOffset
  refine .ite (.ite (.ok _) (.ite (.ok _) (.error trivial))) (.ok _)

theorem blamesText_readOffset (s : List Char) : BlamesText (readOffset s) := by
  unfold readOffset
  refine .ite (.ok _) (.bind (blamesText_plainOffset s) fun t _ => .ite ?_ (.ok _))
  exact .error trivial

/-- Names may be unknown and offsets mixed; any other part is what its digits say. -/
theorem blamesText_add (half : Option (List Char)) (p : Parts) (directive : String)
    (s : List Char) : BlamesText (p.add half directive s) := by
  unfold add
  split
  all_goals first
    | exact .ok _
    | exact .bind (blamesText_indexOf _ s) fun _ _ => .ok _
    | exact .bind (blamesText_readOffset s) fun _ _ => .ok _

theorem blamesText_checkIso (p : Parts) : BlamesText p.checkIso := by
  unfold checkIso
  refine .ite (.ite (.error trivial) (.ite (.error trivial) (.ok _))) ?_
  exact .ite (.ite (.error trivial) (.error trivial)) (.ok _)

theorem blamesText_ofDateFault {α : Type} (x : Except DateFault α) :
    BlamesText (x.mapError MomentFault.date) := .mapError fun _ => trivial

theorem blamesText_dateOf (year : Int) (month : Nat) (day : Int) :
    BlamesText (dateOf year month day) := blamesText_ofDateFault _

theorem blamesText_dayOfWeek (year week weekday : Int) (fromMonday : Bool) :
    BlamesText (dayOfWeek year week weekday fromMonday) :=
  .bind (blamesText_ofDateFault _) fun _ _ => .ite (.ok _) (.ok _)

theorem blamesText_isoDay (year week weekday : Int) : BlamesText (isoDay year week weekday) :=
  .bind (blamesText_ofDateFault _) fun _ _ => .ite (.ok _) <|
    .bind (blamesText_ofDateFault _) fun _ _ => .bind (blamesText_ofDateFault _) fun _ _ => .ok _

theorem blamesText_dayOfYear? (p : Parts) (year : Int) : BlamesText (p.dayOfYear? year) := by
  unfold dayOfYear?
  split
  · exact .ok _
  · exact .ok _
  · split
    · exact .bind (blamesText_dayOfWeek _ _ _ _) fun _ _ => .ok _
    · exact .bind (blamesText_isoDay _ _ _) fun _ _ => .ok _
    · exact .ok _

theorem blamesText_date (p : Parts) : BlamesText p.date := by
  refine .bind (blamesText_checkIso p) fun _ _ => .bind (blamesText_dayOfYear? _ _) fun found _ => ?_
  obtain ⟨year, day?⟩ := found
  cases day? with
  | none => exact .bind (blamesText_dateOf _ _ _) fun _ _ => .ok _
  | some n =>
    refine .bind (blamesText_dateOf _ _ _) fun _ _ => ?_
    exact .bind (blamesText_ofDateFault _) fun _ _ => .ok _

theorem blamesText_moment (p : Parts) : BlamesText p.moment := by
  refine .bind (blamesText_date p) fun d _ => ?_
  have hrest (offset : Option Int) : BlamesText (do
      let d ← (d.check).mapError MomentFault.date
      if 59 < p.second then throw MomentFault.second
      return (⟨d, p.hour, p.minute, p.second, p.fraction, offset⟩ : Moment)) := by
    refine .bind (blamesText_ofDateFault _) fun d _ => .ite ?_ (.ok _)
    exact .error trivial
  cases p.offset with
  | none => exact hrest none
  | some offset =>
    refine .ite ?_ (hrest _)
    exact .error trivial

end Parts

/-- Whatever text is read after it, a format that can be used is not complained about, and any other
format is. -/
theorem blamesText_read_iff {format : List Char} (s : List Char) :
    BlamesText (Moment.read format s) ↔ IsFormat format := by
  unfold Moment.read IsFormat
  cases hsource : pattern false format with
  | error fault => exact iff_of_false (fun h => h _ rfl) (by rintro ⟨_, _, ⟨⟩, -⟩)
  | ok source =>
    cases hp : Regex.Pattern.parse ("(?i)".toList ++ source) with
    | error fault =>
      refine iff_of_false (fun h => h .repeatedDirective ?_) ?_
      · simp only [Except.mapError, bind, Except.bind, hp]
        rfl
      · rintro ⟨_, p, ⟨⟩, hparse⟩
        cases hp.symm.trans hparse
    | ok p =>
      refine iff_of_true ?_ ⟨source, p, rfl, hp⟩
      refine .bind (.ok source) ?_
      rintro _ ⟨⟩
      simp only [hp]
      cases p.matchStart s with
      | none => exact .error trivial
      | some found =>
        have hparts (found : List (String × List Char)) : BlamesText (do
            let parts ← found.foldlM (fun p e => Parts.add (found.lookup "p") p e.1 e.2) {}
            Parts.moment parts) :=
          .bind (.foldlM (fun _ _ => Parts.blamesText_add _ _ _ _) _) fun _ _ =>
            Parts.blamesText_moment _
        refine .ite ?_ (hparts _)
        exact .error trivial

end HttpContract.Calendar
