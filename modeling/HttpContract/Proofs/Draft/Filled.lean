import HttpContract.Proofs.Draft.Rules

/-!
Every key of a reachable draft has a rule: edits add rules, and put rules in the place of others,
but never leave a key without one.
-/
namespace HttpContract

open Editing

def PartDraft.Filled (p : PartDraft) : Prop := RuleSet.Filled p.rules

theorem RuleSet.filled_nil : Filled [] := fun _ _ h => absurd h List.not_mem_nil

namespace RequestDraft

theorem kept_filled : Kept RuleSet.Filled where
  header h name rule := RuleSet.filled_change h "header" (RuleGroups.setRule · name rule .all)
    (RuleGroups.filled_setRule (h "header") name rule .all)
  body h key rule := RuleSet.filled_change h "body" (RuleGroups.addRule · key rule .all)
    (RuleGroups.filled_addRule (h "body") key rule .all)
  merge h a := RuleSet.filled_change h "body" (RuleGroups.merge · a.rules)
    (RuleGroups.filled_merge (h "body") a.rules_filled)
  query h name rule := RuleSet.filled_change h "query" (RuleGroups.addRule · name rule .all)
    (RuleGroups.filled_addRule (h "query") name rule .all)
  path h rule := RuleSet.filled_change h "path" (RuleGroups.addRule · "" rule .all)
    (RuleGroups.filled_addRule (h "path") "" rule .all)

def Filled (d : RequestDraft) : Prop := d.part.Filled

theorem Reachable.filled {d : RequestDraft} (h : d.Reachable) : d.Filled :=
  h.rules kept_filled RuleSet.filled_nil

end RequestDraft

namespace ResponseDraft

def Filled (d : ResponseDraft) : Prop := d.part.Filled

theorem filled_addCookieRule {m : RuleGroups} (h : RuleGroups.Filled m) (rule : Rule) :
    RuleGroups.Filled (addCookieRule m rule) := by
  unfold addCookieRule
  split
  · exact RuleGroups.filled_addRule h _ _ _
  · exact RuleGroups.filled_setRule h _ _ _

theorem keeps_edit (e : ResponseEdit) : Keeps Filled e.run := by
  cases e with
  | part e =>
    exact (e.keeps_run RequestDraft.kept_filled.toKept .response).within fun _ _ => rfl
  | status v => exact keeps_modify fun _ h => h
  | matchCookie name pattern shown =>
    refine keeps_modify fun d h => ?_
    exact RuleSet.filled_change h "header" (fun m => addCookieRule m _)
      (filled_addCookieRule (h "header") _)

theorem Reachable.filled {d : ResponseDraft} (h : d.Reachable) : d.Filled := by
  induction h with
  | fresh c => exact RuleSet.filled_nil
  | copy c _ ih => exact ih
  | edit e _ ih => exact keeps_edit e _ ih

end ResponseDraft

end HttpContract
