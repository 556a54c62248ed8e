import HttpContract.Rule

/-!
Sets of rules put together edit by edit. Each edit belongs to one category and leaves the others.
-/
namespace HttpContract

inductive RuleEdit
  | addCategory (category : String)
  | mergeCategory (category : String) (groups : RuleGroups)
  | addRule (category key : String) (rule : Rule) (logic : RuleLogic)
  | addRules (category key : String) (rules : List Rule)
  | setRule (category key : String) (rule : Rule) (logic : RuleLogic)
  | setGroup (category key : String) (group : RuleGroup)

def RuleEdit.apply (s : RuleSet) : RuleEdit → RuleSet
  | addCategory category => s.addCategory category
  | mergeCategory category groups => s.mergeCategory category groups
  | addRule category key rule logic =>
    s.change category fun m => RuleGroups.addRule m key rule logic
  | addRules category key rules => s.change category fun m => RuleGroups.addRules m key rules
  | setRule category key rule logic =>
    s.change category fun m => RuleGroups.setRule m key rule logic
  | setGroup category key group => s.change category fun m => RuleGroups.setGroup m key group

def RuleSet.after (s : RuleSet) (edits : List RuleEdit) : RuleSet := edits.foldl RuleEdit.apply s

end HttpContract
