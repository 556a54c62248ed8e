import HttpContract.Draft.BodySource

/-!
Responses while they are put together.
-/
namespace HttpContract

structure ResponseDraft where
  part : PartDraft
  status : Value

namespace ResponseDraft

def ofConfig (c : Config) : ResponseDraft := ⟨.ofConfig c, .int 200⟩

def ofResponse (c : Config) (r : Response) : ResponseDraft :=
  ⟨⟨c, r.headers, r.body, r.rules, r.generators, []⟩, r.status⟩

def build (d : ResponseDraft) : Response :=
  ⟨d.status, d.part.headers, d.part.body, d.part.rules, d.part.generators⟩

def cookieHeader : String := "set-cookie"

def addCookieRule (groups : RuleGroups) (rule : Rule) : RuleGroups :=
  if 0 < RuleGroups.count groups cookieHeader then
    RuleGroups.addRule groups cookieHeader rule .all
  else RuleGroups.setRule groups cookieHeader rule .any

/-- A cookie whose value matches the pattern. Each has a header value of its own. -/
def matchCookie (d : ResponseDraft) (name pattern shown : String) : ResponseDraft :=
  let rule := Rule.regex (Regex.escape (name ++ "=") ++ pattern) none
  let values := (Keyed.get? d.part.headers cookieHeader).getD []
  { d with part := { d.part with
      rules := RuleSet.change d.part.rules "header" fun m => addCookieRule m rule
      headers := Keyed.put d.part.headers cookieHeader (values ++ [name ++ "=" ++ shown]) } }

def onPart {α : Type} (x : Editing PartDraft α) : Editing ResponseDraft α :=
  x.within part fun d p => { d with part := p }

end ResponseDraft

inductive ResponseEdit
  | part (e : PartEdit)
  | status (v : Value)
  | matchCookie (name pattern shown : String)

def ResponseEdit.run : ResponseEdit → Editing ResponseDraft Unit
  | part e => ResponseDraft.onPart (e.run .response)
  | status v => modify fun d => { d with status := v }
  | matchCookie name pattern shown => modify fun d => d.matchCookie name pattern shown

end HttpContract
