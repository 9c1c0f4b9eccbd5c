import Rehearsal.UrlPattern

/-!
What a waiting step waits for.
-/

namespace Rehearsal

inductive Condition where
  | selector (selector : String)
  | url (pattern : UrlPattern)
  | text (text : String)
  | visible (target : String)
  deriving Repr, Inhabited

namespace Condition

/-- The name of the kind of step that waits for it. -/
def kind : Condition → String
  | .selector _ => "wait_for_selector"
  | .url _ => "wait_for_url"
  | .text _ => "wait_for_text"
  | .visible _ => "wait_until_visible"

def shown : Condition → String
  | .selector target => "selector " ++ target
  | .url pattern => "url " ++ pattern.shown
  | .text words => "text '" ++ words ++ "'"
  | .visible target => "visible " ++ target

end Condition

end Rehearsal
