import Rehearsal.Pattern.Basic
import Rehearsal.Text.Basic

/-!
What the address of a page is held against.
-/

namespace Rehearsal

inductive UrlPattern where
  /-- The address has a fragment in it. -/
  | fragment (text : String)
  | regex (pattern : Pattern)
  deriving Repr, Inhabited

namespace UrlPattern

def holds (url : String) : UrlPattern → Bool
  | .fragment text => Text.contains url text
  | .regex pattern => pattern.occursIn url

/-- A fragment as it is, and a regular expression between slashes. -/
def shown : UrlPattern → String
  | .fragment text => text
  | .regex pattern => "/" ++ pattern.source ++ "/"

end UrlPattern

end Rehearsal
