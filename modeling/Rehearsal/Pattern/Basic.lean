import Rehearsal.Pattern.Meaning
import Rehearsal.Pattern.Size

/-!
Patterns that have been read and found fit for use.
-/

namespace Rehearsal

/-- A pattern and what it means. -/
structure Pattern where
  source : String
  regex : Pattern.Regex Unicode.CharSet Pattern.Look
  deriving Repr, Inhabited

namespace Pattern

/-- Why a text is no pattern. -/
inductive Error where
  | malformed (source : String) (fault : Fault)
  | tooLarge
  deriving DecidableEq, Repr, Inhabited

def Error.message : Error → String
  | .malformed source fault => fault.message source
  | .tooLarge => s!"Compiled regex exceeds size limit of {Room.limit} bytes."

def compile (source : String) : Except Error Pattern := do
  let read : Except Fault (Regex Unicode.CharSet Look) := do
    return (← (← Expr.parse source).meaning {}).1
  match read with
  | .error fault => .error (.malformed source fault)
  | .ok regex => if (Shape.ofRegex regex).fits then .ok { source, regex } else .error .tooLarge

/-- The pattern occurs somewhere in a text. -/
def occursIn (pattern : Pattern) (text : String) : Bool :=
  pattern.regex.occursIn text.toList

end Pattern

end Rehearsal
