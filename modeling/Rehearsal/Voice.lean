/-!
The word that opens a step.
-/

namespace Rehearsal

inductive Voice where
  | given
  | when
  | and
  | then
  deriving DecidableEq, Repr, Inhabited

namespace Voice

def all : List Voice := [.given, .when, .and, .then]

/-- The word as it opens a message. -/
def word : Voice → String
  | .given => "Given"
  | .when => "When"
  | .and => "And"
  | .then => "Then"

/-- The name under which documents know the voice. -/
def name : Voice → String
  | .given => "given"
  | .when => "when"
  | .and => "and"
  | .then => "then"

def ofName? (name : String) : Option Voice :=
  all.find? fun voice => voice.name == name

end Voice

end Rehearsal
