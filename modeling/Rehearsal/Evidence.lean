import Rehearsal.Path

/-!
The picture that a step leaves behind.

Its file lies in the directory of its scenario and is named after the step's place and message.
-/

namespace Rehearsal

structure Evidence where
  scenario : String
  index : Nat
  message : String
  path : String
  deriving DecidableEq, Repr, Inhabited

namespace Evidence

/-- Characters that no file name takes over from a message. -/
def isStripped (c : Char) : Bool :=
  c == '\x27' || c == '[' || c == ']' || c == '\x22' || c == '/'

/-- A message as it goes into the name of a file. -/
def sanitize (message : String) : String :=
  String.ofList (message.toList.filter fun c => !isStripped c)

/-- The name of the file for the step at `index`. -/
def fileName (index : Nat) (message : String) : String :=
  toString index ++ "-" ++ sanitize message ++ ".png"

def pathFor (captureDir scenario : String) (index : Nat) (message : String) : String :=
  Path.join (Path.join captureDir scenario) (fileName index message)

/-- The evidence of a step under `captureDir`. -/
def of (captureDir scenario : String) (index : Nat) (message : String) : Evidence :=
  { scenario, index, message, path := pathFor captureDir scenario index message }

theorem sanitize_sanitize (message : String) : sanitize (sanitize message) = sanitize message := by
  simp [sanitize, List.filter_filter]

end Evidence

end Rehearsal
