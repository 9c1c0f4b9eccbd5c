/-!
Lines that tell, while a run goes on, what it does.
-/

namespace Rehearsal.Trace

inductive Severity where
  | debug
  | info
  | warning
  | error
  deriving DecidableEq, Repr, Inhabited

inductive Field where
  | text (value : String)
  | number (value : Nat)
  deriving DecidableEq, Repr, Inhabited

structure Line where
  severity : Severity
  message : String
  fields : List (String × Field)
  deriving DecidableEq, Repr, Inhabited

/-- A line about a step. -/
def Line.atStep (severity : Severity) (scenario : String) (index : Nat) (message : String) : Line :=
  { severity, message, fields := [("scenario", .text scenario), ("index", .number index)] }

/-- A line about a file. -/
def Line.atPath (severity : Severity) (path message : String) : Line :=
  { severity, message, fields := [("path", .text path)] }

end Rehearsal.Trace
