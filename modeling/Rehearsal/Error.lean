import Rehearsal.Pattern.Basic
import Rehearsal.Source.Manner

/-!
What can go wrong, as causes, and the words for each.
-/

namespace Rehearsal

/-- Why an engine could not do what it was asked to do. -/
inductive EngineError where
  | start (url reason : String)
  | noSuchElement (selector : String)
  | noSuchLabel (label : String)
  | capture (path reason : String)
  | other (text : String)
  deriving DecidableEq, Repr, Inhabited

def EngineError.message : EngineError → String
  | .start url reason => s!"engine failed to start at {url}: {reason}"
  | .noSuchElement selector => s!"no element matches selector {selector}"
  | .noSuchLabel label => "no link labelled '" ++ label ++ "'"
  | .capture path reason => s!"failed to capture {Text.quoted path}: {reason}"
  | .other text => text

/-- Why the work of a step failed. -/
inductive StepError where
  | mismatch (expected found : String)
  | assertion (text : String)
  | engine (error : EngineError)
  deriving DecidableEq, Repr, Inhabited

def StepError.message : StepError → String
  | .mismatch expected found => s!"Expected {expected} but got {found}"
  | .assertion text => text
  | .engine error => error.message

/-- Why a file could not be read as text. -/
inductive ReadFault where
  | missing
  | notUtf8
  | refused (reason : String)
  deriving DecidableEq, Repr, Inhabited

def ReadFault.message : ReadFault → String
  | .missing => "No such file or directory (os error 2)"
  | .notUtf8 => "stream did not contain valid UTF-8"
  | .refused reason => reason

/-- What is wrong with a configuration. -/
inductive ConfigFault where
  | malformed (manner : Source.Manner) (fault : Source.Fault)
  | timeoutNotPositive
  | pollIntervalNotPositive
  | labelTagBlank
  | other (text : String)
  deriving DecidableEq, Repr, Inhabited

def ConfigFault.message : ConfigFault → String
  | .malformed manner fault => fault.message manner.wording
  | .timeoutNotPositive => "timeout_ms must be positive"
  | .pollIntervalNotPositive => "poll_interval_ms must be positive"
  | .labelTagBlank => "label_tag cannot be empty"
  | .other text => text

/-- What is wrong with a document. -/
inductive DocumentFault where
  | malformed (manner : Source.Manner) (fault : Source.Fault)
  | urlMissing
  | patternRefused (source : String) (error : Pattern.Error)
  | other (text : String)
  deriving DecidableEq, Repr, Inhabited

def DocumentFault.message : DocumentFault → String
  | .malformed manner fault => fault.message manner.wording
  | .urlMissing => "reached needs either url or url_regex"
  | .patternRefused source error => "invalid url_regex '" ++ source ++ "': " ++ error.message
  | .other text => text

inductive Error where
  | unknownScenario (name : String)
  | engine (error : EngineError)
  | config (fault : ConfigFault)
  | document (fault : DocumentFault)
  | io (path : String) (fault : ReadFault)
  deriving DecidableEq, Repr, Inhabited

namespace Error

def message : Error → String
  | .unknownScenario name => "no scenario named '" ++ name ++ "' has been defined"
  | .engine error => error.message
  | .config fault => "invalid configuration: " ++ fault.message
  | .document fault => "invalid scenario document: " ++ fault.message
  | .io path fault => s!"failed to read {Text.quoted path}: {fault.message}"

/-- What lies behind an error that another one caused. -/
def cause? : Error → Option String
  | .io _ fault => some fault.message
  | _ => none

end Error

end Rehearsal
