import Rehearsal.Step.Action

/-!
Documents: scenarios written as data.
-/

namespace Rehearsal

/-- An action as a document describes it. -/
inductive ActionSpec where
  | am (message selector : String)
  | reached (message : String) (url urlRegex : Option String)
  | fill (message selector : String) (fields : FormData) (autoSubmit : Option Json)
  | click (message selector : String)
  | clickTheLabel (label : String)
  | find (message selector : String)
  | findTheVisible (message selector : String)
  | goTo (message url : String)
  | see (message text : String)
  | canSee (message text : String)
  | shouldNotSee (message text : String)
  | cannotFindThe (message selector : String)
  | seeTheValueOf (message selector : String) (expected : Json)
  | noteDown (message selector property : String)
  deriving Repr, Inhabited

structure StepSpec where
  voice : Voice
  action : ActionSpec
  deriving Repr, Inhabited

structure ScenarioSpec where
  name : String
  /-- Scenarios that are run again ahead of this one. -/
  dependsOn : List String
  steps : List StepSpec
  deriving Repr, Inhabited

structure Document where
  entryUrl : String
  scenarios : List ScenarioSpec
  deriving Repr, Inhabited

namespace ActionSpec

/-- The names of actions in the order in which they are listed. -/
def names : List String :=
  ["am", "reached", "fill", "click", "click_the_label", "find", "find_the_visible", "go_to", "see",
    "can_see", "should_not_see", "cannot_find_the", "see_the_value_of", "note_down"]

def name : ActionSpec → String
  | .am .. => "am"
  | .reached .. => "reached"
  | .fill .. => "fill"
  | .click .. => "click"
  | .clickTheLabel _ => "click_the_label"
  | .find .. => "find"
  | .findTheVisible .. => "find_the_visible"
  | .goTo .. => "go_to"
  | .see .. => "see"
  | .canSee .. => "can_see"
  | .shouldNotSee .. => "should_not_see"
  | .cannotFindThe .. => "cannot_find_the"
  | .seeTheValueOf .. => "see_the_value_of"
  | .noteDown .. => "note_down"

end ActionSpec

/-- The pattern of an address.  Of a fragment and a regular expression the latter counts. -/
def UrlPattern.of (url urlRegex : Option String) : Except DocumentFault UrlPattern :=
  match url, urlRegex with
  | _, some source =>
      match Pattern.compile source with
      | .ok pattern => .ok (.regex pattern)
      | .error error => .error (.patternRefused source error)
  | some url, none => .ok (.fragment url)
  | none, none => .error .urlMissing

namespace ActionSpec

/-- The action that is described. -/
def toAction : ActionSpec → Except DocumentFault Action
  | .am message selector => .ok (.am message selector)
  | .reached message url urlRegex => (UrlPattern.of url urlRegex).map (Action.reached message)
  | .fill message selector fields autoSubmit =>
      .ok (.fill message selector fields (some (Action.submits autoSubmit)))
  | .click message selector => .ok (.click message selector)
  | .clickTheLabel label => .ok (.clickTheLabel label)
  | .find message selector => .ok (.find message selector)
  | .findTheVisible message selector => .ok (.findTheVisible message selector)
  | .goTo message url => .ok (.goTo message url)
  | .see message text => .ok (.see message text)
  | .canSee message text => .ok (.canSee message text)
  | .shouldNotSee message text => .ok (.shouldNotSee message text)
  | .cannotFindThe message selector => .ok (.cannotFindThe message selector)
  | .seeTheValueOf message selector expected => .ok (.seeTheValueOf message selector expected)
  | .noteDown message selector property => .ok (.noteDown message selector property)

end ActionSpec

/-- The step that is described. -/
def StepSpec.toStep (spec : StepSpec) : Except DocumentFault Step :=
  spec.action.toAction.map (Action.voiced spec.voice)

end Rehearsal
