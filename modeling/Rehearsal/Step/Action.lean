import Rehearsal.Step.Basic

/-!
The built-in actions.

An action is a step that still lacks its voice: the same action can open a scenario or go on with
it.
-/

namespace Rehearsal

structure Action where
  phrase : String
  strategy : Strategy
  callback : Option Callback
  info : Option String
  deriving Inhabited

namespace Action

/-- The step that says the action in a voice. -/
def voiced (voice : Voice) (action : Action) : Step :=
  { voice := some voice
    message := voice.word ++ " " ++ action.phrase
    strategy := action.strategy
    callback := action.callback
    info := action.info }

/-- Waits for a selector. -/
def onSelector (phrase selector : String) (callback : Option Callback) (info : Option String) :
    Action :=
  { phrase, strategy := .wait (.selector selector), callback, info }

/-- Waits for a text. -/
def onText (phrase text : String) (callback : Option Callback) : Action :=
  { phrase, strategy := .wait (.text text), callback, info := none }

def onVisible (phrase target : String) : Action :=
  { phrase, strategy := .wait (.visible target), callback := none, info := none }

def atOnce (phrase : String) (callback : Callback) : Action :=
  { phrase, strategy := .immediate, callback := some callback, info := none }

/-- The page is the one on which this selector is found. -/
def am (message selector : String) : Action :=
  onSelector ("I am " ++ message) selector none none

/-- The page has this address. -/
def reached (message : String) (url : UrlPattern) : Action :=
  { phrase := "I reached " ++ message
    strategy := .wait (.url url)
    callback := none
    info := none }

/-- A form is submitted unless a value other than `true` says otherwise. -/
def submits : Option Json → Bool
  | none => true
  | some (.bool value) => value
  | some _ => false

/-- Fills in a form and lists its fields. -/
def fill (message selector : String) (form : FormData) (submit : Option Bool) : Action :=
  let listing := form.listing
  onSelector ("I fill " ++ message) selector
    (some fun _ => .tell (.fill selector form (submit.getD true)))
    (if listing.isEmpty then none else some listing)

def click (message selector : String) : Action :=
  onSelector ("I click " ++ message) selector (some fun _ => .tell (.click selector)) none

/-- Clicks on the element, of the tag that the settings name, that bears a label. -/
def clickTheLabel (label : String) : Action :=
  onText ("I click on label name " ++ label) label
    (some fun cue => .tell (.clickLabel label cue.config.labelTag))

def find (message selector : String) : Action :=
  onSelector ("I find " ++ message) selector none none

def findTheVisible (message selector : String) : Action :=
  onVisible ("I find " ++ message) selector

def goTo (message url : String) : Action :=
  atOnce ("I go to " ++ message) fun _ => .tell (.visit url)

def see (message text : String) : Action :=
  onText ("I see " ++ message) text none

def canSee (message text : String) : Action :=
  onVisible ("I see " ++ message) text

/-- Passes if the text is absent at this moment. -/
def shouldNotSee (message text : String) : Action :=
  atOnce ("I should not see " ++ message) fun cue =>
    .ask (.textPresent text) fun present =>
      if present then
        .signal false cue.message (.log .info ("Found text '" ++ text ++ "'") .done)
      else
        .signal true cue.message .done

/-- Passes if nothing under the selector is visible at this moment. -/
def cannotFindThe (message selector : String) : Action :=
  atOnce ("I cannot find the selector " ++ message) fun cue =>
    .ask (.isVisible selector) fun visible =>
      if visible then
        .signal false cue.message (.log .info ("Selector " ++ selector ++ " is visible") .done)
      else
        .signal true cue.message .done

def notTextWarning : String :=
  "Warning: The value specified is not a string, the following assertion may not work"

/-- Compares the text of an element with a value; only a text can equal it. -/
def compareText (selector : String) (expected : Json) : Program :=
  .ask (.fetchText selector) fun found =>
    if expected.text? = some found then .done
    else .fail (.mismatch expected.shown found)

/-- The text of an element is the expected one. -/
def seeTheValueOf (message selector : String) (expected : Json) : Action :=
  onSelector ("I see the value of " ++ message ++ " is '" ++ expected.shown ++ "'") selector
    (some fun _ =>
      if expected.isText then compareText selector expected
      else .log .warning notTextWarning (compareText selector expected))
    none

/-- Notes down an attribute under the message. -/
def noteDown (message selector property : String) : Action :=
  let phrase := "I note down " ++ message
  atOnce phrase fun _ =>
    .ask (.selectorExists selector) fun found =>
      if found then
        .ask (.attributeOf selector property) fun value =>
          .signal true phrase <| .log .info ("I noted: " ++ value.getD "null") <|
            .note message value .done
      else
        .signal false phrase <|
          .log .info ("Did not find '" ++ message ++ "', using selector: " ++ selector) .done

end Action

end Rehearsal
