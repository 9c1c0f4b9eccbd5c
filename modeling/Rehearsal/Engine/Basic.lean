import Rehearsal.Error
import Rehearsal.Form

/-!
What a run asks of a browser.

An engine is a state machine over states `σ`.  A call changes its state when it begins, takes some
time, and changes its state again when it is answered; a wait that ends before that drops the call
in between.
-/

namespace Rehearsal

inductive Call where
  | start (url : String)
  | visit (url : String)
  | currentUrl
  | selectorExists (selector : String)
  | textPresent (text : String)
  | isVisible (target : String)
  | fill (selector : String) (form : FormData) (submit : Bool)
  | click (selector : String)
  | clickLabel (label tag : String)
  | fetchText (selector : String)
  | attributeOf (selector name : String)
  | capture (path : String)
  | finish
  deriving DecidableEq, Repr, Inhabited

namespace Call

/-- What comes back from a call that succeeds. -/
abbrev Reply : Call → Type
  | .currentUrl | .fetchText _ => String
  | .selectorExists _ | .textPresent _ | .isVisible _ => Bool
  | .attributeOf .. => Option String
  | _ => Unit

def name : Call → String
  | .start _ => "start"
  | .visit _ => "open"
  | .currentUrl => "current_url"
  | .selectorExists _ => "selector_exists"
  | .textPresent _ => "text_present"
  | .isVisible _ => "is_visible"
  | .fill .. => "fill"
  | .click _ => "click"
  | .clickLabel .. => "click_label"
  | .fetchText _ => "fetch_text"
  | .attributeOf .. => "attribute"
  | .capture _ => "capture"
  | .finish => "finish"

end Call

structure Engine (σ : Type) where
  /-- The state once a call has begun. -/
  accept : Call → σ → σ
  /-- How long the call takes that has just begun. -/
  delay : Call → σ → Nat
  /-- A wait would wait for this call in vain. -/
  silent : Call → σ → Bool
  /-- The answer to a call, and the state behind it. -/
  answer : (call : Call) → σ → Except EngineError call.Reply × σ
  /-- The engine wants to be told when the run is over. -/
  closes : Bool

end Rehearsal
