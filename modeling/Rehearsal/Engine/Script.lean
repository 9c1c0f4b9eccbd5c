import Rehearsal.Engine.Page

/-!
A page with a script: what calls of each name cost, which of them fail, and what they change.
-/

namespace Rehearsal

/-- A call that fails: every call of that name, or the one that comes up as number `nth`. -/
structure ScriptedFault where
  call : String
  nth : Option Nat
  error : EngineError
  deriving DecidableEq, Repr, Inhabited

/-- What becomes true of the page when a call has succeeded. -/
structure ScriptedEffect where
  call : String
  nth : Option Nat
  facts : List PageFact
  deriving DecidableEq, Repr, Inhabited

structure Script where
  /-- Milliseconds that a call takes, by its name. -/
  latency : Association Nat
  faults : List ScriptedFault
  effects : List ScriptedEffect
  closes : Bool
  deriving DecidableEq, Repr, Inhabited

/-- A page under a script. -/
structure ScriptedPage where
  page : Page
  /-- How many calls of each name have begun. -/
  counts : Association Nat
  /-- The files that the page was asked to be captured in, from the last to the first. -/
  captures : List String
  deriving DecidableEq, Repr, Inhabited

namespace Script

/-- An entry of the script is about a call of this name and number. -/
def concerns (name : String) (nth : Option Nat) (call : String) (count : Nat) : Bool :=
  name == call && (nth.isNone || nth == some count)

/-- The fault of a call, if it has one: the first that is about it. -/
def fault? (script : Script) (call : String) (count : Nat) : Option EngineError :=
  (script.faults.find? fun fault => concerns fault.call fault.nth call count).map (·.error)

/-- What a call changes. -/
def factsBehind (script : Script) (call : String) (count : Nat) : List PageFact :=
  (script.effects.filter fun effect => concerns effect.call effect.nth call count).flatMap (·.facts)

def count (call : String) (state : ScriptedPage) : Nat :=
  (state.counts.get? call).getD 0

/-- Answers a call.  A scripted fault keeps it from the page; effects come behind its answer. -/
def answer (script : Script) (call : Call) (state : ScriptedPage) :
    Except EngineError call.Reply × ScriptedPage :=
  let number := count call.name state
  match script.fault? call.name number with
  | some error => (.error error, state)
  | none =>
      let captures :=
        match call with
        | .capture path => path :: state.captures
        | _ => state.captures
      match state.page.answer call with
      | (.ok reply, page) =>
          (.ok reply,
            { state with
              captures, page := (script.factsBehind call.name number).foldl Page.learn page })
      | (.error error, page) => (.error error, { state with captures, page })

def engine (script : Script) : Engine ScriptedPage :=
  { accept := fun call state =>
      { state with counts := state.counts.insert call.name (count call.name state + 1) }
    delay := fun call _ => (script.latency.get? call.name).getD 0
    silent := fun _ _ => false
    answer := script.answer
    closes := script.closes }

end Script

end Rehearsal
