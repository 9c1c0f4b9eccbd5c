import Rehearsal.Config.Reader
import Rehearsal.Document.Codec
import Rehearsal.Document.File

/-!
The commands: `plan` shows what a document would have run, `check` shows what there is to say about
it.
-/

namespace Rehearsal

inductive Command where
  | plan
  | check
  deriving DecidableEq, Repr, Inhabited

/-- What a command is asked to do, with what came of reading the files that it names. -/
structure Request where
  command : Command
  file : String
  content : Except ReadFault String
  /-- The file with the settings, if one is named. -/
  config : Option (String × Except ReadFault String)
  json : Bool

/-- Why a command fails. -/
inductive CommandError where
  | failed (error : Error)
  | validationFailed
  deriving DecidableEq, Repr, Inhabited

/-- What a command prints, and whether it fails. -/
structure CommandResult where
  output : String
  error : Option CommandError
  deriving DecidableEq, Repr, Inhabited

namespace CommandError

/-- The words on the error channel: the error, and what lies behind it. -/
def message : CommandError → String
  | .validationFailed => "validation failed"
  | .failed error =>
      match error.cause? with
      | some cause => error.message ++ "\n\nCaused by:\n    " ++ cause
      | none => error.message

end CommandError

namespace Diagnostic

/-- A diagnostic in a list. -/
def line (diagnostic : Diagnostic) : String :=
  let level :=
    match diagnostic.level with
    | .error => "error"
    | .warning => "warn"
  match diagnostic.location with
  | some location => "  - [" ++ level ++ "] " ++ location ++ ": " ++ diagnostic.message ++ "\n"
  | none => "  - [" ++ level ++ "] " ++ diagnostic.message ++ "\n"

/-- Diagnostics under a title; nothing if there are none. -/
def listing (diagnostics : List Diagnostic) : String :=
  if diagnostics.isEmpty then ""
  else "Diagnostics:\n" ++ String.join (diagnostics.map line) ++ "\n"

/-- Diagnostics as a list, or as JSON. -/
def output (json : Bool) (diagnostics : List Diagnostic) : String :=
  if json then (Json.list (diagnostics.map toJson)).pretty ++ "\n" else listing diagnostics

end Diagnostic

namespace Command

def runCheck (file : String) (json : Bool) (document : Document) : CommandResult :=
  let diagnostics := document.diagnostics
  if diagnostics.any Diagnostic.isError then
    { output := Diagnostic.output json diagnostics, error := some .validationFailed }
  else if !json && diagnostics.isEmpty then
    { output := file ++ ": ok\n", error := none }
  else
    { output := Diagnostic.output json diagnostics, error := none }

def runPlan (config : Config) (json : Bool) (document : Document) : CommandResult :=
  let diagnostics := document.diagnostics
  if diagnostics.any Diagnostic.isError then
    { output := Diagnostic.output json diagnostics, error := some .validationFailed }
  else
    match document.plan config with
    | .error error => { output := "", error := some (.failed error) }
    | .ok schedule =>
        if json then
          let payload : Json := .object [
            ("plan", schedule.toJson),
            ("diagnostics", .list (diagnostics.map Diagnostic.toJson))]
          { output := payload.pretty ++ "\n", error := none }
        else
          { output := Diagnostic.listing diagnostics ++ schedule.text ++ "\n", error := none }

end Command

namespace Request

def settings (request : Request) : Except Error Config :=
  match request.config with
  | some (path, content) => Config.ofFile path content
  | none => .ok .default

/-- Carries out a command.  The settings are read before the document. -/
def run (request : Request) : CommandResult :=
  match request.settings with
  | .error error => { output := "", error := some (.failed error) }
  | .ok config =>
      match Document.ofFile request.file request.content with
      | .error error => { output := "", error := some (.failed error) }
      | .ok document =>
          match request.command with
          | .plan => Command.runPlan config request.json document
          | .check => Command.runCheck request.file request.json document

end Request

end Rehearsal
