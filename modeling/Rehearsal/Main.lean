import Rehearsal.Command

/-!
The command line.
-/

namespace Rehearsal

/-- What has been found on the command line. -/
structure Arguments where
  command : Option Command
  file : Option String
  config : Option String
  json : Bool

namespace Arguments

def empty : Arguments :=
  { command := none, file := none, config := none, json := false }

/-- Reads words that are no options: the command, then the file. -/
def addWord? (arguments : Arguments) (word : String) : Option Arguments :=
  match arguments.command, arguments.file with
  | none, _ =>
      match word with
      | "plan" => some { arguments with command := some .plan }
      | "check" => some { arguments with command := some .check }
      | _ => none
  | some _, none => some { arguments with file := some word }
  | some _, some _ => none

def add? (arguments : Arguments) : List String → Option Arguments
  | [] => some arguments
  | "--config" :: path :: rest =>
      if arguments.config.isSome then none
      else add? { arguments with config := some path } rest
  | "--debug" :: rest => add? arguments rest
  | "--json" :: rest => add? { arguments with json := true } rest
  | word :: rest =>
      if word.startsWith "-" then none
      else (arguments.addWord? word).bind (add? · rest)

def ofList? (words : List String) : Option Arguments :=
  empty.add? words

end Arguments

def usage : String :=
  "usage: rehearsal [--config FILE] [--debug] plan|check FILE [--json]"

/-- The text in a file, or why there is none. -/
def readText (path : String) : IO (Except ReadFault String) := do
  match ← (IO.FS.readBinFile path).toBaseIO with
  | .ok bytes =>
      match String.fromUTF8? bytes with
      | some text => return .ok text
      | none => return .error .notUtf8
  | .error (.noFileOrDirectory ..) => return .error .missing
  | .error error => return .error (.refused (toString error))

/-- Carries out a command, and returns the exit status. -/
def perform (arguments : Arguments) (command : Command) (file : String) : IO UInt32 := do
  let config ←
    match arguments.config with
    | some path => pure (some (path, ← readText path))
    | none => pure none
  let content ← readText file
  let result := Request.run { command, file, content, config, json := arguments.json }
  IO.print result.output
  match result.error with
  | some error =>
      IO.eprintln ("Error: " ++ error.message)
      return 1
  | none => return 0

/-- Says how the program is called. -/
def explain : IO UInt32 := do
  IO.eprintln usage
  return 2

/-- Does what a command line asks for. -/
def serve (words : List String) : IO UInt32 :=
  match Arguments.ofList? words with
  | some arguments =>
      match arguments.command, arguments.file with
      | some command, some file => perform arguments command file
      | _, _ => explain
  | none => explain

end Rehearsal

def main (words : List String) : IO UInt32 :=
  Rehearsal.serve words
