import Rehearsal.Json.Reader
import Rehearsal.Ledger.Report
import Rehearsal.Source.Tagged

/-!
Ledgers as JSON.

An event is an object with its kind under `event`; an entry is the object of its event with the time
of day under `at`.
-/

namespace Rehearsal

open Source

namespace LogLevel

def toJson (level : LogLevel) : Json :=
  .text level.name

def ofNode (manner : Manner) (node : Node) : Except Fault LogLevel :=
  node.oneOf manner (all.map name) ofName?

end LogLevel

namespace Evidence

def toJson (evidence : Evidence) : Json :=
  .object [
    ("scenario", .text evidence.scenario),
    ("index", .ofNat evidence.index),
    ("message", .text evidence.message),
    ("path", .text evidence.path)]

def ofNode (manner : Manner) (node : Node) : Except Fault Evidence := do
  let record ← Record.ofNode manner.listedRecords "struct Evidence"
    ["scenario", "index", "message", "path"] node
  let reading := Placed.of Evidence.mk
    |>.apply (record.required "scenario" (Node.text "a string"))
    |>.apply (record.required "index" (Node.natural "usize"))
    |>.apply (record.required "message" (Node.text "a string"))
    |>.apply (record.required "path" (Node.text "path string"))
  (reading.given record.flawless).settle

end Evidence

namespace Event

/-- The kinds of events. -/
def kinds : List String :=
  ["banner", "passed", "failed", "timed_out", "log", "captured", "done"]

/-- The kind of an event, and what is said about it. -/
def members : Event → List (String × Json)
  | .banner scenario => [("event", .text "banner"), ("scenario", .text scenario)]
  | .passed scenario index message => signal "passed" scenario index message
  | .failed scenario index message => signal "failed" scenario index message
  | .timedOut scenario index message => signal "timed_out" scenario index message
  | .log level text => [("event", .text "log"), ("level", level.toJson), ("text", .text text)]
  | .captured evidence => [("event", .text "captured"), ("evidence", evidence.toJson)]
  | .done passes failures timeouts =>
      [("event", .text "done"), ("passed", .ofNat passes), ("failed", .ofNat failures),
        ("timed_out", .ofNat timeouts)]
where
  /-- The members of a signal of the given kind. -/
  signal (kind scenario : String) (index : Nat) (message : String) : List (String × Json) :=
    [("event", .text kind), ("scenario", .text scenario), ("index", .ofNat index),
      ("message", .text message)]

def toJson (event : Event) : Json :=
  .object event.members

/-- Reads the fields of an event of the given name from a settled tree. -/
def fields (name : String) (known : List String) (node : Node) : Except Fault Record :=
  Record.ofNode .counted ("struct variant LedgerEvent::" ++ name) known node

/-- Reads a signal. -/
def signalOfNode (name : String) (make : String → Nat → String → Event) (node : Node) :
    Except Fault Event := do
  let record ← fields name ["scenario", "index", "message"] node
  let reading := Placed.of make
    |>.apply (record.required "scenario" (Node.text "a string"))
    |>.apply (record.required "index" (Node.natural "usize"))
    |>.apply (record.required "message" (Node.text "a string"))
  (reading.given record.flawless).settle

/-- Reads an event of a known kind from what is settled beside its tag. -/
def ofKind (kind : String) (node : Node) : Except Fault Event :=
  match kind with
  | "banner" => do
      let record ← fields "Banner" ["scenario"] node
      let reading := Placed.of Event.banner
        |>.apply (record.required "scenario" (Node.text "a string"))
      (reading.given record.flawless).settle
  | "passed" => signalOfNode "Passed" .passed node
  | "failed" => signalOfNode "Failed" .failed node
  | "timed_out" => signalOfNode "TimedOut" .timedOut node
  | "log" => do
      let record ← fields "Log" ["level", "text"] node
      let reading := Placed.of Event.log
        |>.apply (record.required "level" (LogLevel.ofNode .settled))
        |>.apply (record.required "text" (Node.text "a string"))
      (reading.given record.flawless).settle
  | "captured" => do
      let record ← fields "Captured" ["evidence"] node
      let reading := Placed.of Event.captured
        |>.apply (record.required "evidence" (Evidence.ofNode .settled))
      (reading.given record.flawless).settle
  | "done" => do
      let record ← fields "Done" ["passed", "failed", "timed_out"] node
      let reading := Placed.of Event.done
        |>.apply (record.required "passed" (Node.natural "usize"))
        |>.apply (record.required "failed" (Node.natural "usize"))
        |>.apply (record.required "timed_out" (Node.natural "usize"))
      (reading.given record.flawless).settle
  | other => .error (.unknownVariant other kinds)

def title : String := "internally tagged enum LedgerEvent"

/-- Reads an event.  Where its text has been settled before, its kind may be given by number. -/
def ofNode (manner : Manner) (levels : Nat) (node : Node) : Except Fault Event := do
  let (kind, rest) ← node.tagAndRest levels title "event" kinds (manner = .settled)
  ofKind kind rest

end Event

namespace Entry

def toJson (entry : Entry) : Json :=
  .object (("at", .text entry.time) :: entry.event.members)

/-- Reads an entry; `levels` tells how deep its parts may be nested. -/
def ofNode (levels : Nat) (node : Node) : Except Fault Entry := do
  let entries ← node.entries "struct LedgerEntry"
  match ← Node.sift levels "at" "field identifier" (Node.text "a string") none [] entries with
  | (none, _) => .error (.missingField "at")
  | (some time, rest) => return { time, event := ← Event.ofNode .settled levels (.map rest) }

end Entry

namespace Report

def toJson (report : Report) : Json :=
  .object [
    ("passed", .ofNat report.passed),
    ("failed", .ofNat report.failed),
    ("timed_out", .ofNat report.timedOut),
    ("entries", .list (report.entries.map Entry.toJson))]

/-- Reads a report from a JSON text. -/
def ofNode (node : Node) : Except Fault Report := do
  let record ← Record.ofNode .exact "struct RunReport"
    ["passed", "failed", "timed_out", "entries"] node
  let reading := Placed.of Report.mk
    |>.apply (record.required "passed" (Node.natural "usize"))
    |>.apply (record.required "failed" (Node.natural "usize"))
    |>.apply (record.required "timed_out" (Node.natural "usize"))
    |>.apply (record.required "entries" (Node.listOf (Entry.ofNode (Manner.json.levels - 3))))
  (reading.given record.flawless).settle

end Report

end Rehearsal
