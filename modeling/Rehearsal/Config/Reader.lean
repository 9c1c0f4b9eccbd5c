import Rehearsal.Config.Basic
import Rehearsal.Toml.Reader

/-!
Settings taken out of a text.  What is left out keeps its default.
-/

namespace Rehearsal.Config

open Source

/-- Takes settings out of a tree, whatever they are. -/
def ofNode (manner : Manner) (node : Node) : Except Fault Config := do
  let record ← Record.ofNode manner.listedRecords "struct BddConfig"
    ["timeout_ms", "poll_interval_ms", "capture_dir", "label_tag"] node
  let reading := Placed.of Config.mk
    |>.apply (record.defaulted "timeout_ms" default.timeoutMs (Node.natural "u64"))
    |>.apply (record.defaulted "poll_interval_ms" default.pollIntervalMs (Node.natural "u64"))
    |>.apply (record.defaulted "capture_dir" default.captureDir (Node.text "path string"))
    |>.apply (record.defaulted "label_tag" default.labelTag (Node.text "a string"))
  (reading.given record.flawless).settle

/-- Reads settings written as TOML, and refuses those under which a run could not go on. -/
def ofToml (text : String) : Except Error Config :=
  match Toml.decode (ofNode .toml) text with
  | .ok config => config.check.mapError Error.config
  | .error fault => .error (.config (.malformed .toml fault))

/-- Reads the settings in a file, given what came of reading it. -/
def ofFile (path : String) (content : Except ReadFault String) : Except Error Config :=
  match content with
  | .ok text => ofToml text
  | .error fault => .error (.io path fault)

end Rehearsal.Config
