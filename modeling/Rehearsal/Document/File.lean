import Rehearsal.Document.Reader
import Rehearsal.Path
import Rehearsal.Yaml.Reader

/-!
Documents in files.
-/

namespace Rehearsal.Document

/-- Reads a document written as YAML. -/
def ofYaml (text : String) : Except Error Document :=
  (Yaml.decode Document.scope (Document.ofNode .yaml) text).mapError fun fault =>
    .document (.malformed .yaml fault)

/-- Reads the document in a file, given what came of reading it.  Files whose names end in `.json`
hold JSON, and all others YAML. -/
def ofFile (path : String) (content : Except ReadFault String) : Except Error Document :=
  match content with
  | .ok text => if Path.extension? path = some "json" then ofJson text else ofYaml text
  | .error fault => .error (.io path fault)

end Rehearsal.Document
