/-!
The tokens of a YAML text.

Besides what is written there are tokens for what the layout alone says: where the lists and maps of
a block begin and end, and that a word with a colon behind it is a key.
-/

namespace Rehearsal.Yaml

inductive Token where
  | version (major minor : Nat)
  /-- From here on tags with this handle begin with `lead`. -/
  | handle (name lead : String)
  | documentStart
  | documentEnd
  | streamEnd
  | blockListStart
  | blockMapStart
  | blockEnd
  | flowListStart
  | flowListEnd
  | flowMapStart
  | flowMapEnd
  /-- The dash before an item of a block. -/
  | item
  | comma
  | key
  | value
  | anchor (name : String)
  | alias (name : String)
  /-- A tag, as its handle and what follows that; a tag that is given in full has no handle. -/
  | tag (handle : String) (suffix : String)
  | scalar (isPlain : Bool) (text : String)
  deriving DecidableEq, Repr, Inhabited

end Rehearsal.Yaml
