/-!
Paths of files, as texts whose parts stand between slashes.

Nothing is normalised: a path says what its author wrote.
-/

namespace Rehearsal.Path

/-- The path begins at the root. -/
def isAbsolute (path : String) : Bool :=
  path.toList.head? == some '/'

/-- The path of `part` seen from `base`: an absolute part stands for itself, any other behind `base`
and one slash. -/
def join (base part : String) : String :=
  if isAbsolute part then part
  else if base.isEmpty || base.toList.getLast? == some '/' then base ++ part
  else base ++ "/" ++ part

/-- A part that leads nowhere: the empty one, and one dot behind another part. -/
def isIdle (part : List Char) : Bool :=
  part == [] || part == ['.']

/-- The parts of a path, without the root. -/
def components (path : String) : List String :=
  match path.toList.splitOn '/' with
  | [] => []
  | first :: rest =>
      let lead := if first == [] then [] else [first]
      (lead ++ rest.filter fun part => !isIdle part).map String.ofList

/-- The last part, if it names something. -/
def fileName? (path : String) : Option String :=
  match (components path).getLast? with
  | some name => if name == "." || name == ".." then none else some name
  | none => none

/-- What stands behind the last dot of the file's name, where that dot is not its first
character. -/
def extension? (path : String) : Option String := do
  let name := (← fileName? path).toList
  let behind := (name.reverse.takeWhile (· != '.')).reverse
  let before := name.length - behind.length
  if before ≤ 1 then none else some (String.ofList behind)

end Rehearsal.Path
