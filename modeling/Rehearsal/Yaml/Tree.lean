import Rehearsal.Yaml.Token

/-!
The tree that a row of tokens stands for, with its aliases still in place.

Anchors are numbered by how many different names there have been.  A name that is given again takes
a number of its own, which the next new name takes as well; an alias means the last node of its
number, wherever that stands.
-/

namespace Rehearsal.Yaml

inductive Tree where
  | scalar (tag : Option String) (isPlain : Bool) (text : String)
  | list (tag : Option String) (items : List Tree)
  | map (tag : Option String) (entries : List (Tree × Tree))
  | alias (number : Nat)
  /-- Here the text stops being well formed. -/
  | cut
  deriving Inhabited

/-- A node under an anchor. -/
structure Anchored where
  number : Nat
  /-- How many anchored nodes began before this one. -/
  place : Nat
  tree : Tree

namespace Tree

/-- A node that is left out. -/
def empty : Tree := .scalar none true ""

/-- What has been gathered on the way through the tokens. -/
structure Progress where
  tokens : List Token
  /-- What the handles of tags stand for. -/
  handles : List (String × String)
  /-- The number that each name of an anchor has now. -/
  names : List (String × Nat)
  /-- How many anchored nodes have begun. -/
  begun : Nat
  anchored : List Anchored

abbrev Reading := StateM Progress

namespace Reading

def peek? : Reading (Option Token) := do
  return (← get).tokens.head?

def skip : Reading Unit :=
  modify fun progress => { progress with tokens := progress.tokens.tail }

/-- Breaks off: nothing behind this place counts. -/
def fail : Reading Tree := do
  modify fun progress => { progress with tokens := [] }
  return .cut

/-! ### Directives -/

def defaultHandles : List (String × String) :=
  [("!", "!"), ("!!", "tag:yaml.org,2002:")]

/-- Reads directives; whether they are in order. -/
def directives : Nat → Bool → Reading Bool
  | 0, _ => return false
  | fuel + 1, versioned => do
      match ← peek? with
      | some (.version major minor) =>
          skip
          if versioned || major != 1 || (minor != 1 && minor != 2) then return false
          else directives fuel true
      | some (.handle name lead) =>
          skip
          if ((← get).handles.lookup name).isSome then return false
          else
            modify fun progress =>
              { progress with handles := progress.handles ++ [(name, lead)] }
            directives fuel versioned
      | _ => return true

/-! ### Anchors and tags -/

/-- An anchor and a tag, in either order; a tag with its handle. -/
def properties : Reading (Option String × Option (String × String)) := do
  match ← peek? with
  | some (.anchor name) =>
      skip
      match ← peek? with
      | some (.tag handle suffix) =>
          skip
          return (some name, some (handle, suffix))
      | _ => return (some name, none)
  | some (.tag handle suffix) =>
      skip
      match ← peek? with
      | some (.anchor name) =>
          skip
          return (some name, some (handle, suffix))
      | _ => return (none, some (handle, suffix))
  | _ => return (none, none)

/-- The tag that a handle and what follows it stand for; none for an unknown handle. -/
def wholeTag? (handles : List (String × String)) (handle suffix : String) : Option String :=
  if handle.isEmpty then some suffix
  else ((handles ++ defaultHandles).lookup handle).map (· ++ suffix)

/-- Notes that a node under an anchor begins, and returns its number and place. -/
def begin (name : String) : Reading (Nat × Nat) := do
  let progress ← get
  let number := progress.names.length
  let names :=
    if (progress.names.lookup name).isSome then
      progress.names.map fun entry => if entry.1 = name then (name, number) else entry
    else progress.names ++ [(name, number)]
  set { progress with names, begun := progress.begun + 1 }
  return (number, progress.begun)

/-! ### Nodes -/

mutual

/-- A node.  Only outside of brackets and braces can it be a block; behind a key it can also be a
list whose items are not indented further than the key. -/
def node : Nat → (isBlock afterKey : Bool) → Reading Tree
  | 0, _, _ => fail
  | fuel + 1, isBlock, afterKey => do
      match ← peek? with
      | some (.alias name) =>
          match (← get).names.lookup name with
          | some number =>
              skip
              return .alias number
          | none => fail
      | _ =>
          let (anchor, tag) ← properties
          match tag with
          | some (handle, suffix) =>
              match wholeTag? (← get).handles handle suffix with
              | some tag => anchoredContent fuel isBlock afterKey anchor (some tag)
              | none => fail
          | none => anchoredContent fuel isBlock afterKey anchor none

/-- What follows an anchor and a tag, kept under the anchor. -/
def anchoredContent : Nat → (isBlock afterKey : Bool) → Option String → Option String → Reading Tree
  | 0, _, _, _, _ => fail
  | fuel + 1, isBlock, afterKey, none, tag => content fuel isBlock afterKey tag.isSome tag
  | fuel + 1, isBlock, afterKey, some name, tag => do
      let (number, place) ← begin name
      let tree ← content fuel isBlock afterKey true tag
      modify fun progress =>
        { progress with anchored := ⟨number, place, tree⟩ :: progress.anchored }
      return tree

/-- What follows an anchor and a tag; `marked` if there was one of them, so that there may be
nothing more. -/
def content : Nat → (isBlock afterKey marked : Bool) → Option String → Reading Tree
  | 0, _, _, _, _ => fail
  | fuel + 1, isBlock, afterKey, marked, tag => do
      let token ← peek?
      let nothing : Reading Tree :=
        if marked && token.isSome then return .scalar tag true "" else fail
      match token with
      | some (.scalar isPlain text) =>
          skip
          return .scalar tag isPlain text
      | some .flowListStart =>
          skip
          return .list tag (← flowItems fuel true)
      | some .flowMapStart =>
          skip
          return .map tag (← flowEntries fuel true)
      | some .item =>
          if afterKey then return .list tag (← looseItems fuel) else nothing
      | some .blockListStart =>
          if isBlock then
            skip
            return .list tag (← items fuel)
          else nothing
      | some .blockMapStart =>
          if isBlock then
            skip
            return .map tag (← entries fuel)
          else nothing
      | _ => nothing

/-- The items of a list in a block. -/
def items : Nat → Reading (List Tree)
  | 0 => return [← fail]
  | fuel + 1 => do
      match ← peek? with
      | some .item =>
          skip
          let tree ←
            match ← peek? with
            | some .item | some .blockEnd => pure empty
            | _ => node fuel true false
          return tree :: (← items fuel)
      | some .blockEnd =>
          skip
          return []
      | _ => return [← fail]

/-- The items of a list that stand at the column of the key before them. -/
def looseItems : Nat → Reading (List Tree)
  | 0 => return [← fail]
  | fuel + 1 => do
      match ← peek? with
      | some .item =>
          skip
          let tree ←
            match ← peek? with
            | some .item | some .key | some .value | some .blockEnd => pure empty
            | _ => node fuel true false
          return tree :: (← looseItems fuel)
      | some _ => return []
      | none => return [← fail]

/-- A key or value in a block, behind its token. -/
def part : Nat → Reading Tree
  | 0 => fail
  | fuel + 1 => do
      match ← peek? with
      | some .key | some .value | some .blockEnd => return empty
      | _ => node fuel true true

/-- The entries of a map in a block. -/
def entries : Nat → Reading (List (Tree × Tree))
  | 0 => return [(← fail, .cut)]
  | fuel + 1 => do
      match ← peek? with
      | some .key =>
          skip
          let key ← part fuel
          let value ←
            match ← peek? with
            | some .value =>
                skip
                part fuel
            | some _ => pure empty
            | none => fail
          return (key, value) :: (← entries fuel)
      | some .blockEnd =>
          skip
          return []
      | _ => return [(← fail, .cut)]

/-- The items of a list in brackets; `first` if there has been none yet. -/
def flowItems : Nat → (first : Bool) → Reading (List Tree)
  | 0, _ => return [← fail]
  | fuel + 1, first => do
      match ← peek? with
      | some .flowListEnd =>
          skip
          return []
      | some .comma =>
          if first then return [← fail]
          else
            skip
            match ← peek? with
            | some .flowListEnd =>
                skip
                return []
            | _ => flowItem fuel
      | _ => if first then flowItem fuel else return [← fail]

/-- An item of a list in brackets, and those behind it.  A key alone makes a map of one entry. -/
def flowItem : Nat → Reading (List Tree)
  | 0 => return [← fail]
  | fuel + 1 => do
      match ← peek? with
      | some .key =>
          skip
          let entry ← pair fuel
          if (← peek?).isSome then
            return .map none [entry] :: (← flowItems fuel false)
          else return [.map none [entry, (← fail, .cut)]]
      | _ =>
          let tree ← node fuel false false
          return tree :: (← flowItems fuel false)

/-- An entry by itself in a list.  Where its key is left out, the token that follows is passed over
with it, so that its value has to be left out too. -/
def pair : Nat → Reading (Tree × Tree)
  | 0 => return (← fail, .cut)
  | fuel + 1 => do
      let key ←
        match ← peek? with
        | some .value | some .comma | some .flowListEnd => do
            skip
            pure empty
        | _ => node fuel false false
      let value ←
        match ← peek? with
        | some .value => do
            skip
            match ← peek? with
            | some .comma | some .flowListEnd => pure empty
            | _ => node fuel false false
        | some _ => pure empty
        | none => fail
      return (key, value)

/-- The entries of a map in braces; `first` if there has been none yet. -/
def flowEntries : Nat → (first : Bool) → Reading (List (Tree × Tree))
  | 0, _ => return [(← fail, .cut)]
  | fuel + 1, first => do
      match ← peek? with
      | some .flowMapEnd =>
          skip
          return []
      | some .comma =>
          if first then return [(← fail, .cut)]
          else
            skip
            match ← peek? with
            | some .flowMapEnd =>
                skip
                return []
            | _ => flowEntry fuel
      | _ => if first then flowEntry fuel else return [(← fail, .cut)]

/-- An entry of a map in braces, and those behind it.  Without a key token there is no value. -/
def flowEntry : Nat → Reading (List (Tree × Tree))
  | 0 => return [(← fail, .cut)]
  | fuel + 1 => do
      match ← peek? with
      | some .key =>
          skip
          let key ← flowPart fuel
          let value ←
            match ← peek? with
            | some .value => do
                skip
                match ← peek? with
                | some .comma | some .flowMapEnd => pure empty
                | _ => node fuel false false
            | some _ => pure empty
            | none => fail
          return (key, value) :: (← flowEntries fuel false)
      | _ =>
          let key ← node fuel false false
          let value ←
            match ← peek? with
            | some _ => pure empty
            | none => fail
          return (key, value) :: (← flowEntries fuel false)

/-- The key of an entry in braces, behind its token. -/
def flowPart : Nat → Reading Tree
  | 0 => fail
  | fuel + 1 => do
      match ← peek? with
      | some .value | some .comma | some .flowMapEnd => return empty
      | _ => node fuel false false

end

/-- The root of a document behind its start mark. -/
def root (fuel : Nat) : Reading Tree := do
  match ← peek? with
  | some (.version ..) | some (.handle ..) | some .documentStart | some .documentEnd
  | some .streamEnd => return empty
  | _ => node fuel true false

/-- The first document; an empty text is one that is left out. -/
def document (fuel : Nat) : Reading Tree := do
  match ← peek? with
  | some .streamEnd => return empty
  | some (.version ..) | some (.handle ..) | some .documentStart =>
      if !(← directives fuel false) then fail
      else
        match ← peek? with
        | some .documentStart =>
            skip
            root fuel
        | _ => fail
  | _ => node fuel true false

end Reading

/-- Nothing but the ends of the document and of the stream is left. -/
def isEnd (tokens : List Token) : Bool :=
  tokens.dropWhile (· == .documentEnd) == [.streamEnd]

/-- The first document of a row of tokens, its anchored nodes, and whether it is the only one. -/
def ofTokens (tokens : List Token) : Tree × List Anchored × Bool :=
  let (tree, progress) := (Reading.document (8 * tokens.length + 8)).run
    { tokens, handles := [], names := [], begun := 0, anchored := [] }
  (tree, progress.anchored, isEnd progress.tokens)

end Tree

end Rehearsal.Yaml
