import Rehearsal.Source.Manner
import Rehearsal.Toml.Value

/-!
TOML texts as trees.

A table is open to further keys only where the rules of the format leave it open: one that came up
on the way to another may still get a header of its own, once; one that dotted keys have made stays
with dotted keys; and what has been given as a value is closed.
-/

namespace Rehearsal.Toml

open Source

/-- What stands under a key. -/
inductive Item where
  | value (node : Node)
  /-- A table; `implied` if no header has named it, `dotted` if dotted keys have made it. -/
  | table (implied dotted : Bool) (entries : List (String × Item))
  /-- The tables of a list, from the last one on. -/
  | tables (last : List (String × Item)) (others : List (List (String × Item)))
  deriving Inhabited

abbrev Entries := List (String × Item)

/-- Puts an item in the place of the one under the same key, or at the end. -/
def put (key : String) (item : Item) : Entries → Entries
  | [] => [(key, item)]
  | (held, old) :: rest =>
      if held = key then (key, item) :: rest else (held, old) :: put key item rest

/-- Changes the table at the end of a path; `f` is told whether dotted keys have made it.  Tables
that are missing on the way are made. -/
def descend (dotted : Bool) (f : Bool → Entries → Option Entries) :
    List String → Bool → Entries → Option Entries
  | [], made, entries => f made entries
  | key :: path, _, entries =>
      match entries.lookup key with
      | none => do
          let inner ← descend dotted f path dotted []
          some (put key (.table true dotted inner) entries)
      | some (.value _) => none
      | some (.tables last others) => do
          let last ← descend dotted f path false last
          some (put key (.tables last others) entries)
      | some (.table implied made inner) =>
          if dotted && !implied then none
          else do
            let inner ← descend dotted f path made inner
            some (put key (.table implied made inner) entries)

/-- Gives a key that is new a value; the parts before the last one lead to its table. -/
def assign (path : List String) (node : Node) (entries : Entries) : Option Entries :=
  let way := path.dropLast
  let key := path.getLastD ""
  descend true (fun made entries =>
    if made == way.isEmpty || (entries.lookup key).isSome then none
    else some (entries ++ [(key, .value node)])) way false entries

mutual

/-- The tree of a table. -/
def nodeOf : Item → Node
  | .value node => node
  | .table _ _ entries => .map (nodesOf entries)
  | .tables last others => .list (tableNodes (others.reverse ++ [last]))

def nodesOf : Entries → List (Node × Node)
  | [] => []
  | (key, item) :: rest => (.ofAtom (.text key), nodeOf item) :: nodesOf rest

/-- The trees of tables in a list, of which only the number counts. -/
def tableNodes : List Entries → List Node
  | [] => []
  | _ :: rest => .map [] :: tableNodes rest

end

/-! ### Lists and maps in one line -/

mutual

/-- A value; `depth` is the number of lists and maps around it. -/
def value? : Nat → Nat → Chars → Option (Node × Chars)
  | 0, _, _ => none
  | fuel + 1, depth, chars =>
      match chars with
      | '[' :: rest =>
          if depth + 1 < depthLimit then do
            let (items, rest) ← items? fuel (depth + 1) rest
            some (.list items, rest)
          else none
      | '\x7b' :: rest =>
          if depth + 1 < depthLimit then
            match skipBlanks rest with
            | '\x7d' :: rest => some (.map [], rest)
            | rest => do
                let (entries, rest) ← members? fuel (depth + 1) [] rest
                some (.map (nodesOf entries), rest)
          else none
      | chars => scalar? chars

/-- The items of a list from the next one on, up to the closing bracket. -/
def items? : Nat → Nat → Chars → Option (List Node × Chars)
  | 0, _, _ => none
  | fuel + 1, depth, chars => do
      match ← skipLines (chars.length + 1) chars with
      | ']' :: rest => some ([], rest)
      | chars =>
          let (item, rest) ← value? fuel depth chars
          match ← skipLines (rest.length + 1) rest with
          | ']' :: rest => some ([item], rest)
          | ',' :: rest =>
              let (more, rest) ← items? fuel depth rest
              some (item :: more, rest)
          | _ => none

/-- The members of a map from the next one on, up to the closing brace, beside those before. -/
def members? : Nat → Nat → Entries → Chars → Option (Entries × Chars)
  | 0, _, _, _ => none
  | fuel + 1, depth, entries, chars => do
      let (path, rest) ← key? chars
      let rest ← literal? '=' rest
      let (node, rest) ← value? fuel depth (skipBlanks rest)
      let entries ← assign path node entries
      match skipBlanks rest with
      | '\x7d' :: rest => some (entries, rest)
      | ',' :: rest => members? fuel depth entries rest
      | _ => none

end

/-! ### The whole text -/

/-- A text as far as it has been read: the tables that are complete, and the one in hand with the
path that its header gave. -/
structure Draft where
  root : Entries
  path : List String
  listed : Bool
  current : Entries

namespace Draft

def empty : Draft :=
  { root := [], path := [], listed := false, current := [] }

/-- Puts the table in hand in its place. -/
def close (draft : Draft) : Option Entries :=
  if draft.path.isEmpty then some draft.current
  else
    let key := draft.path.getLastD ""
    descend false (fun _ entries =>
      if draft.listed then
        match entries.lookup key with
        | none => some (put key (.tables draft.current []) entries)
        | some (.tables last others) =>
            some (put key (.tables draft.current (last :: others)) entries)
        | some _ => none
      else some (put key (.table false false draft.current) entries))
      draft.path.dropLast false draft.root

/-- The table that a header asks for, as far as it is there already, and the others without it. -/
def takeOut (key : String) (entries : Entries) : Option (Entries × Entries) :=
  match entries.lookup key with
  | none => some ([], entries)
  | some (.table true false inner) => some (inner, entries.filter (·.1 != key))
  | some _ => none

/-- What stands at the end of a path. -/
def entriesAt (path : List String) (entries : Entries) : Entries :=
  match path with
  | [] => entries
  | key :: path =>
      match entries.lookup key with
      | some (.table _ _ inner) => entriesAt path inner
      | some (.tables last _) => entriesAt path last
      | _ => []

/-- Opens a table under a header. -/
def openTable (path : List String) (draft : Draft) : Option Draft := do
  let root ← draft.close
  let way := path.dropLast
  let key := path.getLastD ""
  let root ← descend false (fun _ entries => some entries) way false root
  let (current, _) ← takeOut key (entriesAt way root)
  let root ← descend false (fun _ entries => (takeOut key entries).map (·.2)) way false root
  some { root, path, listed := false, current }

/-- Opens one more table of a list. -/
def openListed (path : List String) (draft : Draft) : Option Draft := do
  let root ← draft.close
  let key := path.getLastD ""
  let root ← descend false (fun _ entries =>
    match entries.lookup key with
    | none | some (.tables ..) => some entries
    | some _ => none) path.dropLast false root
  some { root, path, listed := true, current := [] }

end Draft

/-- The header of a table, or of one table of a list. -/
def header? (chars : Chars) (draft : Draft) : Option (Draft × Chars) :=
  match chars with
  | '[' :: '[' :: rest => do
      let (path, rest) ← key? rest
      let rest ← literal? ']' (← literal? ']' rest)
      some (← draft.openListed path, ← lineEnd? rest)
  | '[' :: rest => do
      let (path, rest) ← key? rest
      let rest ← literal? ']' rest
      some (← draft.openTable path, ← lineEnd? rest)
  | _ => none

/-- A key and its value. -/
def assignment? (chars : Chars) (draft : Draft) : Option (Draft × Chars) := do
  let (path, rest) ← key? chars
  let rest ← literal? '=' rest
  let (node, rest) ← value? (rest.length + 1) 0 (skipBlanks rest)
  let rest ← lineEnd? rest
  some ({ draft with current := ← assign path node draft.current }, rest)

/-- Line after line. -/
def lines? : Nat → Chars → Draft → Option Draft
  | 0, _, _ => none
  | fuel + 1, chars, draft =>
      match skipBlanks chars with
      | [] => some draft
      | '[' :: rest => do
          let (draft, rest) ← header? ('[' :: rest) draft
          lines? fuel rest draft
      | '#' :: rest => do lines? fuel (← lineEnd? ('#' :: rest)) draft
      | rest =>
          match newline? rest with
          | some rest => lines? fuel rest draft
          | none => do
              let (draft, rest) ← assignment? rest draft
              lines? fuel rest draft

/-- The tree of a text. -/
def read (text : String) : Except Fault Node :=
  let chars :=
    match text.toList with
    | '\ufeff' :: rest => rest
    | chars => chars
  match (lines? (chars.length + 1) chars .empty).bind Draft.close with
  | some entries => .ok (.map (nodesOf entries))
  | none => .error .unreadable

/-- Takes a value out of a TOML text. -/
def decode {α : Type} (take : Node → Except Fault α) (text : String) : Except Fault α := do
  take (← read text)

end Rehearsal.Toml
