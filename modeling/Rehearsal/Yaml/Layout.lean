import Rehearsal.Yaml.Block
import Rehearsal.Yaml.Name
import Rehearsal.Yaml.Plain
import Rehearsal.Yaml.Quoted

/-!
How far a YAML text has been cut into tokens.

A word may turn out to be a key, which only the colon behind it tells.  Until then its place in the
row of tokens is remembered as a candidate, and no token from there on is settled.  Outside of
brackets and braces the columns of items and keys say where a list or map begins and ends.
-/

namespace Rehearsal.Yaml

/-- A word that may be a key. -/
structure Candidate where
  /-- At this column there can be nothing but a key. -/
  required : Bool
  /-- How many tokens come before the word. -/
  number : Nat
  index : Nat
  line : Nat
  column : Nat
  deriving Repr

structure Layout where
  place : Place
  /-- The tokens so far, the latest first. -/
  tokens : List Token
  /-- How many there are. -/
  count : Nat
  candidate : Option Candidate
  /-- The candidates outside of each bracket and brace that is open, from the inside out. -/
  outerCandidates : List (Option Candidate)
  /-- The column of the present block, -1 outside of all of them. -/
  indent : Int
  /-- The columns of the blocks around it, from the inside out. -/
  outerIndents : List Int
  /-- A key may begin here. -/
  keyAllowed : Bool

namespace Layout

def start (text : List Char) : Layout :=
  { place := .start text, tokens := [], count := 0, candidate := none, outerCandidates := [],
    indent := -1, outerIndents := [], keyAllowed := true }

/-- Between brackets or braces. -/
def inFlow (layout : Layout) : Bool :=
  !layout.outerCandidates.isEmpty

/-- How many tokens nothing that follows can change: those before the first candidate. -/
def settled (layout : Layout) : Nat :=
  (layout.candidate :: layout.outerCandidates).foldl
    (fun n candidate => candidate.elim n fun candidate => min n candidate.number) layout.count

/-- The settled tokens in their order. -/
def settledTokens (layout : Layout) : List Token :=
  layout.tokens.reverse.take layout.settled

def push (layout : Layout) (token : Token) : Layout :=
  { layout with tokens := token :: layout.tokens, count := layout.count + 1 }

/-- Puts a token in behind the first `number` tokens. -/
def insert (layout : Layout) (number : Nat) (token : Token) : Layout :=
  { layout with
    tokens := layout.tokens.insertIdx (layout.count - number) token, count := layout.count + 1 }

def allowKey (layout : Layout) (allowed : Bool) : Layout :=
  { layout with keyAllowed := allowed }

/-- Adds the token that is in front and has `n` characters. -/
def take (layout : Layout) (n : Nat) (token : Token) : Layout :=
  { layout with place := layout.place.skip n }.push token

/-! ### Candidates -/

/-- Gives up the candidate, unless there must be a key. -/
def dropCandidate (layout : Layout) : Option Layout :=
  if layout.candidate.any (·.required) then none else some { layout with candidate := none }

/-- The word in front becomes the candidate, if a key may begin here. -/
def saveCandidate (layout : Layout) : Option Layout := do
  if !layout.keyAllowed then some layout
  else
    let required := !layout.inFlow && layout.indent == layout.place.column
    let layout ← layout.dropCandidate
    some { layout with
      candidate := some
        { required, number := layout.count, index := layout.place.index,
          line := layout.place.line, column := layout.place.column } }

/-- A key stands on one line and has at most 1024 characters. -/
def isStale (place : Place) (candidate : Candidate) : Bool :=
  candidate.line < place.line || candidate.index + 1024 < place.index

/-- Gives up a candidate that can no longer be a key. -/
def refresh (place : Place) : Option Candidate → Option (Option Candidate)
  | none => some none
  | some candidate =>
      if !isStale place candidate then some (some candidate)
      else if candidate.required then none
      else some none

def refreshCandidates (layout : Layout) : Option Layout := do
  let candidate ← refresh layout.place layout.candidate
  let outerCandidates ← layout.outerCandidates.mapM (refresh layout.place)
  some { layout with candidate, outerCandidates }

/-! ### Blocks -/

/-- Begins a block at a column that is further right than the present one, with `token` behind the
first `number` tokens. -/
def openBlock (layout : Layout) (column number : Nat) (token : Token) : Layout :=
  if layout.inFlow || (column : Int) ≤ layout.indent then layout
  else
    { layout with indent := column, outerIndents := layout.indent :: layout.outerIndents }.insert
      number token

def closeBlocksFrom (column : Int) : List Int → Layout → Layout
  | [], layout => layout
  | outer :: rest, layout =>
      if column < layout.indent then
        closeBlocksFrom column rest
          ({ layout with indent := outer, outerIndents := rest }.push .blockEnd)
      else layout

/-- Ends the blocks that are further right than a column. -/
def closeBlocks (layout : Layout) (column : Int) : Layout :=
  if layout.inFlow then layout else closeBlocksFrom column layout.outerIndents layout

/-- Passes over blanks, comments and line ends.  Tabs count as blanks where no key may begin, and a
line may begin with a byte order mark, which counts as a column of it. -/
def skipGap : Nat → Layout → Layout
  | 0, layout => layout
  | fuel + 1, layout =>
      let place := layout.place
      let place :=
        if place.column == 0 && place.nextIs '\ufeff' then place.skip 1 else place
      let place := place.skipWhile fun c =>
        c == ' ' || (c == '\t' && (layout.inFlow || !layout.keyAllowed))
      let place := place.skipComment
      match place.lineBreak? with
      | some (_, place) =>
          skipGap fuel
            { layout with place, keyAllowed := layout.keyAllowed || !layout.inFlow }
      | none => { layout with place }

/-! ### Tokens -/

/-- Ends the text, as if at the beginning of a further line. -/
def endStream (layout : Layout) : Option Layout := do
  let place := layout.place
  let place := if place.column == 0 then place else place.newLine 0
  let layout ← ({ layout with place }.closeBlocks (-1)).dropCandidate
  some ((layout.allowKey false).push .streamEnd)

/-- A token that belongs to no document or ends one. -/
def betweenDocuments (layout : Layout) : Option Layout := do
  some ((← (layout.closeBlocks (-1)).dropCandidate).allowKey false)

def directive (layout : Layout) : Option Layout := do
  let layout ← layout.betweenDocuments
  let (token, place) ← Name.directive? layout.place
  some ({ layout with place }.push token)

def boundary (layout : Layout) (token : Token) : Option Layout := do
  some ((← layout.betweenDocuments).take 3 token)

def openFlow (layout : Layout) (token : Token) : Option Layout := do
  let layout ← layout.saveCandidate
  some (({ layout with
    candidate := none, outerCandidates := layout.candidate :: layout.outerCandidates,
    keyAllowed := true }).take 1 token)

def closeFlow (layout : Layout) (token : Token) : Option Layout := do
  let layout ← layout.dropCandidate
  let layout :=
    match layout.outerCandidates with
    | [] => layout
    | candidate :: outerCandidates => { layout with candidate, outerCandidates }
  some ((layout.allowKey false).take 1 token)

def comma (layout : Layout) : Option Layout := do
  some (((← layout.dropCandidate).allowKey true).take 1 .comma)

/-- Begins a block with `token` where a key may begin, or fails. -/
def openBlockHere (layout : Layout) (token : Token) : Option Layout :=
  if layout.inFlow then some layout
  else if !layout.keyAllowed then none
  else some (layout.openBlock layout.place.column layout.count token)

def item (layout : Layout) : Option Layout := do
  let layout ← (← layout.openBlockHere .blockListStart).dropCandidate
  some ((layout.allowKey true).take 1 .item)

def key (layout : Layout) : Option Layout := do
  let layout ← (← layout.openBlockHere .blockMapStart).dropCandidate
  some ((layout.allowKey !layout.inFlow).take 1 .key)

/-- A colon: the candidate is a key, if there is one. -/
def value (layout : Layout) : Option Layout := do
  match layout.candidate with
  | some candidate =>
      let layout := layout.insert candidate.number .key
      let layout := layout.openBlock candidate.column candidate.number .blockMapStart
      some (({ layout with candidate := none, keyAllowed := false }).take 1 .value)
  | none =>
      let layout ← layout.openBlockHere .blockMapStart
      some ((layout.allowKey !layout.inFlow).take 1 .value)

/-- A token at which a key may begin and behind which none does. -/
def word (layout : Layout) (read : Place → Option (Token × Place)) : Option Layout := do
  let layout ← layout.saveCandidate
  let (token, place) ← read layout.place
  some (({ layout with place, keyAllowed := false }).push token)

def quoted (layout : Layout) (mark : Char) : Option Layout :=
  layout.word fun place =>
    (Quoted.read mark place).map fun (text, place) => (.scalar false text, place)

def block (layout : Layout) (folded : Bool) : Option Layout := do
  let layout ← layout.dropCandidate
  let (text, place) ← Block.read folded layout.indent (layout.place.skip 1)
  some (({ layout with place, keyAllowed := true }).push (.scalar false text))

def plain (layout : Layout) : Option Layout := do
  let layout ← layout.saveCandidate
  let (text, broken, place) ←
    Plain.read layout.inFlow (layout.indent + 1).toNat layout.place
  some (({ layout with place, keyAllowed := broken }).push (.scalar true text))

/-- Characters with which no unquoted scalar begins. -/
def indicators : List Char :=
  ['-', '?', ':', ',', '[', ']', '\x7b', '\x7d', '#', '&', '*', '!', '|', '>', '\'', '\x22', '%',
    '@', '\x60']

/-- An unquoted scalar begins here. -/
def atPlain (layout : Layout) : Bool :=
  match layout.place.next? with
  | none => false
  | some c =>
      let behind := layout.place.peek? 1
      if c == '-' then !behind.any isBlank
      else if c == '?' || c == ':' then !layout.inFlow && !endsWord behind
      else !isBlank c && !isBreak c && !indicators.contains c

/-- Adds the token in front. -/
def takeToken (layout : Layout) : Option Layout :=
  let place := layout.place
  let mayMean := layout.inFlow || endsWord (place.peek? 1)
  match place.next? with
  | none => layout.endStream
  | some c =>
      if c == '%' && place.column == 0 then layout.directive
      else if place.atMark '-' then layout.boundary .documentStart
      else if place.atMark '.' then layout.boundary .documentEnd
      else if c == '[' then layout.openFlow .flowListStart
      else if c == '\x7b' then layout.openFlow .flowMapStart
      else if c == ']' then layout.closeFlow .flowListEnd
      else if c == '\x7d' then layout.closeFlow .flowMapEnd
      else if c == ',' then layout.comma
      else if c == '-' && endsWord (place.peek? 1) then layout.item
      else if c == '?' && mayMean then layout.key
      else if c == ':' && mayMean then layout.value
      else if c == '*' then layout.word fun place =>
        (Name.anchor? place).map fun (name, place) => (.alias name, place)
      else if c == '&' then layout.word fun place =>
        (Name.anchor? place).map fun (name, place) => (.anchor name, place)
      else if c == '!' then layout.word (Name.tag? layout.inFlow)
      else if c == '|' && !layout.inFlow then layout.block false
      else if c == '>' && !layout.inFlow then layout.block true
      else if c == '\'' || c == '\x22' then layout.quoted c
      else if layout.atPlain then layout.plain
      else none

/-- Goes on to the next token. -/
def step (fuel : Nat) (layout : Layout) : Option Layout := do
  let layout ← (layout.skipGap fuel).refreshCandidates
  let layout ← (layout.closeBlocks layout.place.column).takeToken
  layout.refreshCandidates

end Layout

namespace Token

/-- The tokens that can be told from what is left, as far as the text is well formed. -/
def rowFrom : Nat → Layout → List Token
  | 0, layout => layout.settledTokens
  | fuel + 1, layout =>
      match layout.tokens with
      | .streamEnd :: _ => layout.settledTokens
      | _ =>
          match layout.step (fuel + 1) with
          | some layout => rowFrom fuel layout
          | none => layout.settledTokens

/-- The tokens of a text, up to the first that cannot be told.  They end with the end of the stream
if the whole text is well formed. -/
def row (text : List Char) : List Token :=
  rowFrom (text.length + 2) (.start text)

end Token

end Rehearsal.Yaml
