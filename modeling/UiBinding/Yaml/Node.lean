/-
From tokens to the tree of a document.

An alias stands for the node that bears its anchor.  Anchors are numbered: a name that is anchored
takes as its number the count of names known before, also when it was known itself, and an alias
stands for the last node that took the number of its name.

* `Document.read?` gives the document of a text: nothing for a text that is malformed or holds
  several documents, and `none` inside for one that holds none.
-/
import UiBinding.Yaml.Scanner

namespace UiBinding.Yaml

/-- A scalar. -/
structure Scalar where
  tag : Option TagText
  style : ScalarStyle
  text : String
  deriving DecidableEq, Repr

/-- A node of a document. -/
inductive Node where
  | scalar (value : Scalar)
  | sequence (items : List Node)
  | mapping (entries : List (Node × Node))
  /-- Stands for the node of a number. -/
  | alias (number : Nat)
  deriving Repr

/-- The node that stands where nothing is written. -/
def Node.nothing : Node := .scalar ⟨none, .plain, ""⟩

/-- The anchors met so far. -/
structure Anchors where
  /-- The number of every name. -/
  numbers : List (String × Nat)
  /-- For every number the scalar that bears it, or nothing if a collection does, last one
  first. -/
  bearers : List (Nat × Option Scalar)
  deriving Repr

/-- A document. -/
structure Document where
  root : Node
  anchors : Anchors
  deriving Repr

/-- The scalar that a node is or stands for. -/
def Document.scalar? (d : Document) : Node → Option Scalar
  | .scalar value => some value
  | .alias number => (d.anchors.bearers.lookup number).join
  | .sequence _ => none
  | .mapping _ => none

/-! ### Reading nodes -/

/-- The state while tokens are read. -/
structure Composer where
  tokens : List Token
  anchors : Anchors

/-- What the handles of tags stand for. -/
abbrev Handles := List (String × TagText)

/-- A reader of tokens. -/
abbrev Compose := StateT Composer Option

namespace Compose

/-- The next token. -/
def peek : Compose (Option Token) := return (← get).tokens.head?

/-- Passes over the next token. -/
def pass : Compose Unit := modify fun s => { s with tokens := s.tokens.drop 1 }

/-- Whether the next token is one of a list. -/
def nextIs (ts : List Token) : Compose Bool := return (← peek).any ts.contains

/-- Passes over the next token if it is the given one. -/
def passOver (t : Token) : Compose Bool := do
  if ← nextIs [t] then pass; return true
  return false

/-- Passes over the next token, which has to be the given one. -/
def expect (t : Token) : Compose Unit := do
  if !(← passOver t) then failure

/-- Gives the name of an anchor its number. -/
def bear (name : Option String) (bearer : Option Scalar) : Compose Unit := do
  match name with
  | none => return
  | some name =>
    modify fun s =>
      let number := s.anchors.numbers.length
      let numbers := (name, number) :: s.anchors.numbers.filter (·.1 != name)
      { s with anchors := ⟨numbers, (number, bearer) :: s.anchors.bearers⟩ }

/-- The tag that a handle and a suffix stand for. -/
def resolveTag (handles : Handles) (handle : String) (suffix : TagText) : Compose TagText := do
  if handle = "" then return suffix
  match handles.lookup handle with
  | none => failure
  | some uri => return uri ++ suffix

/-- The anchor and the tag before a node, in either order. -/
def properties (handles : Handles) : Compose (Option String × Option TagText) := do
  match ← peek with
  | some (.anchor name) =>
    pass
    match ← peek with
    | some (.tag handle suffix) =>
      pass
      return (some name, some (← resolveTag handles handle suffix))
    | _ => return (some name, none)
  | some (.tag handle suffix) =>
    pass
    match ← peek with
    | some (.anchor name) => pass; return (some name, some (← resolveTag handles handle suffix))
    | _ => return (none, some (← resolveTag handles handle suffix))
  | _ => return (none, none)

/-- The place of a node: whether blocks may begin there, and whether a sequence may begin at the
column of the mapping around it. -/
structure Place where
  block : Bool
  compact : Bool

mutual

/-- Reads a node. -/
def node (handles : Handles) (fuel : Nat) (place : Place) : Compose Node := do
  match fuel with
  | 0 => failure
  | fuel + 1 =>
    if let some (.alias name) := ← peek then
      pass
      match (← get).anchors.numbers.lookup name with
      | none => failure
      | some number => return .alias number
    let (anchor, tag) ← properties handles
    match ← peek with
    | some (.scalar text style) =>
      pass
      let value : Scalar := ⟨tag, style, text⟩
      bear anchor (some value)
      return .scalar value
    | some .flowSequenceStart =>
      pass; bear anchor none
      return .sequence (← flowItems handles fuel true)
    | some .flowMappingStart =>
      pass; bear anchor none
      return .mapping (← flowEntries handles fuel true)
    | next =>
      if place.compact && next = some .blockEntry then
        bear anchor none
        return .sequence (← compactItems handles fuel)
      else if place.block && next = some .blockSequenceStart then
        pass; bear anchor none
        return .sequence (← blockItems handles fuel)
      else if place.block && next = some .blockMappingStart then
        pass; bear anchor none
        return .mapping (← blockEntries handles fuel)
      else if anchor.isSome || tag.isSome then
        let value : Scalar := ⟨tag, .plain, ""⟩
        bear anchor (some value)
        return .scalar value
      else failure

/-- Reads a node unless one of the given tokens shows that nothing is written there. -/
def nodeUnless (handles : Handles) (fuel : Nat) (ends : List Token) (place : Place) :
    Compose Node := do
  match fuel with
  | 0 => failure
  | fuel + 1 => if ← nextIs ends then return .nothing else node handles fuel place

/-- Reads the items of a block sequence with its end. -/
def blockItems (handles : Handles) (fuel : Nat) : Compose (List Node) := do
  match fuel with
  | 0 => failure
  | fuel + 1 =>
    if ← passOver .blockEntry then
      let item ← nodeUnless handles fuel [.blockEntry, .blockEnd] ⟨true, false⟩
      return item :: (← blockItems handles fuel)
    expect .blockEnd
    return []

/-- Reads the items of a sequence that stands at the column of the mapping around it. -/
def compactItems (handles : Handles) (fuel : Nat) : Compose (List Node) := do
  match fuel with
  | 0 => failure
  | fuel + 1 =>
    if ← passOver .blockEntry then
      let item ← nodeUnless handles fuel [.blockEntry, .key, .value, .blockEnd] ⟨true, false⟩
      return item :: (← compactItems handles fuel)
    return []

/-- Reads the entries of a block mapping with its end. -/
def blockEntries (handles : Handles) (fuel : Nat) : Compose (List (Node × Node)) := do
  match fuel with
  | 0 => failure
  | fuel + 1 =>
    if ← passOver .key then
      let key ← nodeUnless handles fuel [.key, .value, .blockEnd] ⟨true, true⟩
      let value ← blockValue handles fuel
      return (key, value) :: (← blockEntries handles fuel)
    expect .blockEnd
    return []

/-- Reads the value of a block mapping's entry. -/
def blockValue (handles : Handles) (fuel : Nat) : Compose Node := do
  match fuel with
  | 0 => failure
  | fuel + 1 =>
    if ← passOver .value then nodeUnless handles fuel [.key, .value, .blockEnd] ⟨true, true⟩
    else return .nothing

/-- Reads the items of a sequence in brackets with its end.  A single entry of a mapping may stand
as an item. -/
def flowItems (handles : Handles) (fuel : Nat) (first : Bool) : Compose (List Node) := do
  match fuel with
  | 0 => failure
  | fuel + 1 =>
    if ← passOver .flowSequenceEnd then return []
    if !first then expect .flowEntry
    if ← passOver .flowSequenceEnd then return []
    if ← passOver .key then
      let key ←
        if ← nextIs [.value, .flowEntry, .flowSequenceEnd] then pass; pure .nothing
        else node handles fuel ⟨false, false⟩
      let value ←
        if ← passOver .value then
          nodeUnless handles fuel [.flowEntry, .flowSequenceEnd] ⟨false, false⟩
        else pure .nothing
      return .mapping [(key, value)] :: (← flowItems handles fuel false)
    let item ← node handles fuel ⟨false, false⟩
    return item :: (← flowItems handles fuel false)

/-- Reads the entries of a mapping in brackets with its end.  A key may stand alone. -/
def flowEntries (handles : Handles) (fuel : Nat) (first : Bool) : Compose (List (Node × Node)) := do
  match fuel with
  | 0 => failure
  | fuel + 1 =>
    if ← passOver .flowMappingEnd then return []
    if !first then expect .flowEntry
    if ← passOver .flowMappingEnd then return []
    if ← passOver .key then
      let key ← nodeUnless handles fuel [.value, .flowEntry, .flowMappingEnd] ⟨false, false⟩
      let value ←
        if ← passOver .value then
          nodeUnless handles fuel [.flowEntry, .flowMappingEnd] ⟨false, false⟩
        else pure .nothing
      return (key, value) :: (← flowEntries handles fuel false)
    let key ← node handles fuel ⟨false, false⟩
    return (key, .nothing) :: (← flowEntries handles fuel false)

end

/-! ### Reading documents -/

/-- The handles that need no directive. -/
def standardHandles : Handles :=
  [("!", .ofString "!"), ("!!", .ofString "tag:yaml.org,2002:")]

/-- Reads directives: at most one version, which is 1.1 or 1.2, and no handle twice. -/
def directives (fuel : Nat) (versioned : Bool) (handles : Handles) : Compose Handles := do
  match fuel with
  | 0 => failure
  | fuel + 1 =>
    match ← peek with
    | some (.version major minor) =>
      if versioned || major != 1 || (minor != 1 && minor != 2) then failure
      pass
      directives fuel true handles
    | some (.tagPrefix handle uri) =>
      if (handles.lookup handle).isSome then failure
      pass
      directives fuel versioned ((handle, uri) :: handles)
    | _ => return handles ++ standardHandles

/-- Whether the next token begins a document with directives or a marker. -/
def atExplicitStart : Compose Bool := do
  match ← peek with
  | some (.version _ _) => return true
  | some (.tagPrefix _ _) => return true
  | some .documentStart => return true
  | _ => return false

/-- Whether the document that was begun by a marker holds nothing. -/
def atEmptyDocument : Compose Bool := do
  match ← peek with
  | none => return true
  | some .documentEnd => return true
  | _ => atExplicitStart

/-- Passes over all markers of a document's end. -/
def passEnds (fuel : Nat) : Compose Unit := do
  match fuel with
  | 0 => return
  | fuel + 1 => if ← passOver .documentEnd then passEnds fuel else return

/-- Reads the root of the first document with its end. -/
def rootNode (fuel : Nat) : Compose Node := do
  let root ←
    if ← atExplicitStart then
      let handles ← directives fuel false []
      expect .documentStart
      if ← atEmptyDocument then pure Node.nothing else node handles fuel ⟨true, false⟩
    else node standardHandles fuel ⟨true, false⟩
  passEnds fuel
  return root

end Compose

/-- Reads the document of a text. -/
def Document.read? (text : String) : Option (Option Document) := do
  let tokens ← tokens? text
  if tokens.isEmpty then return none
  let (root, rest) ← Compose.rootNode (4 * tokens.length + 4) |>.run ⟨tokens, ⟨[], []⟩⟩
  if rest.tokens.isEmpty then return some ⟨root, rest.anchors⟩ else none

/-- The reason given for a text that is no document or not of the expected shape.  As with
`Xml.malformed`, this one text stands for every message of a YAML reader. -/
def malformed : String := "<yaml error>"

end UiBinding.Yaml
