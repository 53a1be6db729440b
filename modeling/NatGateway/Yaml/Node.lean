import NatGateway.Yaml.Tag

/-!
# Nodes of a document

The tree that the tokens of a document make up. Its leaves are scalars and aliases; which node an
alias stands for is left open here. Anchors are numbered by how many names of anchors were known
before, and an alias takes the number of its name.
-/

namespace NatGateway.Yaml

open NatGateway.Text (Bytes)

/-- What is written before a node: the number of its anchor, and its tag. -/
structure Properties where
  anchor : Option Nat
  tag : Option Bytes

/-- The properties of a scalar with a text. The tag that names nothing is left out there. -/
def Properties.ofText (properties : Properties) : Properties :=
  { properties with tag := properties.tag.filter (· != Text.utf8Bytes "!") }

/-- A node of a document. -/
inductive Node where
  | alias (number : Nat)
  | scalar (properties : Properties) (plain : Bool) (text : String)
  | sequence (properties : Properties) (items : List Node)
  | mapping (properties : Properties) (entries : List (Node × Node))

/-- A node without properties and without text. -/
def Node.empty : Node := .scalar ⟨none, none⟩ true ""

/-- The state between two nodes: the tokens left, what handles of tags stand for, the names of
anchors with their numbers, and how many names there are. -/
structure NodeReader where
  tokens : List Token
  handles : List (List Char × Bytes)
  anchors : List (List Char × Nat)
  names : Nat

/-- Readers of nodes, which fail where tokens are out of place. -/
abbrev Reading := StateT NodeReader Option

namespace Reading

/-- The next token. Behind the last one the document ends. -/
def peek : Reading Token := do return (← get).tokens.headD .streamEnd

/-- Move on behind the next token. -/
def skip : Reading Unit := modify fun reader => { reader with tokens := reader.tokens.tail }

/-- Give an anchor its number, which is that of its name from now on. -/
def number (name : List Char) : Reading Nat := do
  let reader ← get
  let isNew := (reader.anchors.lookup name).isNone
  let number := reader.names
  set { reader with
    anchors := (name, number) :: reader.anchors
    names := if isNew then number + 1 else number }
  return number

/-- The number of the name of an alias, which has to be known. -/
def known (name : List Char) : Reading Nat := do
  let reader ← get
  reader.anchors.lookup name

/-- The tag that a handle and a suffix make up. The handle has to be known. -/
def resolved (handle : List Char) (suffix : Bytes) : Reading Bytes := do
  if handle.isEmpty then return suffix
  let reader ← get
  let start ← reader.handles.lookup handle
  return start ++ suffix

/-- The properties before a node: an anchor and a tag in either order. -/
def properties : Reading Properties := do
  match ← peek with
  | .anchor name =>
      skip
      match ← peek with
      | .tag handle suffix =>
          skip
          let anchor ← number name
          return ⟨some anchor, some (← resolved handle suffix)⟩
      | _ => return ⟨some (← number name), none⟩
  | .tag handle suffix =>
      skip
      match ← peek with
      | .anchor name =>
          skip
          let anchor ← number name
          return ⟨some anchor, some (← resolved handle suffix)⟩
      | _ => return ⟨none, some (← resolved handle suffix)⟩
  | _ => return ⟨none, none⟩

/-- Skip a token that has to come next. -/
def expect (isWanted : Token → Bool) : Reading Unit := do
  if isWanted (← peek) then skip else failure

/-- Whether there are entries left in a flow collection: at its end there are none, and a comma
stands between entries. The end is skipped. -/
def moreInFlow (isFirst : Bool) (isEnd : Token → Bool) : Reading Bool := do
  if isEnd (← peek) then
    skip
    return false
  if !isFirst then
    expect (· matches .flowEntry)
    if isEnd (← peek) then
      skip
      return false
  return true

mutual

/-- Read a node. In a block it may be a block collection, and under a key also a sequence that is
not indented. -/
def node (inBlock unindented : Bool) : Nat → Reading Node
  | 0 => failure
  | fuel + 1 => do
      match ← peek with
      | .alias name =>
          skip
          return .alias (← known name)
      | _ =>
          let properties ← properties
          match ← peek, inBlock with
          | .blockEntry, _ =>
              if unindented then return .sequence properties (← unindentedItems fuel)
              else bare properties
          | .scalar plain text, _ =>
              skip
              return .scalar properties.ofText plain (String.ofList text)
          | .flowSequenceStart, _ =>
              skip
              return .sequence properties (← flowItems true fuel)
          | .flowMappingStart, _ =>
              skip
              return .mapping properties (← flowEntries true fuel)
          | .blockSequenceStart, true =>
              skip
              return .sequence properties (← blockItems fuel)
          | .blockMappingStart, true =>
              skip
              return .mapping properties (← blockEntries fuel)
          | _, _ => bare properties

/-- A node that consists of its properties, of which there has to be one. -/
def bare (properties : Properties) : Reading Node :=
  if properties.anchor.isSome || properties.tag.isSome then
    return .scalar properties true ""
  else failure

/-- Read a node in a block unless a token follows that cannot start one. -/
def blockNode (unindented : Bool) (endsHere : Token → Bool) : Nat → Reading Node
  | 0 => failure
  | fuel + 1 => do if endsHere (← peek) then return .empty else node true unindented fuel

/-- Read the items of a block sequence. -/
def blockItems : Nat → Reading (List Node)
  | 0 => failure
  | fuel + 1 => do
      match ← peek with
      | .blockEntry =>
          skip
          let item ← blockNode false (fun t => t matches .blockEntry | .blockEnd) fuel
          return item :: (← blockItems fuel)
      | .blockEnd =>
          skip
          return []
      | _ => failure

/-- Read the items of a sequence that is not indented. -/
def unindentedItems : Nat → Reading (List Node)
  | 0 => failure
  | fuel + 1 => do
      match ← peek with
      | .blockEntry =>
          skip
          let item ←
            blockNode false (fun t => t matches .blockEntry | .key | .value | .blockEnd) fuel
          return item :: (← unindentedItems fuel)
      | _ => return []

/-- Read the entries of a block mapping. -/
def blockEntries : Nat → Reading (List (Node × Node))
  | 0 => failure
  | fuel + 1 => do
      match ← peek with
      | .key =>
          skip
          let isOver (t : Token) : Bool := t matches .key | .value | .blockEnd
          let key ← blockNode true isOver fuel
          match ← peek with
          | .value =>
              skip
              let value ← blockNode true isOver fuel
              return (key, value) :: (← blockEntries fuel)
          | _ => return (key, .empty) :: (← blockEntries fuel)
      | .blockEnd =>
          skip
          return []
      | _ => failure

/-- Read a node in a flow collection unless a token follows that cannot start one. -/
def flowNode (endsHere : Token → Bool) : Nat → Reading Node
  | 0 => failure
  | fuel + 1 => do if endsHere (← peek) then return .empty else node false false fuel

/-- Read the value of an entry in a flow collection, if there is one. -/
def flowValue (endsHere : Token → Bool) : Nat → Reading Node
  | 0 => failure
  | fuel + 1 => do
      match ← peek with
      | .value =>
          skip
          flowNode endsHere fuel
      | _ => return .empty

/-- Read the key of an entry that is an item of a flow sequence. A token that stands in the place of
the key is lost. -/
def flowItemKey : Nat → Reading Node
  | 0 => failure
  | fuel + 1 => do
      if (← peek) matches .value | .flowEntry | .flowSequenceEnd then
        skip
        return .empty
      else node false false fuel

/-- Read the items of a flow sequence. An item may be a single entry of a mapping. -/
def flowItems (isFirst : Bool) : Nat → Reading (List Node)
  | 0 => failure
  | fuel + 1 => do
      let isEnd (t : Token) : Bool := t matches .flowSequenceEnd
      if !(← moreInFlow isFirst isEnd) then return []
      match ← peek with
      | .key =>
          skip
          let isOver (t : Token) : Bool := t matches .flowEntry | .flowSequenceEnd
          let key ← flowItemKey fuel
          let value ← flowValue isOver fuel
          return .mapping ⟨none, none⟩ [(key, value)] :: (← flowItems false fuel)
      | _ =>
          let item ← node false false fuel
          return item :: (← flowItems false fuel)

/-- Read the entries of a flow mapping. -/
def flowEntries (isFirst : Bool) : Nat → Reading (List (Node × Node))
  | 0 => failure
  | fuel + 1 => do
      let isEnd (t : Token) : Bool := t matches .flowMappingEnd
      if !(← moreInFlow isFirst isEnd) then return []
      match ← peek with
      | .key =>
          skip
          let isOver (t : Token) : Bool := t matches .flowEntry | .flowMappingEnd
          let key ← flowNode (fun t => t matches .value | .flowEntry | .flowMappingEnd) fuel
          let value ← flowValue isOver fuel
          return (key, value) :: (← flowEntries false fuel)
      | _ =>
          let key ← node false false fuel
          return (key, .empty) :: (← flowEntries false fuel)

end

/-- Read directives before a document. There is one about the version at most, and one about each
handle. -/
def directives (hasVersion : Bool) : Nat → Reading Unit
  | 0 => failure
  | fuel + 1 => do
      match ← peek with
      | .versionDirective major minor =>
          let isKnown := major.dropWhile (· == '0') == ['1'] &&
            [['1'], ['2']].contains (minor.dropWhile (· == '0'))
          if hasVersion || !isKnown then failure
          skip
          directives true fuel
      | .tagDirective handle start =>
          let reader ← get
          if (reader.handles.lookup handle).isSome then failure
          let handles := (handle, start) :: reader.handles
          set { reader with tokens := reader.tokens.tail, handles }
          directives hasVersion fuel
      | _ => return ()

/-- The handles that are known without directives. -/
def usualHandles : List (List Char × Bytes) :=
  [(['!'], Text.utf8Bytes "!"), (['!', '!'], Text.utf8Bytes "tag:yaml.org,2002:")]

/-- Read a document, if there is one. Directives need a mark behind them, and a document with a mark
may be empty. -/
def document (fuel : Nat) : Reading (Option Node) := do
  match ← peek with
  | .streamEnd => return none
  | .versionDirective .. | .tagDirective .. | .documentStart =>
      directives false fuel
      modify fun reader => { reader with handles := reader.handles ++ usualHandles }
      expect (· matches .documentStart)
      match ← peek with
      | .versionDirective .. | .tagDirective .. | .documentStart | .documentEnd | .streamEnd =>
          return some .empty
      | _ => return some (← node true false fuel)
  | _ =>
      modify fun reader => { reader with handles := usualHandles }
      return some (← node true false fuel)

/-- Skip the marks of ends of documents. -/
def documentEnds : Nat → Reading Unit
  | 0 => return ()
  | fuel + 1 => do
      match ← peek with
      | .documentEnd =>
          skip
          documentEnds fuel
      | _ => return ()

/-- Read the only document, if there is one. Nothing may follow it. -/
def onlyDocument (fuel : Nat) : Reading (Option Node) := do
  let found ← document fuel
  documentEnds fuel
  if (← peek) matches .streamEnd then return found else failure

end Reading

/-- The node of a document; none if there is nothing in it. The outer result is missing if it is
malformed or if there are several documents. -/
def node? (cs : List Char) : Option (Option Node) :=
  (tokens? cs).bind fun tokens =>
    let fuel := 3 * tokens.length + 3
    ((Reading.onlyDocument fuel).run ⟨tokens, [], [], 0⟩).map (·.1)

end NatGateway.Yaml
