import NatGateway.Yaml.Node

/-!
# Values of documents

From the node of a document to its value: tags are applied, aliases stand for the nodes with their
anchors, and no two entries of a mapping have the same key. The depth of a document and the number
of aliases that are followed are limited.
-/

namespace NatGateway.Yaml

open NatGateway.Text (Bytes)

mutual

/-- How many events announce a node: one for a leaf, and two besides those of the parts for a
collection. -/
def Node.events : Node → Nat
  | .alias _ => 1
  | .scalar _ _ _ => 1
  | .sequence _ items => 2 + Node.eventsOfItems items
  | .mapping _ entries => 2 + Node.eventsOfEntries entries

/-- How many events announce nodes. -/
def Node.eventsOfItems : List Node → Nat
  | [] => 0
  | item :: rest => item.events + Node.eventsOfItems rest

/-- How many events announce entries. -/
def Node.eventsOfEntries : List (Node × Node) → Nat
  | [] => 0
  | (key, value) :: rest => key.events + value.events + Node.eventsOfEntries rest

end

/-- A node under a condition on its properties. -/
def Node.ifAnchored (number : Nat) (properties : Properties) (node : Node) : Option Node :=
  if properties.anchor = some number then some node else none

mutual

/-- The last node of a document with the number of an anchor. -/
def Node.anchored? (number : Nat) : Node → Option Node
  | .alias _ => none
  | .scalar properties plain text =>
      Node.ifAnchored number properties (.scalar properties plain text)
  | .sequence properties items =>
      (Node.anchoredItem? number items).or
        (Node.ifAnchored number properties (.sequence properties items))
  | .mapping properties entries =>
      (Node.anchoredEntry? number entries).or
        (Node.ifAnchored number properties (.mapping properties entries))

/-- The last node among others with the number of an anchor. -/
def Node.anchoredItem? (number : Nat) : List Node → Option Node
  | [] => none
  | item :: rest => (Node.anchoredItem? number rest).or (item.anchored? number)

/-- The last node among entries with the number of an anchor. -/
def Node.anchoredEntry? (number : Nat) : List (Node × Node) → Option Node
  | [] => none
  | (key, value) :: rest =>
      (Node.anchoredEntry? number rest).or ((value.anchored? number).or (key.anchored? number))

end

/-- A tag of the kinds that every document knows. -/
def coreTag (name : String) : Bytes := Text.utf8Bytes ("tag:yaml.org,2002:" ++ name)

/-- The name of a tag of a document's own, without the mark in front if there is more. -/
def ownTag? (tag : Bytes) : Option String :=
  (Text.utf8? tag).bind fun name =>
    match name.toList with
    | ['!'] => some "!"
    | '!' :: rest => some (String.ofList rest)
    | _ => none

/-- The value of a scalar under a tag. -/
def scalarUnder? (tag : Bytes) (plain : Bool) (text : String) : Option Value :=
  if tag = coreTag "bool" then (boolText? text).map .bool
  else if tag = coreTag "int" then (integerText? text).join
  else if tag = coreTag "float" then (float? text).map fun x => .number (.float x)
  else if tag = coreTag "null" then if isNullText text then some .null else none
  else if plain && tag.head? = some 0x21 then resolve? text
  else some (.string text)

/-- The value of a scalar whose tag does not count. -/
def scalarValue (plain : Bool) (text : String) : Option Value :=
  if plain then resolve? text else some (.string text)

/-- Whether a node stands for another one. -/
def Node.isAlias : Node → Bool
  | .alias _ => true
  | _ => false

/-- What has to be known to follow an alias: the document, and how many may be followed. -/
structure Aliases where
  document : Node
  limit : Nat

/-- Readers of values that count the aliases that were followed. -/
abbrev Composing := StateT Nat Option

/-- The node that a node stands for: itself, or the one with the anchor of an alias. -/
def Aliases.target (aliases : Aliases) (node : Node) : Composing Node := do
  match node with
  | .alias number =>
      let followed ← get
      if aliases.limit ≤ followed then failure
      set (followed + 1)
      aliases.document.anchored? number
  | node => return node

/-- A value under its tag, if it has one of the document's own. -/
def withTag (name : Option String) (value : Value) : Value :=
  match name with
  | some name => .tagged name value
  | none => value

/-- Put entries into a mapping one after another. No key may come twice. -/
def distinctEntries (entries : List (Value × Value)) : Option (List (Value × Value)) :=
  entries.foldlM (fun known (key, value) =>
    if (Value.lookup? key known).isSome then none else some (known ++ [(key, value)])) []

/-- The name of the tag that counts for a node: that of a tag of the document's own, unless the node
stands right under another tag. -/
def ownName (underTag : Bool) (properties : Properties) : Option String :=
  if underTag then none else properties.tag.bind ownTag?

/-- A tag has to have a name. -/
def allowName (name : Option String) : Composing Unit :=
  if name = some "" then failure else return ()

/-- The value of a scalar node. -/
def scalarNode (underTag : Bool) (properties : Properties) (plain : Bool) (text : String) :
    Composing Value := do
  let name := ownName underTag properties
  allowName name
  let value ←
    if underTag || name.isSome then (scalarValue plain text : Option Value)
    else
      match properties.tag with
      | some tag => scalarUnder? tag plain text
      | none => scalarValue plain text
  return withTag name value

/-- The value of a node with so much depth left. Right under a tag, and in the keys of a mapping
there, no other tag counts. -/
def Aliases.value (aliases : Aliases) : Nat → Bool → Node → Composing Value
  | 0, underTag, node => do
      match ← aliases.target node with
      | .scalar properties plain text =>
          scalarNode (underTag && !node.isAlias) properties plain text
      | _ => failure
  | depth + 1, underTag, node => do
      match ← aliases.target node with
      | .alias _ => failure
      | .scalar properties plain text =>
          scalarNode (underTag && !node.isAlias) properties plain text
      | .sequence properties items =>
          let name := ownName (underTag && !node.isAlias) properties
          allowName name
          let values ← items.mapM (aliases.value depth false)
          return withTag name (.sequence values)
      | .mapping properties entries =>
          let name := ownName (underTag && !node.isAlias) properties
          allowName name
          let keysUnderTag := (underTag && !node.isAlias) || name.isSome
          let values ← entries.mapM fun (key, value) => do
            let key ← aliases.value depth keysUnderTag key
            return (key, ← aliases.value depth false value)
          return withTag name (.mapping (← distinctEntries values))

/-- The most collections that may stand in each other. -/
def greatestDepth : Nat := 128

/-- The value of a document. A document without anything is null. -/
def value? (bytes : Bytes) : Option Value :=
  (documentChars? bytes).bind fun cs =>
    (node? cs).bind fun node =>
      match node with
      | none => some .null
      | some node =>
          let aliases : Aliases := ⟨node, node.events * 100⟩
          ((aliases.value greatestDepth false node).run 0).map (·.1)

end NatGateway.Yaml
