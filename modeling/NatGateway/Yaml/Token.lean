import NatGateway.Yaml.Block
import NatGateway.Yaml.Plain
import NatGateway.Yaml.Quoted

/-!
# Tokens of a document

The pieces that a document is made of. Besides those that are written there are tokens for what the
indentation says: where block collections start and end. That a scalar was a key is known only when
the colon behind it is met; the tokens for it are then put before the scalar.
-/

namespace NatGateway.Yaml

open NatGateway.Text (Bytes)

/-- A token. The suffix of a tag holds bytes, since escapes in it need not make up characters. -/
inductive Token where
  | versionDirective (major minor : List Char)
  | tagDirective (handle : List Char) (start : Bytes)
  | documentStart
  | documentEnd
  | streamEnd
  | blockSequenceStart
  | blockMappingStart
  | blockEnd
  | flowSequenceStart
  | flowSequenceEnd
  | flowMappingStart
  | flowMappingEnd
  | blockEntry
  | flowEntry
  | key
  | value
  | alias (name : List Char)
  | anchor (name : List Char)
  | tag (handle : List Char) (suffix : Bytes)
  | scalar (plain : Bool) (text : List Char)

/-- A place where a key may have started. A key is required where the line has the indentation of
the block. -/
structure PossibleKey where
  required : Bool
  position : Nat
  line : Nat
  index : Nat

/-- The state between two tokens: the indentations of the blocks around, the flow collections
around, each with a key that may have started in it, and the tokens so far. Each of them comes with
those that were put before it. -/
structure Lexer where
  size : Nat
  cursor : Cursor
  indentation : Int
  outer : List Int
  keyAllowed : Bool
  key : Option PossibleKey
  flow : List (Option PossibleKey)
  tokens : Array (List Token × Token)

namespace Lexer

/-- The state at the start of a document. -/
def start (cs : List Char) : Lexer :=
  ⟨cs.length + 1, .start cs, -1, [], true, none, [], #[]⟩

/-- Whether the place is inside a flow collection. -/
def inFlow (lexer : Lexer) : Bool := !lexer.flow.isEmpty

/-- Add a token. -/
def push (lexer : Lexer) (token : Token) : Lexer :=
  { lexer with tokens := lexer.tokens.push ([], token) }

/-- Put a token before the one at a position, and before those put there already. -/
def putBefore (lexer : Lexer) (position : Nat) (token : Token) : Lexer :=
  { lexer with tokens := lexer.tokens.modify position fun (before, t) => (token :: before, t) }

/-- All tokens in order. -/
def allTokens (lexer : Lexer) : List Token :=
  lexer.tokens.toList.flatMap fun (before, token) => before ++ [token]

/-- Move on. -/
def skip (lexer : Lexer) (count : Nat) : Lexer :=
  { lexer with cursor := lexer.cursor.advance count }

/-- Start a block at a column if it is deeper than the one around; the result says whether. -/
def indent (lexer : Lexer) (column : Nat) : Bool × Lexer :=
  if !lexer.inFlow && lexer.indentation < column then
    (true, { lexer with
      indentation := column
      outer := lexer.indentation :: lexer.outer })
  else (false, lexer)

/-- The blocks that end where a line has a smaller indentation, and the indentations left. -/
def unwound (column : Int) : Int → List Int → Nat × Int × List Int
  | indentation, [] => (0, indentation, [])
  | indentation, next :: rest =>
      if column < indentation then
        let (count, left) := unwound column next rest
        (count + 1, left)
      else (0, indentation, next :: rest)

/-- End the blocks that are deeper than a column. -/
def unindent (lexer : Lexer) (column : Int) : Lexer :=
  if lexer.inFlow then lexer
  else
    let (count, indentation, outer) := unwound column lexer.indentation lexer.outer
    let ends := Array.replicate count (([] : List Token), Token.blockEnd)
    { lexer with indentation, outer, tokens := lexer.tokens ++ ends }

/-- Forget the possible key. A required one must not be forgotten. -/
def dropKey (lexer : Lexer) : Option Lexer :=
  if lexer.key.any (·.required) then none else some { lexer with key := none }

/-- Note that a key may start here, if it may. -/
def saveKey (lexer : Lexer) : Option Lexer :=
  if lexer.keyAllowed then
    let cursor := lexer.cursor
    let required := !lexer.inFlow && lexer.indentation == cursor.column
    lexer.dropKey.map fun lexer =>
      { lexer with key := some ⟨required, lexer.tokens.size, cursor.line, cursor.index⟩ }
  else some lexer

/-- The possible key if it is still one: on the same line, and not too far away. One that is
required has to be. -/
def currentKey (lexer : Lexer) : Option (Option PossibleKey) :=
  match lexer.key with
  | none => some none
  | some key =>
      if key.line < lexer.cursor.line || key.index + 1024 < lexer.cursor.index then
        if key.required then none else some none
      else some (some key)

/-- Set whether a key may start next. -/
def allowKey (lexer : Lexer) (allowed : Bool) : Lexer := { lexer with keyAllowed := allowed }

/-- Skip blanks, comments and line breaks. A new line may start a key. -/
def toNextToken : Nat → Lexer → Lexer
  | 0, lexer => lexer
  | fuel + 1, lexer =>
      let cursor := lexer.cursor
      let isMarked := cursor.column == 0 && cursor.peek = some '\ufeff'
      let cursor := if isMarked then cursor.next else cursor
      let tabs := lexer.inFlow || !lexer.keyAllowed
      let cursor := (cursor.skipWhile fun c => c == ' ' || (tabs && c == '\t')).skipComment
      if cursor.peek.any isBreak then
        toNextToken fuel
          { lexer with cursor := cursor.next, keyAllowed := lexer.keyAllowed || !lexer.inFlow }
      else { lexer with cursor := cursor }

/-- Move on to the end of the blocks, as before a directive or a document mark. -/
def toOutermost (lexer : Lexer) : Option Lexer :=
  (lexer.unindent (-1)).dropKey.map (·.allowKey false)

/-- An indicator of one character that ends a possible key. -/
def indicator (lexer : Lexer) (token : Token) (keyAllowed : Bool) : Option Lexer :=
  lexer.dropKey.map fun lexer => ((lexer.allowKey keyAllowed).skip 1).push token

/-- The start of a flow collection. -/
def flowStart (lexer : Lexer) (token : Token) : Option Lexer :=
  lexer.saveKey.map fun lexer =>
    let lexer := { lexer with flow := lexer.key :: lexer.flow, key := none }
    ((lexer.allowKey true).skip 1).push token

/-- The end of a flow collection. -/
def flowEnd (lexer : Lexer) (token : Token) : Option Lexer :=
  lexer.dropKey.map fun lexer =>
    let lexer :=
      match lexer.flow with
      | key :: flow => { lexer with key := key, flow := flow }
      | [] => lexer
    ((lexer.allowKey false).skip 1).push token

/-- An indicator of a block collection, which starts the collection if it is deeper. -/
def blockIndicator (lexer : Lexer) (start token : Token) : Option Lexer :=
  if lexer.inFlow then lexer.indicator token (token matches .blockEntry)
  else if !lexer.keyAllowed then none
  else
    let (deeper, lexer) := lexer.indent lexer.cursor.column
    let lexer := if deeper then lexer.push start else lexer
    lexer.indicator token true

/-- A colon. Behind a key it puts the key's tokens in place. -/
def colon (lexer : Lexer) : Option Lexer :=
  lexer.currentKey.bind fun key =>
    let lexer := { lexer with key := none }
    match key with
    | some key =>
        let column := lexer.cursor.column - (lexer.cursor.index - key.index)
        let lexer := lexer.putBefore key.position .key
        let (deeper, lexer) := lexer.indent column
        let lexer := if deeper then lexer.putBefore key.position .blockMappingStart else lexer
        some (((lexer.allowKey false).skip 1).push .value)
    | none =>
        if lexer.inFlow then some (((lexer.allowKey false).skip 1).push .value)
        else if !lexer.keyAllowed then none
        else
          let (deeper, lexer) := lexer.indent lexer.cursor.column
          let lexer := if deeper then lexer.push .blockMappingStart else lexer
          some (((lexer.allowKey true).skip 1).push .value)

/-- Whether a name may end before a character. -/
def endsName (c : Option Char) : Bool :=
  endsWord c || c.any fun c => ['?', ':', ',', ']', '}', '%', '@', '\x60'].contains c

/-- An anchor or an alias. -/
def named (lexer : Lexer) (token : List Char → Token) : Option Lexer :=
  lexer.saveKey.bind fun lexer =>
    let (name, cursor) := lexer.cursor.next.takeWhile isNameChar
    if name.isEmpty || !endsName cursor.peek then none
    else some (({ lexer with cursor := cursor }.allowKey false).push (token name))

/-- A scalar that was read. -/
def scalar (lexer : Lexer) (plain keyAllowed : Bool) (text : List Char) (cursor : Cursor) : Lexer :=
  ({ lexer with cursor := cursor }.allowKey keyAllowed).push (.scalar plain text)

/-- A quoted scalar. -/
def quoted (lexer : Lexer) (single : Bool) : Option Lexer :=
  lexer.saveKey.bind fun lexer =>
    (readQuoted single lexer.size lexer.cursor).map fun (text, cursor) =>
      lexer.scalar false false text cursor

/-- A block scalar. -/
def block (lexer : Lexer) (literal : Bool) : Option Lexer :=
  lexer.dropKey.bind fun lexer =>
    (readBlock literal lexer.indentation lexer.size lexer.cursor).map fun (text, cursor) =>
      lexer.scalar false true text cursor

/-- A plain scalar. Behind a line break a key may start. -/
def plain (lexer : Lexer) : Option Lexer :=
  lexer.saveKey.bind fun lexer =>
    let context : PlainContext := ⟨lexer.inFlow, (lexer.indentation + 1).toNat⟩
    (readPlain context lexer.size lexer.cursor).map fun read =>
      lexer.scalar true read.endsBroken read.text read.cursor

end Lexer

end NatGateway.Yaml
