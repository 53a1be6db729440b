import NatGateway.Yaml.Cursor

/-!
# Plain scalars

Scalars without quotes. They end where the document could be read on in another way: before a colon
or a comment, at an indicator of a flow collection, and at a line that is not indented enough.
-/

namespace NatGateway.Yaml

/-- Whether a character opens, closes or separates flow collections. -/
def isFlowIndicator (c : Char) : Bool := [',', '[', ']', '{', '}'].contains c

/-- Where a plain scalar stands: whether in a flow collection, and how far its lines have to be
indented otherwise. -/
structure PlainContext where
  inFlow : Bool
  indentation : Nat

/-- What a plain scalar was read as. -/
structure PlainText where
  text : List Char
  endsBroken : Bool
  cursor : Cursor

/-- Read the characters up to the end of a word, put in front of those read before in reverse. In a
flow collection no colon may stand right before an indicator. -/
def readPlainWord (inFlow : Bool) : Nat → List Char → Cursor → Option (List Char × Cursor)
  | 0, _, _ => none
  | fuel + 1, taken, cursor =>
      match cursor.peek with
      | none => some (taken, cursor)
      | some c =>
          if isGapChar c || isBreak c then some (taken, cursor)
          else
            let following := cursor.peekAt 1
            if inFlow && c == ':' && following.any fun d => d == '?' || isFlowIndicator d then none
            else if c == ':' && endsWord following then some (taken, cursor)
            else if inFlow && isFlowIndicator c then some (taken, cursor)
            else readPlainWord inFlow fuel (c :: taken) cursor.next

/-- Read a plain scalar on from a gap. -/
def readPlainWords (context : PlainContext) (size : Nat) :
    Nat → List Char → Gap → Cursor → Option PlainText
  | 0, _, _, _ => none
  | fuel + 1, taken, gap, cursor =>
      let ended : PlainText := ⟨taken.reverse, gap.broken, cursor⟩
      if cursor.atDocumentMark || cursor.peek = some '#' then some ended
      else
        (readPlainWord context.inFlow size [] cursor).bind fun (word, cursor) =>
          let isEmpty := word.isEmpty
          let taken := if isEmpty then taken else word ++ gap.text.reverse ++ taken
          let broken := gap.broken && isEmpty
          match cursor.peek with
          | none => some ⟨taken.reverse, broken, cursor⟩
          | some c =>
              if !isGapChar c && !isBreak c then some ⟨taken.reverse, broken, cursor⟩
              else
                (Gap.read (some context.indentation) size .none cursor).bind fun (gap, cursor) =>
                  if !context.inFlow && cursor.column < context.indentation then
                    some ⟨taken.reverse, gap.broken, cursor⟩
                  else readPlainWords context size fuel taken gap cursor

/-- Read a plain scalar. -/
def readPlain (context : PlainContext) (size : Nat) (cursor : Cursor) : Option PlainText :=
  readPlainWords context size size [] .none cursor

end NatGateway.Yaml
