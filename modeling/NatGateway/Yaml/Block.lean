import NatGateway.Yaml.Cursor

/-!
# Block scalars

Scalars that are written as indented lines under a header. A literal one keeps its line breaks, and
a folded one reads them as spaces between lines that start with no blank.
-/

namespace NatGateway.Yaml

/-- What becomes of the line breaks at the end of a block scalar. -/
inductive Chomping where
  | strip
  | clip
  | keep

/-- The header of a block scalar: its chomping, and by how much its lines are indented if it says
so. -/
structure BlockHeader where
  chomping : Chomping
  increment : Option Nat

/-- The chomping that a character asks for. -/
def chompingOf? : Option Char → Option Chomping
  | some '+' => some .keep
  | some '-' => some .strip
  | _ => none

/-- Read an increment, which is a digit other than zero. The outer result is missing for a zero. -/
def readIncrement (cursor : Cursor) : Option (Option Nat × Cursor) :=
  match cursor.peek with
  | some c =>
      if !c.isDigit then some (none, cursor)
      else if c == '0' then none
      else some (some (c.toNat - '0'.toNat), cursor.next)
  | none => some (none, cursor)

/-- Read a header up to the end of its line. Its two parts may come in either order. -/
def readBlockHeader (cursor : Cursor) : Option (BlockHeader × Cursor) :=
  match chompingOf? cursor.peek with
  | some chomping =>
      (readIncrement cursor.next).map fun (increment, cursor) => (⟨chomping, increment⟩, cursor)
  | none =>
      (readIncrement cursor).map fun (increment, after) =>
        match increment, chompingOf? after.peek with
        | some n, some chomping => (⟨chomping, some n⟩, after.next)
        | increment, _ => (⟨.clip, increment⟩, after)

/-- The line breaks before a line that is not empty. -/
structure BlockBreaks where
  breaks : List Char
  deepest : Nat
  cursor : Cursor

/-- Read empty lines and the indentation of the line behind them: up to a column, or as far as it
goes. Tabs may not stand in the place of an indentation. -/
def readBlockBreaks (column : Option Nat) (size : Nat) :
    Nat → List Char → Nat → Cursor → Option BlockBreaks
  | 0, _, _, _ => none
  | fuel + 1, breaks, deepest, cursor =>
      let spaces := (cursor.rest.takeWhile (· == ' ')).length
      let count :=
        match column with
        | some column => min spaces (column - cursor.column)
        | none => spaces
      let cursor := cursor.advance count
      let deepest := max deepest cursor.column
      let isShallow :=
        match column with
        | some column => cursor.column < column
        | none => true
      match cursor.peek with
      | some c =>
          if isShallow && c == '\t' then none
          else if isBreak c then
            readBlockBreaks column size fuel (breaks ++ [c]) deepest cursor.next
          else some ⟨breaks, deepest, cursor⟩
      | none => some ⟨breaks, deepest, cursor⟩

/-- What was read of a block scalar: its text in reverse, the break of its last line, the breaks of
the empty lines behind it, and whether that line starts with a blank. -/
structure BlockLines where
  taken : List Char
  last : List Char
  more : List Char
  startsBlank : Bool

/-- What the breaks between two lines are read as. -/
def blockBreakText (literal : Bool) (lines : BlockLines) (nextStartsBlank : Bool) : List Char :=
  if !literal && lines.last = ['\n'] && !lines.startsBlank && !nextStartsBlank then
    if lines.more.isEmpty then [' '] else lines.more
  else lines.last ++ lines.more

/-- Read the lines of a block scalar that are indented to a column. -/
def readBlockLines (literal : Bool) (column size : Nat) :
    Nat → BlockLines → Cursor → Option (BlockLines × Cursor)
  | 0, _, _ => none
  | fuel + 1, lines, cursor =>
      if cursor.column != column || cursor.peek.isNone then some (lines, cursor)
      else
        let startsBlank := cursor.peek.any isGapChar
        let between := blockBreakText literal lines startsBlank
        let (line, cursor) := cursor.takeWhile (!isBreak ·)
        let taken := line.reverse ++ between.reverse ++ lines.taken
        let last := cursor.peek.toList
        (readBlockBreaks (some column) size size [] 0 cursor.next).bind fun breaks =>
          readBlockLines literal column size fuel ⟨taken, last, breaks.breaks, startsBlank⟩
            breaks.cursor

/-- The end of a block scalar under a chomping. -/
def Chomping.tail (chomping : Chomping) (lines : BlockLines) : List Char :=
  match chomping with
  | .strip => []
  | .clip => lines.last
  | .keep => lines.last ++ lines.more

/-- Read a block scalar from its indicator on. The indentation is that of the surrounding block, -1
if there is none. -/
def readBlock (literal : Bool) (indentation : Int) (size : Nat) (cursor : Cursor) :
    Option (List Char × Cursor) :=
  (readBlockHeader cursor.next).bind fun (header, cursor) =>
    let cursor := cursor.skipGap.skipComment
    if !endsLine cursor.peek then none
    else
      let given := header.increment.map fun n => (max indentation 0).toNat + n
      (readBlockBreaks given size size [] 0 cursor.next).bind fun breaks =>
        let column := given.getD (max (max breaks.deepest (indentation + 1).toNat) 1)
        (readBlockLines literal column size size ⟨[], [], breaks.breaks, false⟩ breaks.cursor).map
          fun (lines, cursor) => (lines.taken.reverse ++ header.chomping.tail lines, cursor)

end NatGateway.Yaml
