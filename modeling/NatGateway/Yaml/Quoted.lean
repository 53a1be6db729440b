import NatGateway.Yaml.Cursor
import NatGateway.Yaml.Resolution

/-!
# Quoted scalars

Scalars in single or double quotes, which may run over several lines. In single quotes a quote is
written twice, and in double quotes characters can be written by escapes.
-/

namespace NatGateway.Yaml

/-- The characters that have an escape of one character. -/
def simpleEscapes : List (Char × Char) :=
  [('0', '\x00'), ('a', '\x07'), ('b', '\x08'), ('t', '\t'), ('\t', '\t'), ('n', '\n'),
    ('v', '\x0b'), ('f', '\x0c'), ('r', '\r'), ('e', '\x1b'), (' ', ' '), ('"', '"'), ('/', '/'),
    ('\\', '\\'), ('N', '\u0085'), ('_', '\u00a0'), ('L', '\u2028'), ('P', '\u2029')]

/-- How many hexadecimal digits an escape takes. -/
def escapeSize : Char → Option Nat
  | 'x' => some 2
  | 'u' => some 4
  | 'U' => some 8
  | _ => none

/-- The character of a number, if it has one. -/
def scalarValue? (n : Nat) : Option Char :=
  if h : n.isValidChar then some (Char.ofNatAux n h) else none

/-- Read the escape behind a backslash. -/
def readEscape (cursor : Cursor) : Option (Char × Cursor) :=
  cursor.peek.bind fun c =>
    match simpleEscapes.lookup c, escapeSize c with
    | some value, _ => some (value, cursor.next)
    | none, some size =>
        let digits := cursor.next.rest.take size
        if digits.length != size then none
        else
          (ofBase? 16 digits).bind fun n =>
            (scalarValue? n).map fun value => (value, cursor.advance (size + 1))
    | none, none => none

/-- What the word of a quoted scalar ends with. -/
inductive WordEnd where
  | gap
  | escapedBreak

/-- Read the characters up to a blank, a line break, the end or the closing quote, put in front of
those read before in reverse. -/
def readQuotedWord (single : Bool) : Nat → List Char → Cursor →
    Option (List Char × WordEnd × Cursor)
  | 0, _, _ => none
  | fuel + 1, taken, cursor =>
      match cursor.peek with
      | none => some (taken, .gap, cursor)
      | some c =>
          if isGapChar c || isBreak c then some (taken, .gap, cursor)
          else if single then
            if c != '\'' then readQuotedWord single fuel (c :: taken) cursor.next
            else if cursor.peekAt 1 = some '\'' then
              readQuotedWord single fuel (c :: taken) (cursor.advance 2)
            else some (taken, .gap, cursor)
          else if c == '"' then some (taken, .gap, cursor)
          else if c != '\\' then readQuotedWord single fuel (c :: taken) cursor.next
          else if (cursor.peekAt 1).any isBreak then
            some (taken, .escapedBreak, cursor.advance 2)
          else
            (readEscape cursor.next).bind fun (value, cursor) =>
              readQuotedWord single fuel (value :: taken) cursor

/-- Read a quoted scalar behind its opening quote, and behind what was read of it before. -/
def readQuotedWords (single : Bool) (size : Nat) :
    Nat → List Char → Cursor → Option (List Char × Cursor)
  | 0, _, _ => none
  | fuel + 1, taken, cursor =>
      if cursor.atDocumentMark || cursor.peek.isNone then none
      else
        (readQuotedWord single size taken cursor).bind fun (taken, wordEnd, cursor) =>
          if cursor.peek = some (if single then '\'' else '"') then
            some (taken.reverse, cursor.next)
          else
            let gap :=
              match wordEnd with
              | .gap => Gap.none
              | .escapedBreak => Gap.escaped
            (gap.read none size cursor).bind fun (gap, cursor) =>
              readQuotedWords single size fuel (gap.text.reverse ++ taken) cursor

/-- Read a quoted scalar from its opening quote on. -/
def readQuoted (single : Bool) (size : Nat) (cursor : Cursor) : Option (List Char × Cursor) :=
  readQuotedWords single size size [] cursor.next

end NatGateway.Yaml
