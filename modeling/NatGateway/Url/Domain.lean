import NatGateway.Text.Direction
import NatGateway.Text.Joining
import NatGateway.Text.Mark
import NatGateway.Text.Utf8
import NatGateway.Url.DomainMapping
import NatGateway.Url.Punycode

/-!
# Domain names

The ASCII form of a domain name, the only one that a URL keeps. The characters of a name are mapped
first; a label with characters beyond ASCII is then written in Punycode after `xn--`, and a label
that is written so already has to be what this writing gives. A label has to be readable: no mark
starts it, invisible joiners stand only where they show, and in a name with letters written from
right to left every label keeps one direction.
-/

namespace NatGateway.Url

open NatGateway.Text (Direction direction)

/-- The characters of ASCII that no domain name holds. -/
def isForbiddenInDomain (c : Char) : Bool :=
  c.toNat ≤ 0x20 || c == '#' || c == '/' || c == ':' || c == '<' || c == '>' || c == '?' ||
    c == '@' || c == '[' || c == '\\' || c == ']' || c == '^' || c == '|' || c == '%' ||
    c.toNat == 0x7F

/-- What a label in Punycode starts with. -/
def punycodeMark : List Char := ['x', 'n', '-', '-']

/-- The joiner that keeps letters together. -/
def wordJoiner : Char := '\u200d'

/-- The joiner that keeps letters apart. -/
def wordDivider : Char := '\u200c'

/-- Whether invisible joiners stand only where they show, given the characters in front, the nearest
first: after a mark that suppresses a vowel, or between two letters that would join. -/
def joinersShow (before : List Char) : List Char → Bool
  | [] => true
  | c :: rest =>
      let follows :=
        match before.head? with
        | some last => Text.combiningClass last == Text.viramaClass
        | none => false
      let divides :=
        (before.dropWhile Text.isTransparent).head?.any Text.joinsNext &&
          (rest.dropWhile Text.isTransparent).head?.any Text.joinsPrevious
      (if c = wordJoiner then follows
        else if c = wordDivider then follows || divides
        else true) && joinersShow (c :: before) rest

/-- Whether a label is readable by itself. -/
def isReadable (label : List Char) : Bool :=
  !(label.head?.any Text.isMark) && joinersShow [] label

/-- The characters of a label as they are meant. A label in Punycode holds characters beyond ASCII,
all in the form that mapping leaves as it is, and does not look like a label in Punycode itself. -/
def meaning? (label : List Char) : Option (List Char) :=
  if punycodeMark.isPrefixOf label then
    (Punycode.decode? (label.drop punycodeMark.length)).filter fun meant =>
      label.all Punycode.isBasic && label.getLast? != some '-' && !meant.all Punycode.isBasic &&
        !punycodeMark.isPrefixOf meant && !meant.contains '.' && mapName? meant == some meant
  else some label

/-- Whether a character makes the direction of a name a matter. -/
def isFromRight (c : Char) : Bool :=
  match direction c with
  | .rightToLeft | .arabicLetter | .arabicNumber => true
  | _ => false

/-- Whether a class may stand anywhere in a label of either direction. -/
def isUndirected : Direction → Bool
  | .europeanNumber | .europeanSeparator | .commonSeparator | .europeanTerminator => true
  | .neutral | .boundary | .nonspacing => true
  | _ => false

/-- Whether the classes of a label make one that is written from left to right. -/
def isLeftToRight (classes : List Direction) : Bool :=
  classes.all (fun d => d = .leftToRight || isUndirected d) &&
    (classes.reverse.dropWhile (· = .nonspacing)).head?.any
      (fun d => d = .leftToRight || d = .europeanNumber)

/-- Whether the classes of a label make one that is written from right to left. It has digits of one
kind only. -/
def isRightToLeft (classes : List Direction) : Bool :=
  classes.all (fun d => d = .rightToLeft || d = .arabicLetter || d = .arabicNumber ||
      isUndirected d) &&
    (classes.reverse.dropWhile (· = .nonspacing)).head?.any
      (fun d => d = .rightToLeft || d = .arabicLetter || d = .arabicNumber ||
        d = .europeanNumber) &&
    !(classes.contains .arabicNumber && classes.contains .europeanNumber)

/-- Whether a label keeps the direction of its first character. -/
def keepsDirection (label : List Char) : Bool :=
  let classes := label.map direction
  match classes.head? with
  | none => true
  | some .leftToRight => isLeftToRight classes
  | some .rightToLeft | some .arabicLetter => isRightToLeft classes
  | some _ => false

/-- The longest label beyond ASCII that is written. -/
def maxLabelLength : Nat := 1000

/-- Write a label by what it means. -/
def writeLabel? (label : List Char) : Option (List Char) :=
  if label.all Punycode.isBasic then some label
  else if maxLabelLength < label.length then none
  else some (punycodeMark ++ Punycode.encode label)

/-- Whether characters are ASCII and no label of theirs is in Punycode, so that there is nothing to
map. -/
def isPlainName (cs : List Char) : Bool :=
  cs.all Punycode.isBasic &&
    !(Text.splitChars '.' cs).any fun label => punycodeMark.isPrefixOf (label.map Char.toLower)

/-- The ASCII form of the labels of a mapped name. -/
def labelsToAscii? (labels : List (List Char)) : Option (List (List Char)) :=
  (labels.mapM meaning?).bind fun meant =>
    if meant.all isReadable && (!(meant.flatten.any isFromRight) || meant.all keepsDirection) then
      meant.mapM writeLabel?
    else none

/-- The ASCII form of a name, unless it holds refused characters or a label that is not readable. -/
def nameToAscii? (cs : List Char) : Option (List Char) :=
  if isPlainName cs then some (cs.map Char.toLower)
  else
    (mapName? cs).bind fun mapped =>
      (labelsToAscii? (Text.splitChars '.' mapped)).map fun labels =>
        ['.'].intercalate labels

/-- The ASCII form of the bytes of a domain name. -/
def domainToAscii? (bytes : Text.Bytes) : Option String :=
  ((Text.utf8Chars? bytes).bind nameToAscii?).bind fun name =>
    if name.any isForbiddenInDomain then none else some (String.ofList name)

end NatGateway.Url
