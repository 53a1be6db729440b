/-!
# ASCII letter case

Names of protocols and headers are compared up to the case of ASCII letters; every other character
stands for itself.
-/

namespace NatGateway.Text

/-- A text with its ASCII letters in upper case. -/
def upperAscii (text : String) : String := String.ofList (text.toList.map Char.toUpper)

/-- A text with its ASCII letters in lower case. -/
def lowerAscii (text : String) : String := String.ofList (text.toList.map Char.toLower)

/-- Whether two texts are equal up to the case of ASCII letters. -/
def sameIgnoringCase (a b : String) : Bool :=
  a.toList.map Char.toLower == b.toList.map Char.toLower

/-- Whether a text ends with another. -/
def endsWith (text ending : String) : Bool := ending.toList.isSuffixOf text.toList

/-- Whether a text begins with another. -/
def beginsWith (text start : String) : Bool := start.toList.isPrefixOf text.toList

/-- Whether the characters of one list stand together somewhere in another. -/
def containsAt (part : List Char) : List Char → Bool
  | [] => part.isEmpty
  | c :: rest => part.isPrefixOf (c :: rest) || containsAt part rest

/-- Whether one text occurs in another. -/
def occursIn (part text : String) : Bool := containsAt part.toList text.toList

/-- Cut a list at every occurrence of a separator; there is always at least one piece. -/
def splitChars (separator : Char) : List Char → List (List Char)
  | [] => [[]]
  | c :: rest =>
      if c = separator then [] :: splitChars separator rest
      else
        match splitChars separator rest with
        | piece :: pieces => (c :: piece) :: pieces
        | [] => [[c]]

/-- The part before the first separator and the part after it, if there is one. -/
def splitFirst? (separator : Char) : List Char → Option (List Char × List Char)
  | [] => none
  | c :: rest =>
      if c = separator then some ([], rest)
      else (splitFirst? separator rest).map fun (before, after) => (c :: before, after)

end NatGateway.Text
