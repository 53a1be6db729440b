/-!
# Writing markup

Tags and elements as they are written in a document. In texts and attribute values the five
characters with a meaning in markup become references; every other character stands for itself.
-/

namespace NatGateway.Xml

/-- How one character is written. -/
def escapeChar (c : Char) : List Char :=
  if c = '<' then ['&', 'l', 't', ';']
  else if c = '>' then ['&', 'g', 't', ';']
  else if c = '&' then ['&', 'a', 'm', 'p', ';']
  else if c = '\x27' then ['&', 'a', 'p', 'o', 's', ';']
  else if c = '"' then ['&', 'q', 'u', 'o', 't', ';']
  else [c]

/-- A text as it is written in a document. -/
def escaped (text : String) : String := String.ofList (text.toList.flatMap escapeChar)

/-- An attribute with the space before it. -/
def writtenAttribute (attr : String × String) : String :=
  " " ++ attr.1 ++ "=\"" ++ escaped attr.2 ++ "\""

/-- A start tag. -/
def startTag (name : String) (attributes : List (String × String)) : String :=
  "<" ++ name ++ String.join (attributes.map writtenAttribute) ++ ">"

/-- A closing tag. -/
def closingTag (name : String) : String := "</" ++ name ++ ">"

/-- An element around content that is written already. -/
def enclosed (name : String) (attributes : List (String × String)) (content : String) : String :=
  startTag name attributes ++ content ++ closingTag name

/-- An element that holds a text. -/
def textElement (name text : String) : String := enclosed name [] (escaped text)

/-- The declaration that every written document starts with. -/
def writtenDeclaration : String := "<?xml version=\"1.0\" encoding=\"UTF-8\"?>\n"

end NatGateway.Xml
