import NatGateway.Xml.Input
import NatGateway.Xml.Namespace

/-!
# Content

Reading what follows the prolog of a document: elements with their texts, comments, sections and
instructions. The elements that are open form a stack; text is collected until markup ends it, and
text that was white space only is dropped. Several elements may follow each other at the outermost
level: the first one is the root, but all of them must be well formed.
-/

namespace NatGateway.Xml

/-- An element whose closing tag is still to come. Its children so far stand last first. -/
structure OpenElement where
  tag : Tag
  written : QName
  bindings : Bindings
  children : List Node

/-- The state of reading content: the open elements, innermost first, the first outermost element
that was closed, and the text since the last markup, last character first. The flag `blank` says
that nothing but white space was met since then. -/
structure Content where
  openElements : List OpenElement
  root : Option Element
  pending : List Char
  blank : Bool

namespace Content

/-- The state before any content. -/
def start : Content := ⟨[], none, [], true⟩

/-- The prefixes in force at this point. -/
def bindings (content : Content) : Bindings :=
  match content.openElements with
  | innermost :: _ => innermost.bindings
  | [] => .base

/-- Add a node to the innermost open element; outside all elements it is dropped. -/
def add (content : Content) (node : Node) : Content :=
  match content.openElements with
  | innermost :: outer =>
      { content with
        openElements := { innermost with children := node :: innermost.children } :: outer }
  | [] => content

/-- Make the collected text a node, unless it is empty or was white space only. -/
def endText (content : Content) : Content :=
  let ended := { content with pending := [], blank := true }
  if content.pending.isEmpty || content.blank then ended
  else ended.add (.text (String.ofList content.pending.reverse))

/-- Collect a character of text. -/
def push (content : Content) (c : Char) : Content :=
  { content with pending := c :: content.pending, blank := content.blank && isSpace c }

/-- Add an element that is complete. -/
def addElement (content : Content) (element : Element) : Content :=
  match content.openElements with
  | [] => { content with root := content.root <|> some element }
  | _ :: _ => content.add element.node

/-- Open an element, which an empty-element tag closes at once. -/
def openTag (content : Content) (tag : Tag) (written : QName) (bindings : Bindings)
    (closed : Bool) : Content :=
  let content := content.endText
  if closed then content.addElement ⟨tag, []⟩
  else { content with openElements := ⟨tag, written, bindings, []⟩ :: content.openElements }

/-- Close the innermost open element under the name it was opened with. -/
def closeTag (content : Content) (written : QName) : Option Content :=
  let content := content.endText
  match content.openElements with
  | innermost :: outer =>
      if innermost.written = written then
        some ({ content with openElements := outer }.addElement
          ⟨innermost.tag, innermost.children.reverse⟩)
      else none
  | [] => none

/-- Add a CDATA section, which only elements hold. White space right after one that held more than
white space is text. -/
def addCData (content : Content) (text : List Char) : Option Content :=
  match content.openElements with
  | _ :: _ =>
      some { content.endText.add (.cdata (String.ofList text)) with blank := text.all isSpace }
  | [] => none

end Content

/-- What is read after a step: the rest of the input, perhaps with a replacement text before it. -/
inductive Continuation where
  | rest (after : List Char)
  | replaced (text after : List Char)

/-- The characters after what a step read. -/
def Continuation.after : Continuation → List Char
  | .rest after => after
  | .replaced _ after => after

namespace Content

/-- Read a start tag after its opening angle bracket. -/
def stepStartTag (version : Version) (entities : Entities) (content : Content)
    (cs : List Char) : Option (Content × Continuation) :=
  (readQName cs).bind fun (name, rest) =>
    (readAttributes version entities rest).bind fun (attributes, closed, after) =>
      (Tag.resolve? content.bindings name attributes).map fun (tag, bindings) =>
        (content.openTag tag name bindings closed, .rest after)

/-- Read a closing tag after its `</`. -/
def stepClosingTag (content : Content) (cs : List Char) : Option (Content × Continuation) :=
  (readQName cs).bind fun (name, rest) =>
    match rest.dropWhile isSpace with
    | '>' :: after => (content.closeTag name).map fun content => (content, .rest after)
    | _ => none

/-- Read a comment after its `<!--`. -/
def stepComment (version : Version) (content : Content) (cs : List Char) :
    Option (Content × Continuation) :=
  (readComment version cs).map fun (text, after) =>
    (content.endText.add (.comment (String.ofList text)), .rest after)

/-- Read a CDATA section after its opening. -/
def stepCData (version : Version) (content : Content) (cs : List Char) :
    Option (Content × Continuation) :=
  (readCData version cs).bind fun (text, after) =>
    (content.addCData text).map fun content => (content, .rest after)

/-- Read a processing instruction after its `<?`. -/
def stepInstruction (version : Version) (content : Content) (cs : List Char) :
    Option (Content × Continuation) :=
  (readInstruction version cs).map fun (target, data, after) =>
    (content.endText.add (.instruction target data), .rest after)

/-- Read a reference after its ampersand. A character joins the text; an entity goes on in its
replacement text. -/
def stepReference (version : Version) (entities : Entities) (content : Content)
    (cs : List Char) : Option (Content × Continuation) :=
  if content.openElements.isEmpty then none
  else
    (readReference version cs).bind fun (reference, after) =>
      match reference with
      | .char c => some (content.push c, .rest after)
      | .entity name => (entities.lookup name).map fun text => (content, .replaced text after)

/-- Read a character of text. Outside all elements only white space may stand, and is skipped. -/
def stepText (version : Version) (content : Content) (c : Char) (rest : List Char) :
    Option (Content × Continuation) :=
  if content.openElements.isEmpty then
    if isSpace c then some (content, .rest rest) else none
  else if version.allowsPlain c then some (content.push c, .rest rest)
  else none

/-- Read the next piece of content. The end of a CDATA section is no text. -/
def step (version : Version) (entities : Entities) (content : Content) :
    List Char → Option (Content × Continuation)
  | [] => none
  | '<' :: '/' :: rest => stepClosingTag content rest
  | '<' :: '?' :: rest => stepInstruction version content rest
  | '<' :: '!' :: '-' :: '-' :: rest => stepComment version content rest
  | '<' :: '!' :: '[' :: 'C' :: 'D' :: 'A' :: 'T' :: 'A' :: '[' :: rest =>
      stepCData version content rest
  | '<' :: rest => stepStartTag version entities content rest
  | '&' :: rest => stepReference version entities content rest
  | ']' :: ']' :: '>' :: _ => none
  | c :: rest => stepText version content c rest

/-- A start tag takes up characters. -/
theorem stepStartTag_length {version : Version} {entities : Entities} {content next : Content}
    {cs : List Char} {continuation : Continuation}
    (h : stepStartTag version entities content cs = some (next, continuation)) :
    continuation.after.length < cs.length := by
  obtain ⟨⟨_, _⟩, hname, h⟩ := Option.bind_eq_some_iff.1 h
  obtain ⟨⟨_, _, _⟩, hattr, h⟩ := Option.bind_eq_some_iff.1 h
  obtain ⟨⟨_, _⟩, _, h⟩ := Option.map_eq_some_iff.1 h
  cases h
  exact Nat.lt_trans (readAttributes_length hattr) (readQName_length hname)

/-- A closing tag takes up characters. -/
theorem stepClosingTag_length {content next : Content} {cs : List Char}
    {continuation : Continuation} (h : stepClosingTag content cs = some (next, continuation)) :
    continuation.after.length < cs.length := by
  obtain ⟨⟨_, rest⟩, hname, h⟩ := Option.bind_eq_some_iff.1 h
  have h1 := readQName_length hname
  have h2 := length_dropWhile_le isSpace rest
  simp only at h
  split at h
  next heq =>
    obtain ⟨_, _, h⟩ := Option.map_eq_some_iff.1 h
    cases h
    rw [heq] at h2
    simp only [List.length_cons, Continuation.after] at h2 ⊢
    omega
  · cases h

/-- A reference takes up characters. -/
theorem stepReference_length {version : Version} {entities : Entities} {content next : Content}
    {cs : List Char} {continuation : Continuation}
    (h : stepReference version entities content cs = some (next, continuation)) :
    continuation.after.length < cs.length := by
  unfold stepReference at h
  split at h
  · cases h
  · obtain ⟨⟨reference, after⟩, href, h⟩ := Option.bind_eq_some_iff.1 h
    have := readReference_length href
    cases reference with
    | char c => cases h; exact this
    | entity name =>
      obtain ⟨_, _, h⟩ := Option.map_eq_some_iff.1 h
      cases h
      exact this

/-- A character of a text is taken up. -/
theorem stepText_length {version : Version} {content next : Content} {c : Char}
    {rest : List Char} {continuation : Continuation}
    (h : stepText version content c rest = some (next, continuation)) :
    continuation.after.length < rest.length + 1 := by
  unfold stepText at h
  split at h
  · split at h <;> cases h
    exact Nat.lt_succ_self _
  · split at h <;> cases h
    exact Nat.lt_succ_self _

/-- A step takes up characters. -/
theorem step_length {version : Version} {entities : Entities} {content next : Content}
    {cs : List Char} {continuation : Continuation}
    (h : step version entities content cs = some (next, continuation)) :
    continuation.after.length < cs.length := by
  unfold step at h
  split at h
  · cases h
  · have := stepClosingTag_length h
    simp only [List.length_cons]
    omega
  · obtain ⟨⟨_, _, _⟩, hread, h⟩ := Option.map_eq_some_iff.1 h
    cases h
    have := readInstruction_length hread
    simp only [List.length_cons, Continuation.after]
    omega
  · obtain ⟨⟨_, _⟩, hread, h⟩ := Option.map_eq_some_iff.1 h
    cases h
    have := readComment_length hread
    simp only [List.length_cons, Continuation.after]
    omega
  · obtain ⟨⟨_, _⟩, hread, h⟩ := Option.bind_eq_some_iff.1 h
    obtain ⟨_, _, h⟩ := Option.map_eq_some_iff.1 h
    cases h
    have := readCData_length hread
    simp only [List.length_cons, Continuation.after]
    omega
  · have := stepStartTag_length h
    simp only [List.length_cons]
    omega
  · have := stepReference_length h
    simp only [List.length_cons]
    omega
  · cases h
  · have := stepText_length h
    simp only [List.length_cons]
    omega

/-- Read content to the end of the input: every element must be closed, and there must be one. -/
def read (content : Content) (version : Version) (entities : Entities) (input : Input) :
    Option Element :=
  if input.chars.isEmpty then
    if content.openElements.isEmpty then content.root else none
  else
    match h : step version entities content input.chars with
    | none => none
    | some (content, .rest after) =>
        have := Input.advance_below (step_length h)
        content.read version entities (input.advance after)
    | some (content, .replaced text after) =>
        match he : (input.advance after).expand text with
        | none => none
        | some next =>
            have := Input.expand_below (step_length h) he
            content.read version entities next
termination_by input.rank
decreasing_by all_goals exact this

end Content

end NatGateway.Xml
