import NatGateway.Proofs.Xml.Tags

/-!
# Written texts

How reading content proceeds over texts and over elements that hold a text. The writer leaves no
angle bracket and no ampersand of a text as it is, so nothing in a text can end it, nor begin the end
of a section. A text comes back whole, unless it was white space only: then nothing is left of it.
-/

namespace NatGateway.Xml

/-- The node that is left of a text inside an element. -/
def textNodes (text : String) : List Node :=
  if text.toList.all isSpace = true then [] else [.text text]

/-- A character that is written first for a text is no closing bracket. -/
theorem escaped_ne_gt (cs rest after : List Char) :
    cs.flatMap escapeChar ++ '<' :: rest ≠ '>' :: after := by
  intro h
  cases cs with
  | nil => simp at h
  | cons c cs =>
    rw [List.flatMap_cons, List.append_assoc] at h
    cases hplain : isPlain c with
    | true =>
      rw [escapeChar_of_isPlain hplain] at h
      obtain rfl : c = '>' := by simpa using (List.cons.inj h).1
      simp [isPlain] at hplain
    | false =>
      obtain ⟨_, reference, hescape, _⟩ := escapeChar_of_not_isPlain hplain
      rw [hescape] at h
      simp at h

/-- No text is written so that it begins with the rest of the end of a section. -/
theorem escaped_ne_sectionEnd (cs rest after : List Char) :
    cs.flatMap escapeChar ++ '<' :: rest ≠ ']' :: '>' :: after := by
  intro h
  cases cs with
  | nil => simp at h
  | cons c cs =>
    rw [List.flatMap_cons, List.append_assoc] at h
    cases hplain : isPlain c with
    | true =>
      rw [escapeChar_of_isPlain hplain] at h
      exact escaped_ne_gt cs rest after (List.cons.inj h).2
    | false =>
      obtain ⟨_, reference, hescape, _⟩ := escapeChar_of_not_isPlain hplain
      rw [hescape] at h
      simp at h

namespace Content

variable {entities : Entities} {content : Content}

/-- Collect the characters of a text. -/
def pushAll (content : Content) (cs : List Char) : Content := cs.foldl push content

/-- What collecting a text does to each part of the state. -/
theorem pushAll_eq (cs : List Char) : content.pushAll cs =
    { content with
      pending := cs.reverse ++ content.pending
      blank := content.blank && cs.all isSpace } := by
  induction cs generalizing content with
  | nil => simp [pushAll]
  | cons c cs ih =>
    rw [pushAll, List.foldl_cons, ← pushAll, ih]
    simp [push, Bool.and_assoc]

/-- Inside an element a plain character joins the text, if documents allow it. -/
theorem step_plain (hopen : content.openElements ≠ []) {c : Char} (h : isPlain c = true)
    {rest : List Char} (hend : ∀ after, rest ≠ ']' :: '>' :: after) :
    step .v10 entities content (c :: rest) =
      (if Version.v10.allows c = true then some (content.push c) else none).map
        fun next => (next, .rest rest) := by
  simp only [isPlain, Bool.and_eq_true, bne_iff_ne] at h
  obtain ⟨⟨⟨⟨hlt, _⟩, hamp⟩, _⟩, _⟩ := h
  have hinside : content.openElements.isEmpty = false := by simpa using hopen
  rw [step_text hlt hamp hend]
  simp only [stepText, hinside, Bool.false_eq_true, if_false, Version.allowsPlain_v10]
  by_cases hallows : Version.v10.allows c = true
  · rw [if_pos hallows]
    exact if_pos hallows
  · rw [if_neg hallows]
    exact if_neg hallows

/-- Inside an element a reference to a character joins the text as that character. -/
theorem step_reference (hopen : content.openElements ≠ []) {c : Char} {cs rest : List Char}
    (h : readReference .v10 cs = some (.char c, rest)) :
    step .v10 entities content ('&' :: cs) = some (content.push c, .rest rest) := by
  have hinside : content.openElements.isEmpty = false := by simpa using hopen
  rw [step]
  simp only [stepReference, hinside, Bool.false_eq_true, if_false, h, Option.bind_some]

/-- Reading a written text up to the next tag. It is refused if a document may not hold it. -/
theorem read_escaped (hopen : content.openElements ≠ []) (cs rest : List Char) :
    content.read .v10 entities (.ofChars (cs.flatMap escapeChar ++ '<' :: rest)) =
      if cs.all Version.v10.allows = true then
        (content.pushAll cs).read .v10 entities (.ofChars ('<' :: rest))
      else none := by
  -- Every character changes the state, so the rest of the text is read in any state of this kind.
  induction cs generalizing content with
  | nil => rfl
  | cons c cs ih =>
    have hpushed := @ih (content.push c) hopen
    rw [List.flatMap_cons, List.append_assoc, List.all_cons]
    cases hplain : isPlain c with
    | true =>
      rw [escapeChar_of_isPlain hplain, List.singleton_append,
        read_eq_bind (step_plain hopen hplain fun after => escaped_ne_sectionEnd cs rest after)]
      cases hallows : Version.v10.allows c with
      | true =>
        simp only [if_true, Option.bind_some, Bool.true_and]
        exact hpushed
      | false => rfl
    | false =>
      obtain ⟨hallows, reference, hescape, hread⟩ := escapeChar_of_not_isPlain hplain
      rw [hescape, List.cons_append, read_of_step (step_reference hopen (hread _ _)), hallows,
        Bool.true_and]
      exact hpushed

/-- A state inside an element right after markup. -/
def inside (innermost : OpenElement) (outer : List OpenElement) : Content :=
  ⟨innermost :: outer, none, [], true⟩

/-- Take up nodes as children of an open element. -/
def withNodes (innermost : OpenElement) (nodes : List Node) : OpenElement :=
  { innermost with children := nodes.reverse ++ innermost.children }

/-- At the end of a text its element has taken up what is left of it. -/
theorem endText_pushAll (innermost : OpenElement) (outer : List OpenElement) (text : String) :
    ((inside innermost outer).pushAll text.toList).endText =
      inside (withNodes innermost (textNodes text)) outer := by
  rw [pushAll_eq, textNodes]
  simp only [inside, endText, Bool.true_and, List.append_nil, List.reverse_reverse,
    String.ofList_toList, List.isEmpty_reverse]
  cases hblank : text.toList.all isSpace with
  | true => simp [withNodes]
  | false =>
    have hnonempty : text.toList.isEmpty = false := by
      cases htext : text.toList with
      | nil => simp [htext] at hblank
      | cons c cs => rfl
    simp [hnonempty, add, withNodes]

/-- Right after markup there is no text to end. -/
theorem endText_inside (innermost : OpenElement) (outer : List OpenElement) :
    (inside innermost outer).endText = inside innermost outer := rfl

/-- Taking up no nodes changes nothing. -/
theorem withNodes_nil (innermost : OpenElement) : withNodes innermost [] = innermost := rfl

/-- Nodes may be taken up one after the other. -/
theorem withNodes_append (innermost : OpenElement) (first second : List Node) :
    withNodes (withNodes innermost first) second = withNodes innermost (first ++ second) := by
  simp [withNodes]

/-- Opening an element inside another one. -/
theorem opened_inside (innermost : OpenElement) (outer : List OpenElement) (name : QName)
    (attributes : List Attribute) :
    (inside innermost outer).opened name attributes =
      if attributes.all (isXmlText ·.value) = true then
        (Tag.resolve? innermost.bindings name attributes).map fun (tag, bindings) =>
          inside ⟨tag, name, bindings, []⟩ (innermost :: outer)
      else none := rfl

/-- The node that an open element becomes when it is closed. -/
def node (element : OpenElement) : Node := .element element.tag element.children.reverse

/-- Closing an element inside another one, once its last text has ended. -/
theorem closeTag_inside {element parent : OpenElement} {outer : List OpenElement} {name : QName}
    (h : content.endText = inside element (parent :: outer)) (hname : element.written = name) :
    content.closeTag name = some (inside (withNodes parent [node element]) outer) := by
  unfold closeTag
  simp only [h, inside, hname, if_true, addElement, add]
  rfl

/-- A tag without attributes takes its namespace from the declaration in force. -/
theorem resolve?_plain {bindings : Bindings} {name uri : String}
    (h : bindings.lookup "" = some uri) :
    Tag.resolve? bindings ⟨none, name⟩ [] =
      some (⟨name, none, if uri.isEmpty then none else some uri, []⟩, bindings) := by
  simp [Tag.resolve?, separate, Bindings.uri?, h]

/-- The element that is read from a written element with a text. -/
def textElementNode (uri : String) (entry : String × String) : Node :=
  .element ⟨entry.1, none, if uri.isEmpty then none else some uri, []⟩ (textNodes entry.2)

/-- Reading a written text and the closing tag of its element. -/
theorem read_escaped_closingTag {element parent : OpenElement} (outer : List OpenElement)
    (hname : element.written.isReadable = true) (text : String) (rest : List Char) :
    (inside element (parent :: outer)).read .v10 entities
        (.ofChars (text.toList.flatMap escapeChar ++
          ((closingTag element.written.written).toList ++ rest))) =
      if isXmlText text = true then
        (inside (withNodes parent [node (withNodes element (textNodes text))]) outer).read .v10
          entities (.ofChars rest)
      else none := by
  obtain ⟨tail, htail⟩ : ∃ tail, (closingTag element.written.written).toList ++ rest = '<' :: tail :=
    ⟨_, by rw [closingTag, String.toList_append, String.toList_append]; rfl⟩
  rw [htail, read_escaped (by simp [inside]), ← htail, read_closingTag hname,
    closeTag_inside (endText_pushAll element (parent :: outer) text)
      (show (withNodes element (textNodes text)).written = element.written from rfl)]
  rfl

/-- Reading a written element with a text, inside another element. -/
theorem read_textElement {innermost : OpenElement} {outer : List OpenElement} {uri : String}
    (hbound : innermost.bindings.lookup "" = some uri) {name : String}
    (hname : isXmlName name = true) (text : String) (rest : List Char) :
    (inside innermost outer).read .v10 entities
        (.ofChars ((textElement name text).toList ++ rest)) =
      if isXmlText text = true then
        (inside (withNodes innermost [textElementNode uri (name, text)]) outer).read .v10 entities
          (.ofChars rest)
      else none := by
  have hreadable : (⟨none, name⟩ : QName).isReadable = true := hname
  have hchars : (textElement name text).toList ++ rest =
      (startTag (QName.written ⟨none, name⟩) ([].map Attribute.written)).toList ++
        (text.toList.flatMap escapeChar ++
          ((closingTag (QName.written ⟨none, name⟩)).toList ++ rest)) := by
    simp [textElement, enclosed, escaped, QName.written]
  rw [hchars, read_startTag hreadable (by simp), opened_inside, resolve?_plain hbound]
  refine (read_escaped_closingTag outer hreadable text rest).trans ?_
  have hnode : node (withNodes ⟨⟨name, none, if uri.isEmpty then none else some uri, []⟩,
      ⟨none, name⟩, innermost.bindings, []⟩ (textNodes text)) = textElementNode uri (name, text) := by
    simp [withNodes, node, textElementNode]
  rw [hnode]

/-- An element is refused if what is written as its name is none. -/
theorem read_textElement_badName {name : String} (hstays : staysInTag name = true)
    (hname : isXmlName name = false) (text : String) (rest : List Char) :
    content.read .v10 entities (.ofChars ((textElement name text).toList ++ rest)) = none := by
  obtain ⟨c, cs, hchars, hc, hbad, hplain⟩ := staysInTag_cases hstays hname
  have hwritten : (textElement name text).toList ++ rest =
      '<' :: c :: (cs ++ ('>' :: ((escaped text).toList ++ ((closingTag name).toList ++ rest)))) := by
    simp [textElement, enclosed, startTag, hchars]
  rw [hwritten]
  exact read_startTag_badName hc hbad hplain _

/-- Reading written elements that each hold a text, inside another element: they are taken up one by
one, in order, unless one of them cannot be read. -/
theorem read_textElements {innermost : OpenElement} {outer : List OpenElement} {uri : String}
    (hbound : innermost.bindings.lookup "" = some uri) {entries : List (String × String)}
    (hstays : ∀ entry ∈ entries, staysInTag entry.1 = true) (rest : List Char) :
    (inside innermost outer).read .v10 entities
        (.ofChars ((String.join (entries.map fun entry => textElement entry.1 entry.2)).toList ++
          rest)) =
      if entries.all (fun entry => isXmlName entry.1 && isXmlText entry.2) = true then
        (inside (withNodes innermost (entries.map (textElementNode uri))) outer).read .v10 entities
          (.ofChars rest)
      else none := by
  -- The parent grows with every element; its bindings, on which their namespace depends, do not.
  induction entries generalizing innermost with
  | nil =>
    rw [List.map_nil, List.map_nil, withNodes_nil]
    rfl
  | cons entry more ih =>
    obtain ⟨hhead, hmore⟩ := List.forall_mem_cons.1 hstays
    rw [List.map_cons, String.join_cons, String.toList_append, List.append_assoc, List.all_cons]
    cases hname : isXmlName entry.1 with
    | false =>
      rw [read_textElement_badName hhead hname]
      rfl
    | true =>
      have hrest := @ih (withNodes innermost [textElementNode uri entry]) hbound hmore
      rw [read_textElement hbound hname, hrest, withNodes_append, List.map_cons]
      cases isXmlText entry.2 <;> rfl

end Content

end NatGateway.Xml
