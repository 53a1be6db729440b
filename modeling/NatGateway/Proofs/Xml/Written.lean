import NatGateway.Proofs.Xml.Head
import NatGateway.Proofs.Xml.Texts

/-!
# Written content

How content that is put together of written elements is read, piece by piece. What is read of a piece
depends on the element that it stands in only by the prefixes that are in force there, and not on what
stands before or behind it. So it is known from its own pieces, and so is a document from what its root
holds.
-/

namespace NatGateway.Xml

open NatGateway.Text (utf8Bytes)

namespace Content

/-- Whether a text is read as nodes wherever these prefixes are in force and whatever follows it, if it is
readable at all. Else the document is refused. -/
def ReadsAs (bindings : Bindings) (text : String) (nodes : List Node) (readable : Bool) : Prop :=
  ∀ (innermost : OpenElement) (outer : List OpenElement) (rest : List Char),
    innermost.bindings = bindings →
      (inside innermost outer).read .v10 [] (.ofChars (text.toList ++ rest)) =
        if readable = true then
          (inside (withNodes innermost nodes) outer).read .v10 [] (.ofChars rest)
        else none

variable {bindings inner : Bindings} {first second content : String} {nodes others : List Node}
  {readable also : Bool}

/-- Nothing is read as no nodes. -/
theorem readsAs_empty (bindings : Bindings) : ReadsAs bindings "" [] true := fun _ _ _ _ => rfl

/-- Two pieces are read one after the other. -/
theorem ReadsAs.append (hfirst : ReadsAs bindings first nodes readable)
    (hsecond : ReadsAs bindings second others also) :
    ReadsAs bindings (first ++ second) (nodes ++ others) (readable && also) := by
  intro innermost outer rest hbindings
  rw [String.toList_append, List.append_assoc, hfirst innermost outer _ hbindings]
  cases readable with
  | false => rfl
  | true =>
    rw [if_pos rfl, hsecond (withNodes innermost nodes) outer rest hbindings, withNodes_append,
      Bool.true_and]

/-- An element with a text is read if a document may hold the text. -/
theorem readsAs_textElement {uri name : String} (hbound : bindings.lookup "" = some uri)
    (hname : isXmlName name = true) (text : String) :
    ReadsAs bindings (textElement name text) [textElementNode uri (name, text)] (isXmlText text) := by
  rintro innermost outer rest rfl
  exact read_textElement hbound hname text rest

section

variable {name : QName} {attributes : List Attribute} (hname : name.isReadable = true)
  (hattributes : ∀ attr ∈ attributes, attr.name.isReadable = true)

include hname hattributes

/-- Reading a written element begins with opening it. -/
theorem read_enclosed (innermost : OpenElement) (outer : List OpenElement) (rest : List Char) :
    (inside innermost outer).read .v10 []
        (.ofChars ((enclosed name.written (attributes.map Attribute.written) content).toList ++ rest)) =
      ((inside innermost outer).opened name attributes).bind fun next => next.read .v10 []
        (.ofChars (content.toList ++ ((closingTag name.written).toList ++ rest))) := by
  have hchars : (enclosed name.written (attributes.map Attribute.written) content).toList ++ rest =
      (startTag name.written (attributes.map Attribute.written)).toList ++
        (content.toList ++ ((closingTag name.written).toList ++ rest)) := by
    simp only [enclosed, String.toList_append, List.append_assoc]
  rw [hchars, read_startTag hname hattributes]

/-- An element is refused if it cannot be opened with its attributes. -/
theorem readsAs_enclosed_of_refused (nodes : List Node)
    (h : attributes.all (isXmlText ·.value) = false ∨ Tag.resolve? bindings name attributes = none) :
    ReadsAs bindings (enclosed name.written (attributes.map Attribute.written) content) nodes false := by
  rintro innermost outer rest rfl
  rw [read_enclosed hname hattributes, opened_inside]
  rcases h with hvalues | hresolve
  · rw [hvalues]
    rfl
  · rw [hresolve, Option.map_none, ite_self]
    rfl

/-- An element is read if what it holds is, under the prefixes that its tag declares. -/
theorem ReadsAs.enclosed {tag : Tag} (h : ReadsAs inner content nodes readable)
    (hvalues : attributes.all (isXmlText ·.value) = true)
    (hresolve : Tag.resolve? bindings name attributes = some (tag, inner)) :
    ReadsAs bindings (enclosed name.written (attributes.map Attribute.written) content)
      [.element tag nodes] readable := by
  rintro innermost outer rest rfl
  have hopened : (inside innermost outer).opened name attributes =
      some (inside ⟨tag, name, inner, []⟩ (innermost :: outer)) := by
    rw [opened_inside, if_pos hvalues, hresolve]
    rfl
  rw [read_enclosed hname hattributes, hopened, Option.bind_some, h _ _ _ rfl]
  cases readable with
  | false => rfl
  | true =>
    have hnode : node (withNodes ⟨tag, name, inner, []⟩ nodes) = .element tag nodes := by
      simp only [node, withNodes, List.append_nil, List.reverse_reverse]
    have hclosed : (inside (withNodes ⟨tag, name, inner, []⟩ nodes) (innermost :: outer)).closeTag name =
        some (inside (withNodes innermost [.element tag nodes]) outer) :=
      hnode ▸ closeTag_inside (endText_inside _ _) rfl
    rw [if_pos rfl, read_closingTag hname, hclosed]
    rfl

end

end Content

/-- A written element is the root of a document if its tag is denoted and what it holds is read. -/
theorem Element.ofBytes?_enclosed {name : QName} (hname : name.isReadable = true)
    {attributes : List Attribute} (hattributes : ∀ attr ∈ attributes, attr.name.isReadable = true)
    (hvalues : attributes.all (isXmlText ·.value) = true) {tag : Tag} {inner : Bindings}
    (hresolve : Tag.resolve? .base name attributes = some (tag, inner)) {content : String}
    {nodes : List Node} {readable : Bool} (h : Content.ReadsAs inner content nodes readable) :
    Element.ofBytes? (utf8Bytes (writtenDeclaration ++
        enclosed name.written (attributes.map Attribute.written) content)) =
      if readable = true then some ⟨tag, nodes⟩ else none := by
  obtain ⟨c, cs, hchars, hc⟩ := QName.written_head hname
  have hwritten : (enclosed name.written (attributes.map Attribute.written) content).toList =
      (startTag name.written (attributes.map Attribute.written)).toList ++
        (content.toList ++ ((closingTag name.written).toList ++ [])) := by
    simp only [enclosed, String.toList_append, List.append_assoc, List.append_nil]
  have hstart : ∃ rest, (enclosed name.written (attributes.map Attribute.written) content).toList =
      '<' :: c :: rest := by
    rw [hwritten, startTag_toList, hchars]
    exact ⟨_, rfl⟩
  obtain ⟨rest, hrest⟩ := hstart
  have hopened : Content.start.opened name attributes =
      some (Content.inside ⟨tag, name, inner, []⟩ []) := by
    rw [Content.opened, if_pos hvalues, show Content.start.bindings = .base from rfl, hresolve]
    rfl
  rw [ofBytes?_written hc hrest, hwritten, Content.read_startTag hname hattributes, hopened,
    Option.bind_some, h _ _ _ rfl]
  cases readable with
  | false => rfl
  | true =>
    have hclosed : (Content.inside (Content.withNodes ⟨tag, name, inner, []⟩ nodes) []).closeTag name =
        some ⟨[], some ⟨tag, nodes⟩, [], true⟩ := by
      simp [Content.closeTag, Content.endText, Content.inside, Content.withNodes, Content.addElement]
    rw [if_pos rfl, Content.read_closingTag hname, hclosed, Option.bind_some, Content.read_nil]
    rfl

end NatGateway.Xml
