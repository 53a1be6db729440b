import NatGateway.Proofs.First
import NatGateway.Proofs.Soap.Arguments
import NatGateway.Proofs.Soap.Client
import NatGateway.Proofs.Xml.Trees
import NatGateway.Proofs.Xml.Unmarked

/-!
# Faults of an answer

Which child of the body decides what an envelope answers. The body is searched for a fault before any
of its elements is read as an action, so nothing that stands around a fault can hide it: neither an
action in front of it nor one that could not be read. Without a fault the first element is the action,
and what follows it does not matter.
-/

namespace NatGateway.Xml

/-! ## The first child element of a kind -/

/-- Whether a node is no element of a kind; it may be one of another kind, or no element at all. -/
def Node.IsNo (kind : Element → Prop) (node : Node) : Prop :=
  ∀ element, node.element? = some element → ¬ kind element

/-- Whether an element is the first one of a kind among nodes. -/
def Element.IsFirstOf (kind : Element → Prop) (nodes : List Node) (element : Element) : Prop :=
  kind element ∧ IsFirst (Node.IsNo kind) nodes element.node

/-- Only an element is the element that a node is. -/
theorem Node.element?_eq_some_iff {node : Node} {element : Element} :
    node.element? = some element ↔ node = element.node := by
  constructor
  · intro h
    cases node with
    | element tag children =>
      cases h
      rfl
    | _ => cases h
  · rintro rfl
    rfl

/-- Elements are told apart as nodes. -/
theorem Element.node_inj {element other : Element} (h : element.node = other.node) :
    element = other :=
  Option.some.inj (Node.element?_eq_some_iff.2 h)

/-- An element among nodes is one of the child elements. -/
theorem Element.mem_filterMap_iff {nodes : List Node} {element : Element} :
    element ∈ nodes.filterMap Node.element? ↔ element.node ∈ nodes := by
  simp [List.mem_filterMap, Node.element?_eq_some_iff]

/-- Behind a node that is no element the first one of a kind is found in the rest. -/
theorem Element.isFirstOf_cons_of_none {kind : Element → Prop} {node : Node} {rest : List Node}
    {element : Element} (h : node.element? = none) :
    element.IsFirstOf kind (node :: rest) ↔ element.IsFirstOf kind rest := by
  have hne : element.node ≠ node := by
    rintro rfl
    cases h
  have hpasses : Node.IsNo kind node := fun other hother => by
    rw [h] at hother
    cases hother
  unfold Element.IsFirstOf
  rw [isFirst_cons_iff, or_iff_right hne, and_iff_right hpasses]

/-- Of the elements the first one of a kind is the head, or stands behind one of another kind. -/
theorem Element.isFirstOf_cons {kind : Element → Prop} {head element : Element} {rest : List Node} :
    element.IsFirstOf kind (head.node :: rest) ↔
      kind head ∧ element = head ∨ ¬ kind head ∧ element.IsFirstOf kind rest := by
  unfold Element.IsFirstOf
  rw [isFirst_cons_iff]
  constructor
  · rintro ⟨hkind, hhead | ⟨hpasses, hrest⟩⟩
    · cases Element.node_inj hhead
      exact Or.inl ⟨hkind, rfl⟩
    · exact Or.inr ⟨hpasses head rfl, hkind, hrest⟩
  · rintro (⟨hkind, rfl⟩ | ⟨hkind, helement, hrest⟩)
    · exact ⟨hkind, Or.inl rfl⟩
    · refine ⟨helement, Or.inr ⟨fun other hother => ?_, hrest⟩⟩
      cases hother
      exact hkind

/-- The first element of a kind is one of the nodes. -/
theorem Element.IsFirstOf.mem {kind : Element → Prop} {nodes : List Node} {element : Element}
    (h : element.IsFirstOf kind nodes) : element.node ∈ nodes :=
  IsFirst.mem h.2

/-- Where there is an element of a kind there is a first one. -/
theorem Element.exists_isFirstOf (kind : Element → Prop) (nodes : List Node) :
    (∃ element : Element, element.IsFirstOf kind nodes) ∨
      ∀ element : Element, element.node ∈ nodes → ¬ kind element := by
  by_cases hany : ∃ element : Element, element.node ∈ nodes ∧ kind element
  · obtain ⟨element, hmem, hkind⟩ := hany
    have hrefused : ¬ Node.IsNo kind element.node := fun h => h element rfl hkind
    obtain ⟨node, hfirst, hnode⟩ := exists_isFirst_of_mem hmem hrefused
    refine Or.inl (Classical.byContradiction fun hnone => hnode fun other hother hkind => ?_)
    rw [Node.element?_eq_some_iff] at hother
    exact hnone ⟨other, hkind, hother ▸ hfirst⟩
  · exact Or.inr fun element hmem hkind => hany ⟨element, hmem, hkind⟩

/-- Searching the child elements finds the first one of a kind. -/
theorem Element.find?_eq_some_iff_isFirstOf {kind : Element → Bool} {nodes : List Node}
    {element : Element} :
    (nodes.filterMap Node.element?).find? kind = some element ↔
      element.IsFirstOf (kind · = true) nodes := by
  induction nodes with
  | nil => simp [Element.IsFirstOf, not_isFirst_nil]
  | cons node rest ih =>
    cases hnode : node.element? with
    | none => rw [List.filterMap_cons_none hnode, ih, isFirstOf_cons_of_none hnode]
    | some head =>
      rw [List.filterMap_cons_some hnode, Node.element?_eq_some_iff.1 hnode, isFirstOf_cons, ← ih,
        List.find?_cons]
      cases hkind : kind head <;> simp [eq_comm]

end NatGateway.Xml

namespace NatGateway.Soap

open NatGateway.Text (Bytes utf8Bytes)
open NatGateway.Xml (Element Node Tree writtenDeclaration)

/-- Blank bytes are no document. -/
theorem ofBytes?_of_blank {bytes : Bytes} (h : bytes.all Envelope.isBlankByte = true) :
    Element.ofBytes? bytes = none := by
  have hblank : ∀ b ∈ bytes, b < 0x80 ∧ Char.ofNat b.toNat ≠ '<' := by
    intro b hb
    have hbyte := List.all_eq_true.1 h b hb
    simp only [Envelope.isBlankByte, Bool.or_eq_true, beq_iff_eq] at hbyte
    obtain (((rfl | rfl) | rfl) | rfl) | rfl := hbyte <;> decide
  have hmarkup : '<' ∉ bytes.map fun b => Char.ofNat b.toNat := by
    intro hmem
    obtain ⟨b, hb, hchar⟩ := List.mem_map.1 hmem
    exact (hblank b hb).2 hchar
  exact Element.ofBytes?_of_ascii (fun b hb => (hblank b hb).1) hmarkup

/-- Reading arguments may fail, but never with a fault. -/
theorem Answer.ofElement_ne_fault (element : Element) (fault : Fault) :
    Answer.ofElement element ≠ .error (.fault fault) := by
  intro h
  obtain ⟨bad, _, hoffence⟩ := Answer.ofElement_eq_error_iff.1 h
  cases hoffence with
  | inside _ _ _ hinner => cases hinner

namespace Envelope

section

variable {bytes : Bytes} {root body : Element} (hroot : Element.ofBytes? bytes = some root)
  (hname : root.name = "Envelope") (hbody : body.IsFirstOf (·.name = "Body") root.children)

include hroot hname hbody

/-- The envelope that a body is decoded to. -/
theorem decode_of_body :
    ∃ style, decode bytes = .ok
      ⟨style, (body.elements.find? (·.name == "Fault")).map Fault.ofElement,
        body.elements.find? (·.name != "Fault")⟩ := by
  have hblank : bytes.all isBlankByte = false := by
    rw [Bool.eq_false_iff]
    intro hblank
    rw [ofBytes?_of_blank hblank] at hroot
    cases hroot
  have hfound : root.child? "Body" = some body := by
    unfold Element.child? Element.named Element.elements
    rw [List.head?_filter, Element.find?_eq_some_iff_isFirstOf]
    simpa using hbody
  refine (decode_eq_ok_iff hblank).2 ⟨body.elements, ?_, rfl, rfl⟩
  rw [bodyElements?, hroot, Option.bind_some, if_pos hname, hfound, Option.map_some]

/-- The first fault of a body is what its envelope answers. -/
theorem result_decode_of_fault {element : Element}
    (h : element.IsFirstOf (·.name = "Fault") body.children) :
    (decode bytes).bind result = .error (.fault (Fault.ofElement element)) := by
  have hfault : body.elements.find? (·.name == "Fault") = some element := by
    rw [Element.elements, Element.find?_eq_some_iff_isFirstOf]
    simpa using h
  obtain ⟨style, hdecode⟩ := decode_of_body hroot hname hbody
  rw [hdecode, hfault]
  rfl

/-- A body without a fault answers the arguments of its first element. -/
theorem result_decode_of_action
    (hnone : ∀ element : Element, element.node ∈ body.children → element.name ≠ "Fault")
    {first : Element} (h : first.IsFirstOf (fun _ => True) body.children) :
    (decode bytes).bind result = (Answer.ofElement first).map some := by
  have hfault : body.elements.find? (·.name == "Fault") = none := by
    rw [List.find?_eq_none]
    intro element hmem
    simpa using hnone element (Element.mem_filterMap_iff.1 hmem)
  have haction : body.elements.find? (·.name != "Fault") = some first := by
    rw [Element.elements, Element.find?_eq_some_iff_isFirstOf]
    refine ⟨by simpa using hnone first h.mem, ?_⟩
    obtain ⟨_, before, after, hchildren, hbefore⟩ := h
    exact ⟨before, after, hchildren, fun node hmem other hother =>
      absurd trivial (hbefore node hmem other hother)⟩
  obtain ⟨style, hdecode⟩ := decode_of_body hroot hname hbody
  rw [hdecode, hfault, haction]
  rfl

/-- A body without elements answers nothing. -/
theorem result_decode_of_nothing
    (h : ∀ element : Element, element.node ∉ body.children) :
    (decode bytes).bind result = .ok none := by
  have helements : body.elements = [] := by
    rw [List.eq_nil_iff_forall_not_mem]
    exact fun element hmem => h element (Element.mem_filterMap_iff.1 hmem)
  obtain ⟨style, hdecode⟩ := decode_of_body hroot hname hbody
  rw [hdecode, helements]
  rfl

/-- A body without a fault does not answer one. -/
theorem result_decode_ne_fault
    (hnone : ∀ element : Element, element.node ∈ body.children → element.name ≠ "Fault")
    (fault : Fault) : (decode bytes).bind result ≠ .error (.fault fault) := by
  intro h
  rcases Element.exists_isFirstOf (fun _ => True) body.children with ⟨first, hfirst⟩ | hempty
  · rw [result_decode_of_action hroot hname hbody hnone hfirst, map_eq_error_iff] at h
    exact Answer.ofElement_ne_fault first fault h
  · rw [result_decode_of_nothing hroot hname hbody fun element hmem =>
      hempty element hmem trivial] at h
    cases h

/-- A body with an element does not answer nothing. -/
theorem result_decode_ne_nothing {first : Element}
    (hfirst : first.IsFirstOf (fun _ => True) body.children) :
    (decode bytes).bind result ≠ .ok none := by
  intro h
  rcases Element.exists_isFirstOf (·.name = "Fault") body.children with ⟨element, hfault⟩ | hnone
  · rw [result_decode_of_fault hroot hname hbody hfault] at h
    cases h
  · rw [result_decode_of_action hroot hname hbody hnone hfirst] at h
    obtain ⟨answer, _, hsome⟩ := map_eq_ok_iff.1 h
    cases hsome

/-- The first fault of a body is the only one that is answered. -/
theorem result_decode_eq_fault_iff (fault : Fault) :
    (decode bytes).bind result = .error (.fault fault) ↔
      ∃ element, element.IsFirstOf (·.name = "Fault") body.children ∧
        fault = Fault.ofElement element := by
  constructor
  · intro h
    rcases Element.exists_isFirstOf (·.name = "Fault") body.children with
      ⟨element, hfirst⟩ | hnone
    · rw [result_decode_of_fault hroot hname hbody hfirst] at h
      cases h
      exact ⟨element, hfirst, rfl⟩
    · exact absurd h (result_decode_ne_fault hroot hname hbody hnone fault)
  · rintro ⟨element, hfirst, rfl⟩
    exact result_decode_of_fault hroot hname hbody hfirst

/-- A fault is answered if there is one among the elements of a body. -/
theorem exists_fault_iff :
    (∃ fault, (decode bytes).bind result = .error (.fault fault)) ↔
      ∃ element : Element, element.node ∈ body.children ∧ element.name = "Fault" := by
  constructor
  · rintro ⟨fault, h⟩
    obtain ⟨element, hfirst, _⟩ := (result_decode_eq_fault_iff hroot hname hbody fault).1 h
    exact ⟨element, hfirst.mem, hfirst.1⟩
  · rintro ⟨element, hmem, helement⟩
    rcases Element.exists_isFirstOf (·.name = "Fault") body.children with
      ⟨first, hfirst⟩ | hnone
    · exact ⟨_, result_decode_of_fault hroot hname hbody hfirst⟩
    · exact absurd helement (hnone element hmem)

/-- Nothing is answered if there is no element in a body. -/
theorem result_decode_eq_nothing_iff :
    (decode bytes).bind result = .ok none ↔ ∀ element : Element, element.node ∉ body.children := by
  constructor
  · intro h
    rcases Element.exists_isFirstOf (fun _ => True) body.children with ⟨first, hfirst⟩ | hempty
    · exact absurd h (result_decode_ne_nothing hroot hname hbody hfirst)
    · exact fun element hmem => hempty element hmem trivial
  · exact result_decode_of_nothing hroot hname hbody

end

/-- An envelope with elements in its body, as a document. -/
def bodyDocument (elements : List Tree) : Bytes :=
  utf8Bytes (writtenDeclaration ++
    (Tree.branch "Envelope" [.branch "Header" [], .branch "Body" elements]).written)

/-- The children of the root of such a document. -/
theorem ofBytes?_bodyDocument {elements : List Tree} (h : Tree.areReadable elements = true) :
    Element.ofBytes? (bodyDocument elements) = some ⟨⟨"Envelope", none, none, []⟩,
      [.element ⟨"Header", none, none, []⟩ [],
        .element ⟨"Body", none, none, []⟩ (Tree.nodes elements)]⟩ := by
  have hnames :
      (Xml.isXmlName "Envelope" && Xml.isXmlName "Header" && Xml.isXmlName "Body") = true := by
    decide
  have hreadable :
      (Tree.branch "Envelope" [.branch "Header" [], .branch "Body" elements]).isReadable = true := by
    simpa [Tree.isReadable, Tree.areReadable, h, and_assoc] using hnames
  exact Tree.ofBytes?_written hreadable

/-- The body of such a document is the first one. -/
theorem isFirstOf_bodyDocument (children : List Node) :
    (⟨⟨"Body", none, none, []⟩, children⟩ : Element).IsFirstOf (·.name = "Body")
      [.element ⟨"Header", none, none, []⟩ [], .element ⟨"Body", none, none, []⟩ children] := by
  refine ⟨rfl, [.element ⟨"Header", none, none, []⟩ []], [], rfl,
    fun node hmem other hother => ?_⟩
  rw [List.mem_singleton.1 hmem] at hother
  cases hother
  decide

/-- An action that cannot be read, with an element inside an argument. -/
def nestedAction : Tree := .branch "Act" [.branch "NewPort" [.leaf "b" "1"]]

/-- What an envelope with a body answers. It answers a fault exactly if a child element of the body is
a fault, and then the first one, whatever stands beside it; without a fault it answers what its first
child element tells as an action, and nothing exactly if there is no child element. -/
theorem result_decode_of_body {bytes : Bytes} {root body : Element}
    (hroot : Element.ofBytes? bytes = some root) (hname : root.name = "Envelope")
    (hbody : body.IsFirstOf (·.name = "Body") root.children) :
    ((∃ fault, (decode bytes).bind result = .error (.fault fault)) ↔
        ∃ element : Element, element.node ∈ body.children ∧ element.name = "Fault") ∧
      (∀ fault, (decode bytes).bind result = .error (.fault fault) ↔
        ∃ element, element.IsFirstOf (·.name = "Fault") body.children ∧
          fault = Fault.ofElement element) ∧
      ((∀ element : Element, element.node ∈ body.children → element.name ≠ "Fault") →
        ∀ first, first.IsFirstOf (fun _ => True) body.children →
          (decode bytes).bind result = (Answer.ofElement first).map some) ∧
      ((decode bytes).bind result = .ok none ↔
        ∀ element : Element, element.node ∉ body.children) := by
  refine ⟨exists_fault_iff hroot hname hbody, result_decode_eq_fault_iff hroot hname hbody, ?_,
    result_decode_eq_nothing_iff hroot hname hbody⟩
  intro hnone first hfirst
  exact result_decode_of_action hroot hname hbody hnone hfirst

/-- A fault behind an action that cannot be read is answered all the same; the action is only read
where there is no fault. -/
theorem result_decode_nestedAction :
    (decode (bodyDocument [nestedAction, .branch "Fault" [.leaf "faultcode" "s:Client"],
        .branch "Fault" []])).bind result = .error (.fault ⟨"s:Client", "", "", ⟨"", ""⟩⟩) ∧
      (decode (bodyDocument [nestedAction, .branch "Act" []])).bind result =
        .error (.unexpectedToken "<b> inside argument NewPort") ∧
      (decode (bodyDocument [])).bind result = .ok none := by
  refine ⟨?_, ?_, ?_⟩
  · have hroot := ofBytes?_bodyDocument (show Tree.areReadable [nestedAction,
      .branch "Fault" [.leaf "faultcode" "s:Client"], .branch "Fault" []] = true by decide)
    refine ((result_decode_of_body hroot rfl (isFirstOf_bodyDocument _)).2.1 _).2
      ⟨⟨⟨"Fault", none, none, []⟩, [(Tree.leaf "faultcode" "s:Client").node]⟩, ?_, by decide⟩
    refine ⟨rfl, [nestedAction.node], [(Tree.branch "Fault" []).node], rfl,
      fun node hmem other hother => ?_⟩
    rw [List.mem_singleton.1 hmem] at hother
    cases hother
    decide
  · have hroot := ofBytes?_bodyDocument (show
      Tree.areReadable [nestedAction, .branch "Act" []] = true by decide)
    rw [(result_decode_of_body hroot rfl (isFirstOf_bodyDocument _)).2.2.1 ?_
      ⟨⟨"Act", none, none, []⟩, Tree.nodes [.branch "NewPort" [.leaf "b" "1"]]⟩ ?_]
    · rfl
    · intro element hmem
      have hact : element.tag.name = "Act" := by
        rcases List.mem_cons.1 hmem with hfirst | hsecond
        · rw [(Node.element.inj hfirst).1]
        · rw [(Node.element.inj (List.mem_singleton.1 hsecond)).1]
      rw [Element.name, hact]
      decide
    · exact ⟨trivial, [], [(Tree.branch "Act" []).node], rfl, fun node hmem => nomatch hmem⟩
  · have hroot := ofBytes?_bodyDocument (show Tree.areReadable [] = true from rfl)
    exact (result_decode_of_body hroot rfl (isFirstOf_bodyDocument _)).2.2.2.2
      fun element hmem => nomatch hmem

end Envelope

end NatGateway.Soap
