import NatGateway.Proofs.First
import NatGateway.Soap.Answer
import NatGateway.Xml.Namespace

/-!
# Arguments of an action

Which elements can be read as actions, what is read from them, and which failure the others give. The
children of an action are judged one by one, and so are the nodes inside an argument: the first one
that offends decides, by the first of its own faults. Comments never matter, and neither does white
space between arguments; inside an argument every character counts. Declarations of namespaces are no
attributes of an element.
-/

namespace NatGateway.Xml

/-! ## Declarations -/

/-- Whether an attribute is written as the declaration of a namespace. -/
def Attribute.IsDeclaration (attr : Attribute) : Prop :=
  attr.name = ⟨none, "xmlns"⟩ ∨ attr.name.qualifier = some "xmlns"

/-- What is not written as a declaration declares nothing. -/
theorem Attribute.declaration_eq_none_iff {attr : Attribute} :
    attr.declaration = .none ↔ ¬ attr.IsDeclaration := by
  unfold Attribute.declaration Attribute.IsDeclaration
  by_cases hdefault : attr.name = ⟨none, "xmlns"⟩
  · simp only [hdefault, if_true, true_or, not_true_eq_false, iff_false]
    split <;> simp
  · by_cases hprefix : attr.name.qualifier = some "xmlns"
    · simp only [hdefault, hprefix, if_false, if_true, or_true, not_true_eq_false, iff_false]
      split
      · simp
      · split
        · simp
        · split <;> simp
    · simp [hdefault, hprefix]

/-- Declarations are taken out of the attributes. -/
theorem separate_snd_eq_nil_iff {attributes proper : List Attribute} {own : Bindings}
    (h : separate attributes = some (own, proper)) :
    proper = [] ↔ ∀ attr ∈ attributes, attr.IsDeclaration := by
  induction attributes generalizing own proper with
  | nil =>
    cases h
    simp
  | cons attr rest ih =>
    obtain ⟨⟨bindings, others⟩, hrest, h⟩ := Option.bind_eq_some_iff.1 h
    rw [List.forall_mem_cons, ← ih hrest]
    cases hdeclared : attr.declaration with
    | none =>
      have hno : ¬ attr.IsDeclaration := Attribute.declaration_eq_none_iff.1 hdeclared
      simp only [hdeclared] at h
      split at h
      · cases h
      · cases h
        simp [hno]
    | binds qualifier uri =>
      have hyes : attr.IsDeclaration := Classical.byContradiction fun hno => by
        rw [Attribute.declaration_eq_none_iff.2 hno] at hdeclared
        cases hdeclared
      simp only [hdeclared] at h
      cases h
      simp [hyes]
    | refused =>
      simp only [hdeclared] at h
      cases h

/-- Attributes that are kept by their local names are not lost altogether. -/
theorem foldl_setAttribute_eq_nil_iff (attributes : List Attribute) :
    attributes.foldl (fun kept attr => setAttribute kept attr.name.name attr.value) [] = [] ↔
      attributes = [] := by
  rcases List.eq_nil_or_concat attributes with rfl | ⟨others, last, rfl⟩
  · simp
  · simp [setAttribute]

/-- A tag has no attributes if all that its start tag gives are declarations. -/
theorem Tag.attributes_eq_nil_iff {parent inner : Bindings} {name : QName}
    {attributes : List Attribute} {tag : Tag}
    (h : Tag.resolve? parent name attributes = some (tag, inner)) :
    tag.attributes = [] ↔ ∀ attr ∈ attributes, attr.IsDeclaration := by
  obtain ⟨⟨own, proper⟩, hseparate, h⟩ := Option.bind_eq_some_iff.1 h
  obtain ⟨uri, _, h⟩ := Option.bind_eq_some_iff.1 h
  rw [← separate_snd_eq_nil_iff hseparate, ← foldl_setAttribute_eq_nil_iff proper]
  split at h
  · cases h
    rfl
  · cases h

end NatGateway.Xml

namespace NatGateway.Soap

open NatGateway.Xml (Attribute Bindings Element Node QName Tag)

/-! ## Nodes that are accepted -/

/-- Whether a node may stand inside an argument: texts, CDATA sections and comments may. -/
def IsPlainNode : Node → Prop
  | .text _ => True
  | .cdata _ => True
  | .comment _ => True
  | .element _ _ => False
  | .instruction _ _ => False

/-- Whether a node may be a child of an action: a plain element, blank text, or a comment. -/
def IsArgumentNode : Node → Prop
  | .element tag children =>
      tag.attributes = [] ∧ (∀ uri, tag.uri = some uri → uri = "") ∧
        ∀ node ∈ children, IsPlainNode node
  | .text content => ∀ c ∈ content.toList, Text.isBlank c = true
  | .cdata content => ∀ c ∈ content.toList, Text.isBlank c = true
  | .comment _ => True
  | .instruction _ _ => False

/-- What a child of an action tells: an element its local name and all of its text, anything else
nothing. -/
def entry? : Node → Option (String × String)
  | .element tag children => some (tag.name, String.join (children.filterMap Node.text?))
  | _ => none

/-! ## Nodes that offend -/

/-- The failure that a node inside an argument gives. -/
inductive InnerOffence (argument : String) : Node → SoapError → Prop
  | element (tag : Tag) (children : List Node) :
      InnerOffence argument (.element tag children)
        (.unexpectedToken ("<" ++ tag.name ++ "> inside argument " ++ argument))
  | instruction (target : String) (content : Option String) :
      InnerOffence argument (.instruction target content)
        (.unexpectedToken ("<?" ++ target ++ "?>"))

/-- The failure that a child of an action gives. Of an element the attributes are looked at first,
then the namespace, and then the nodes inside it. -/
inductive Offence : Node → SoapError → Prop
  | attributes {tag : Tag} {children : List Node} (h : tag.attributes ≠ []) :
      Offence (.element tag children)
        (.unexpectedAttribute (Answer.shownAttributes tag.attributes))
  | uri {tag : Tag} {children : List Node} {uri : String} (hattributes : tag.attributes = [])
      (huri : tag.uri = some uri) (hnonempty : uri ≠ "") :
      Offence (.element tag children) (.unexpectedNamespace uri)
  | inside {tag : Tag} {children : List Node} {bad : Node} {error : SoapError}
      (hattributes : tag.attributes = []) (huri : ∀ uri, tag.uri = some uri → uri = "")
      (hbad : IsFirst IsPlainNode children bad) (herror : InnerOffence tag.name bad error) :
      Offence (.element tag children) error
  | text {content : String} (h : ∃ c ∈ content.toList, Text.isBlank c = false) :
      Offence (.text content) (.strayText content)
  | cdata {content : String} (h : ∃ c ∈ content.toList, Text.isBlank c = false) :
      Offence (.cdata content) (.strayText content)
  | instruction (target : String) (content : Option String) :
      Offence (.instruction target content) (.unexpectedToken ("<?" ++ target ++ "?>"))

namespace Answer

/-! ## Inside an argument -/

/-- Read a node inside an argument. -/
def readInner (argument : String) : Node → Except SoapError (Option String)
  | .text content => .ok (some content)
  | .cdata content => .ok (some content)
  | .comment _ => .ok none
  | .element nested _ =>
      .error (.unexpectedToken ("<" ++ nested.name ++ "> inside argument " ++ argument))
  | .instruction target _ => .error (.unexpectedToken (shownInstruction target))

/-- The text of an argument is read node by node. -/
theorem argumentText_eq (name : String) (nodes : List Node) :
    argumentText name nodes = (readEach (readInner name) nodes).map String.join := by
  induction nodes with
  | nil => rfl
  | cons node rest ih =>
    rw [readEach]
    cases node with
    | element nested children => rfl
    | instruction target content => rfl
    | _ =>
      rw [argumentText, ih]
      cases readEach (readInner name) rest <;> simp [readInner, Except.bind, Except.map]

/-- The nodes that may stand inside an argument are read, and give their text. -/
theorem readInner_eq_ok_iff (argument : String) (node : Node) (result : Option String) :
    readInner argument node = .ok result ↔ IsPlainNode node ∧ result = node.text? := by
  cases node <;> simp [readInner, IsPlainNode, Node.text?, eq_comm]

/-- The other nodes are refused. -/
theorem readInner_eq_error_iff (argument : String) (node : Node) (error : SoapError) :
    readInner argument node = .error error ↔ InnerOffence argument node error := by
  constructor
  · intro h
    cases node with
    | element tag children =>
      cases h
      exact .element tag children
    | instruction target content =>
      cases h
      exact .instruction target content
    | text content => cases h
    | cdata content => cases h
    | comment content => cases h
  · rintro (_ | _) <;> rfl

/-- The text of an argument is that of all its nodes. -/
theorem argumentText_eq_ok_iff {name : String} {nodes : List Node} {text : String} :
    argumentText name nodes = .ok text ↔
      (∀ node ∈ nodes, IsPlainNode node) ∧ text = String.join (nodes.filterMap Node.text?) := by
  rw [argumentText_eq, map_eq_ok_iff]
  simp only [readEach_eq_ok_iff (readInner_eq_ok_iff name)]
  constructor
  · rintro ⟨_, ⟨hplain, rfl⟩, rfl⟩
    exact ⟨hplain, rfl⟩
  · rintro ⟨hplain, rfl⟩
    exact ⟨_, ⟨hplain, rfl⟩, rfl⟩

/-- The first node that may not stand inside an argument decides its failure. -/
theorem argumentText_eq_error_iff {name : String} {nodes : List Node} {error : SoapError} :
    argumentText name nodes = .error error ↔
      ∃ bad, IsFirst IsPlainNode nodes bad ∧ InnerOffence name bad error := by
  rw [argumentText_eq, map_eq_error_iff,
    readEach_eq_error_iff (readInner_eq_ok_iff name) (readInner_eq_error_iff name)]

/-! ## Arguments -/

/-- Attributes are refused before anything else is looked at. -/
theorem argument_of_attributes {tag : Tag} (h : tag.attributes ≠ []) (children : List Node) :
    argument tag children = .error (.unexpectedAttribute (shownAttributes tag.attributes)) := by
  simp [argument, h]

/-- A namespace is refused before the nodes inside are looked at. -/
theorem argument_of_uri {tag : Tag} (hattributes : tag.attributes = []) {uri : String}
    (huri : tag.uri = some uri) (hnonempty : uri ≠ "") (children : List Node) :
    argument tag children = .error (.unexpectedNamespace uri) := by
  simp [argument, hattributes, huri, hnonempty]

/-- An element without attributes and namespace is read by its text. -/
theorem argument_of_plain {tag : Tag} (hattributes : tag.attributes = [])
    (huri : ∀ uri, tag.uri = some uri → uri = "") (children : List Node) :
    argument tag children = (argumentText tag.name children).map (tag.name, ·) := by
  cases hnamespace : tag.uri with
  | none => simp [argument, hattributes, hnamespace]
  | some uri => simp [argument, hattributes, hnamespace, huri uri hnamespace]

/-- What a tag can have that is looked at: attributes, or else a namespace, or neither. -/
theorem tag_cases (tag : Tag) :
    tag.attributes ≠ [] ∨
      tag.attributes = [] ∧ ((∃ uri, tag.uri = some uri ∧ uri ≠ "") ∨
        ∀ uri, tag.uri = some uri → uri = "") := by
  by_cases hattributes : tag.attributes = []
  · refine Or.inr ⟨hattributes, ?_⟩
    cases huri : tag.uri with
    | none => exact Or.inr fun uri h => nomatch h
    | some uri =>
      by_cases hempty : uri = ""
      · exact Or.inr fun other hother => (Option.some.inj hother).symm.trans hempty
      · exact Or.inl ⟨uri, rfl, hempty⟩
  · exact Or.inl hattributes

/-- An element is an argument if it has no attributes, no namespace, and only texts, CDATA sections
and comments inside. -/
theorem argument_eq_ok_iff {tag : Tag} {children : List Node} {entry : String × String} :
    argument tag children = .ok entry ↔
      IsArgumentNode (.element tag children) ∧ some entry = entry? (.element tag children) := by
  constructor
  · intro h
    rcases tag_cases tag with hattributes | ⟨hattributes, ⟨uri, huri, hnonempty⟩ | huri⟩
    · rw [argument_of_attributes hattributes] at h
      cases h
    · rw [argument_of_uri hattributes huri hnonempty] at h
      cases h
    · rw [argument_of_plain hattributes huri] at h
      obtain ⟨text, htext, rfl⟩ := map_eq_ok_iff.1 h
      obtain ⟨hplain, rfl⟩ := argumentText_eq_ok_iff.1 htext
      exact ⟨⟨hattributes, huri, hplain⟩, rfl⟩
  · rintro ⟨⟨hattributes, huri, hplain⟩, hentry⟩
    cases hentry
    rw [argument_of_plain hattributes huri, argumentText_eq_ok_iff.2 ⟨hplain, rfl⟩]
    rfl

/-- Any other element gives the failure of its first offence. -/
theorem argument_eq_error_iff {tag : Tag} {children : List Node} {error : SoapError} :
    argument tag children = .error error ↔ Offence (.element tag children) error := by
  constructor
  · intro h
    rcases tag_cases tag with hattributes | ⟨hattributes, ⟨uri, huri, hnonempty⟩ | huri⟩
    · rw [argument_of_attributes hattributes] at h
      cases h
      exact .attributes hattributes
    · rw [argument_of_uri hattributes huri hnonempty] at h
      cases h
      exact .uri hattributes huri hnonempty
    · rw [argument_of_plain hattributes huri, map_eq_error_iff, argumentText_eq_error_iff] at h
      obtain ⟨bad, hbad, herror⟩ := h
      exact .inside hattributes huri hbad herror
  · intro h
    cases h with
    | attributes hattributes => exact argument_of_attributes hattributes children
    | uri hattributes huri hnonempty => exact argument_of_uri hattributes huri hnonempty children
    | inside hattributes huri hbad herror =>
      rw [argument_of_plain hattributes huri, map_eq_error_iff, argumentText_eq_error_iff]
      exact ⟨_, hbad, herror⟩

/-! ## Children of an action -/

/-- Read text between arguments: it has to be blank, and tells nothing. -/
def readBetween (content : String) : Except SoapError (Option (String × String)) :=
  if Text.isBlankText content then .ok none else .error (.strayText content)

/-- Read a child of an action. -/
def readChild : Node → Except SoapError (Option (String × String))
  | .element tag children => (argument tag children).map some
  | .text content => readBetween content
  | .cdata content => readBetween content
  | .comment _ => .ok none
  | .instruction target _ => .error (.unexpectedToken (shownInstruction target))

/-- The arguments of an action are read child by child. -/
theorem arguments_eq (nodes : List Node) : arguments nodes = readEach readChild nodes := by
  induction nodes with
  | nil => rfl
  | cons node rest ih =>
    rw [readEach, ← ih]
    cases node with
    | element tag children =>
      rw [arguments, readChild]
      cases argument tag children <;> rfl
    | text content =>
      rw [arguments, readChild, passText, readBetween]
      split <;> cases arguments rest <;> rfl
    | cdata content =>
      rw [arguments, readChild, passText, readBetween]
      split <;> cases arguments rest <;> rfl
    | comment content =>
      rw [arguments, readChild]
      cases arguments rest <;> rfl
    | instruction target content => rfl

/-- Text between arguments is accepted if all of it is blank. -/
theorem readBetween_eq_ok_iff {content : String} {result : Option (String × String)} :
    readBetween content = .ok result ↔
      (∀ c ∈ content.toList, Text.isBlank c = true) ∧ result = none := by
  unfold readBetween
  split
  next hblank =>
    rw [Except.ok.injEq, eq_comm]
    exact (and_iff_right (List.all_eq_true.1 hblank)).symm
  next hblank =>
    constructor
    · intro h
      cases h
    · intro h
      exact absurd (List.all_eq_true.2 h.1) hblank

/-- Other text between arguments is shown in the failure. -/
theorem readBetween_eq_error_iff {content : String} {error : SoapError} :
    readBetween content = .error error ↔
      (∃ c ∈ content.toList, Text.isBlank c = false) ∧ error = .strayText content := by
  unfold readBetween
  split
  next hblank =>
    constructor
    · intro h
      cases h
    · rintro ⟨⟨c, hc, hbad⟩, _⟩
      rw [List.all_eq_true.1 hblank c hc] at hbad
      cases hbad
  next hblank =>
    obtain ⟨c, hc, hbad⟩ := List.all_eq_false.1 (Bool.eq_false_iff.2 hblank)
    rw [Except.error.injEq, eq_comm]
    exact (and_iff_right ⟨c, hc, Bool.eq_false_iff.2 hbad⟩).symm

/-- The nodes that may be children of an action are read, and tell what they tell. -/
theorem readChild_eq_ok_iff (node : Node) (result : Option (String × String)) :
    readChild node = .ok result ↔ IsArgumentNode node ∧ result = entry? node := by
  cases node with
  | element tag children =>
    rw [readChild, map_eq_ok_iff]
    simp only [argument_eq_ok_iff]
    constructor
    · rintro ⟨entry, ⟨haccepted, hentry⟩, rfl⟩
      exact ⟨haccepted, hentry⟩
    · rintro ⟨haccepted, rfl⟩
      exact ⟨_, ⟨haccepted, rfl⟩, rfl⟩
  | text content => exact readBetween_eq_ok_iff
  | cdata content => exact readBetween_eq_ok_iff
  | comment content => simp [readChild, IsArgumentNode, entry?, eq_comm]
  | instruction target content => simp [readChild, IsArgumentNode]

/-- The other nodes give the failure of their offence. -/
theorem readChild_eq_error_iff (node : Node) (error : SoapError) :
    readChild node = .error error ↔ Offence node error := by
  cases node with
  | element tag children => rw [readChild, map_eq_error_iff, argument_eq_error_iff]
  | text content =>
    rw [readChild, readBetween_eq_error_iff]
    constructor
    · rintro ⟨hstray, rfl⟩
      exact .text hstray
    · intro h
      cases h with
      | text hstray => exact ⟨hstray, rfl⟩
  | cdata content =>
    rw [readChild, readBetween_eq_error_iff]
    constructor
    · rintro ⟨hstray, rfl⟩
      exact .cdata hstray
    · intro h
      cases h with
      | cdata hstray => exact ⟨hstray, rfl⟩
  | comment content =>
    constructor
    · intro h
      cases h
    · rintro ⟨_⟩
  | instruction target content =>
    constructor
    · intro h
      cases h
      exact .instruction target content
    · rintro ⟨_⟩
      rfl

/-! ## Actions -/

/-- An element is an action if each of its children may be the child of one. -/
theorem ofElement_eq_ok_iff {element : Element} {answer : Answer} :
    ofElement element = .ok answer ↔
      (∀ child ∈ element.children, IsArgumentNode child) ∧
        answer = ⟨element.name, element.tag.uri, element.children.filterMap entry?⟩ := by
  rw [ofElement, arguments_eq, map_eq_ok_iff]
  simp only [readEach_eq_ok_iff readChild_eq_ok_iff]
  constructor
  · rintro ⟨_, ⟨hall, rfl⟩, rfl⟩
    exact ⟨hall, rfl⟩
  · rintro ⟨hall, rfl⟩
    exact ⟨_, ⟨hall, rfl⟩, rfl⟩

/-- The first child that may not be the child of an action decides its failure. -/
theorem ofElement_eq_error_iff {element : Element} {error : SoapError} :
    ofElement element = .error error ↔
      ∃ bad, IsFirst IsArgumentNode element.children bad ∧ Offence bad error := by
  rw [ofElement, arguments_eq, map_eq_error_iff,
    readEach_eq_error_iff readChild_eq_ok_iff readChild_eq_error_iff]

/-- What comes of reading an element as an action. It is accepted exactly if each of its children may
be the child of an action; then it tells one entry for each child element, in order, with all of its
text. Otherwise the first child that offends decides the failure. The attributes that are refused are
those that declare no namespace. -/
theorem ofElement_eq_iff (element : Element) :
    (∀ answer, ofElement element = .ok answer ↔
      (∀ child ∈ element.children, IsArgumentNode child) ∧
        answer = ⟨element.name, element.tag.uri, element.children.filterMap entry?⟩) ∧
    (∀ error, ofElement element = .error error ↔
      ∃ bad, IsFirst IsArgumentNode element.children bad ∧ Offence bad error) ∧
    ∀ (parent inner : Bindings) (name : QName) (attributes : List Attribute) (tag : Tag),
      Tag.resolve? parent name attributes = some (tag, inner) →
        (tag.attributes = [] ↔ ∀ attr ∈ attributes, attr.IsDeclaration) :=
  ⟨fun _ => ofElement_eq_ok_iff, fun _ => ofElement_eq_error_iff,
    fun _ _ _ _ _ h => Xml.Tag.attributes_eq_nil_iff h⟩

/-- An argument that takes back the default namespace of its action has no attribute, and is read. -/
theorem ofElement_of_declared :
    ∃ tag inner,
      Tag.resolve? [("", "urn:a")] ⟨none, "NewPort"⟩ [⟨⟨none, "xmlns"⟩, ""⟩] = some (tag, inner) ∧
        tag.attributes = [] ∧
          ofElement ⟨⟨"Act", none, some "urn:a", []⟩,
              [.text "\n", .element tag [.text "4", .comment "", .cdata "2"], .comment "done"]⟩ =
            .ok ⟨"Act", some "urn:a", [("NewPort", "42")]⟩ := by
  have hresolved : Tag.resolve? [("", "urn:a")] ⟨none, "NewPort"⟩ [⟨⟨none, "xmlns"⟩, ""⟩] =
      some (⟨"NewPort", none, none, []⟩, [("", ""), ("", "urn:a")]) := by decide
  obtain ⟨haccepted, _, hdeclared⟩ := ofElement_eq_iff ⟨⟨"Act", none, some "urn:a", []⟩,
    [.text "\n", .element ⟨"NewPort", none, none, []⟩ [.text "4", .comment "", .cdata "2"],
      .comment "done"]⟩
  refine ⟨_, _, hresolved, (hdeclared _ _ _ _ _ hresolved).2 ?_, (haccepted _).2 ⟨?_, rfl⟩⟩
  · intro attr hattr
    exact Or.inl (List.mem_singleton.1 hattr ▸ rfl)
  · have hline : ∀ c ∈ "\n".toList, Text.isBlank c = true :=
      List.all_eq_true.1 (show "\n".toList.all Text.isBlank = true by decide)
    simpa [IsArgumentNode, IsPlainNode] using hline

end Answer

end NatGateway.Soap
