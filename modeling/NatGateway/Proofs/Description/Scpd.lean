import NatGateway.Description.Scpd
import NatGateway.Proofs.Description.Acceptance
import NatGateway.Proofs.First
import NatGateway.Proofs.Interleaving
import NatGateway.Proofs.Text.LetterCase

/-!
# What a service offers

Which documents are read as the description of a service, and what is read from them. Two kinds of texts
can be wrong, the numbers of the version and the directions of the arguments, and one wrong direction in
any action is enough for nothing to be read. What is read are the items of the first list of each name,
at both levels, in the order of the document. Names may be missing or come twice, and a look-up finds the
first one.
-/

namespace NatGateway.Description

open NatGateway.Text (Bytes utf8Bytes)
open NatGateway.Xml (Element Tree)

/-! ## What fields say -/

/-- Whether a text is what a field says: that of the first element of its name, without the blank characters
at its ends, or the empty text if there is no such element. -/
def SaysText (element : Element) (name text : String) : Prop :=
  (∃ i field, element.IsFirstNamed name i field ∧ Text.trim (plainText field) = text) ∨
    (∀ i field, ¬ element.IsFirstNamed name i field) ∧ text = ""

/-- Whether a number is what a field says: the one that its text stands for, or zero if it has none. -/
def SaysNumber (element : Element) (name : String) (value : Int) : Prop :=
  ∃ text, SaysText element name text ∧ (text = "" ∧ value = 0 ∨
    text ≠ "" ∧ Text.StandsFor true text.toList value ∧ Text.IntegerType.i32.Holds value)

/-- Whether an element holds a text: a text or a CDATA section stands among its nodes. -/
def HoldsText (element : Element) : Prop := ∃ node ∈ element.children, node.text?.isSome = true

/-- Whether an argument has a direction: its first element for one says the word for it, between blank
characters. -/
def HasDirection (argument : Element) (direction : Direction) : Prop :=
  ∃ i field, argument.IsFirstNamed "direction" i field ∧ Text.trim (plainText field) = direction.word

/-- Whether the root of a document is the description of a service: it has the name of one, and the
version and the directions of all arguments can be read. -/
structure IsScpd (root : Element) : Prop where
  name : root.name = "scpd"
  version : ∀ i version, root.IsFirstNamed "specVersion" i version →
    HasNumber version "major" ∧ HasNumber version "minor"
  directions : ∀ i j action, ItemAt root "actionList" "action" i j action →
    ∀ k l argument, ItemAt action "argumentList" "argument" k l argument →
      ∃ direction, HasDirection argument direction

/-! ## What is read -/

/-- Whether things are read from the items of a list: one from each item, in the order of the
document. -/
def ReadsItems {α : Type} (IsRead : Element → α → Prop) (element : Element) (list item : String)
    (things : List α) : Prop :=
  ∃ items, Lists (fun place found => ∃ i j, place = [i, j] ∧ ItemAt element list item i j found) items ∧
    List.Forall₂ IsRead items things

/-- Whether a version is the one that a document follows: what its first element for one says, and zero if
there is none. -/
structure SpecVersion.IsRead (root : Element) (version : SpecVersion) : Prop where
  absent : (∀ i element, ¬ root.IsFirstNamed "specVersion" i element) → version = ⟨0, 0⟩
  major : ∀ i element, root.IsFirstNamed "specVersion" i element →
    SaysNumber element "major" version.major
  minor : ∀ i element, root.IsFirstNamed "specVersion" i element →
    SaysNumber element "minor" version.minor

/-- Whether an argument is the one that an element describes. -/
structure Argument.IsRead (element : Element) (argument : Argument) : Prop where
  name : SaysText element "name" argument.name
  direction : HasDirection element argument.direction
  relatedVariable : SaysText element "relatedStateVariable" argument.relatedVariable

/-- Whether an action is the one that an element describes. -/
structure ScpdAction.IsRead (element : Element) (action : ScpdAction) : Prop where
  name : SaysText element "name" action.name
  arguments : ReadsItems Argument.IsRead element "argumentList" "argument" action.arguments

/-- Whether a state variable is the one that an element describes. Its events are sent if an attribute says
`yes`, it has a default exactly if there is an element for one, even an empty one, and of the allowed values
those that are empty elements do not count. -/
structure StateVariable.IsRead (element : Element) (declared : StateVariable) : Prop where
  name : SaysText element "name" declared.name
  dataType : SaysText element "dataType" declared.dataType
  sendsEvents : declared.sendsEvents = true ↔
    ∃ value, IsFirst (·.1 ≠ "sendEvents") element.tag.attributes ("sendEvents", value) ∧
      Text.upperAscii (Text.trim value) = "YES"
  default : ∀ text, declared.default? = some text ↔
    ∃ i field, element.IsFirstNamed "defaultValue" i field ∧ Text.trim (plainText field) = text
  allowed : Lists (fun place text => ∃ i j item, place = [i, j] ∧
    ItemAt element "allowedValueList" "allowedValue" i j item ∧ HoldsText item ∧
      Text.trim (plainText item) = text) declared.allowed

/-- Whether the inputs and the outputs of an action are its arguments, each in their order. -/
structure ScpdAction.IsParted (action : ScpdAction) : Prop where
  interleaves : Interleaves [action.inputs, action.outputs] action.arguments
  inputs : ∀ argument ∈ action.inputs, argument.direction = .input
  outputs : ∀ argument ∈ action.outputs, argument.direction = .output

/-- Whether a look-up finds the first thing of each name, and nothing only if there is none of it. -/
structure FindsFirst {α : Type} (nameOf : α → String) (things : List α)
    (find? : String → Option α) : Prop where
  some_iff : ∀ name thing, find? name = some thing ↔
    nameOf thing = name ∧ IsFirst (nameOf · ≠ name) things thing
  none_iff : ∀ name, find? name = none ↔ ∀ thing ∈ things, nameOf thing ≠ name

/-- Whether the description of a service is what the root of a document says: its actions and state
variables are those of the first list of each, and what can be asked of them is answered from there. -/
structure Scpd.IsRead (root : Element) (scpd : Scpd) : Prop where
  version : SpecVersion.IsRead root scpd.version
  actions : ReadsItems ScpdAction.IsRead root "actionList" "action" scpd.actions
  stateVariables :
    ReadsItems StateVariable.IsRead root "serviceStateTable" "stateVariable" scpd.stateVariables
  parted : ∀ action ∈ scpd.actions, action.IsParted
  findAction : FindsFirst ScpdAction.name scpd.actions scpd.findAction?
  findVariable : FindsFirst StateVariable.name scpd.stateVariables scpd.findVariable?

variable {element root : Element}

/-- What is read one after the other from the items of a list is read from the items. -/
theorem ReadsItems.of_forall₂ {α : Type} {IsRead : Element → α → Prop} {list item : String}
    {things : List α} (h : List.Forall₂ IsRead (itemsOf element list item) things) :
    ReadsItems IsRead element list item things :=
  ⟨_, lists_itemsOf element list item, h⟩

/-! ## Fields -/

/-- The text of a field is what the field says. -/
theorem textOf_eq_iff {name text : String} : element.textOf name = text ↔ SaysText element name text := by
  have hno : (∀ i field, ¬ element.IsFirstNamed name i field) ↔ element.child? name = none := by
    rw [Element.forall_isFirstNamed_iff]
    cases element.child? name <;> simp
  rw [SaysText, hno, textOf_eq]
  constructor
  · intro htext
    cases hfield : element.child? name with
    | none =>
      rw [hfield] at htext
      exact Or.inr ⟨rfl, htext.symm⟩
    | some field =>
      obtain ⟨i, hfirst⟩ := Element.child?_eq_some_iff.1 hfield
      rw [hfield] at htext
      exact Or.inl ⟨i, field, hfirst, htext⟩
  · rintro (⟨i, field, hfirst, htext⟩ | ⟨habsent, rfl⟩)
    · rw [Element.child?_eq_some_iff.2 ⟨i, hfirst⟩]
      exact htext
    · rw [habsent]
      rfl

/-- A number is read from a field exactly if it is what the field says. -/
theorem numberOf_eq_ok_iff {name : String} {value : Int} :
    numberOf element name = .ok value ↔ SaysNumber element name value := by
  simp only [SaysNumber, ← textOf_eq_iff, exists_eq_left']
  rw [numberOf]
  generalize element.textOf name = text
  by_cases hempty : text = ""
  · subst hempty
    change Except.ok 0 = Except.ok value ↔ _
    rw [Except.ok.injEq, eq_comm]
    simp
  · have hread : Text.IntegerType.i32.read text.toList = .ok value ↔
        Text.StandsFor true text.toList value ∧ Text.IntegerType.i32.Holds value :=
      Text.IntegerType.read_eq_ok_iff
    have hnonempty : text.isEmpty = false := by simpa using hempty
    rw [← hread]
    simp only [hnonempty, Bool.false_eq_true, if_false, hempty, false_and, false_or, ne_eq,
      not_false_eq_true, true_and]
    cases Text.IntegerType.i32.read text.toList <;> simp

/-- An element has a text exactly if it holds one. -/
theorem isSome_text?_iff : element.text?.isSome = true ↔ HoldsText element := by
  rw [Element.text?]
  split
  · next hnone =>
    rw [List.filterMap_eq_nil_iff] at hnone
    simp only [Option.isSome_none, Bool.false_eq_true, false_iff]
    rintro ⟨node, hnode, htext⟩
    rw [hnone node hnode] at htext
    cases htext
  · next hsome =>
    simp only [Option.isSome_some, true_iff]
    obtain ⟨text, htext⟩ := List.exists_mem_of_ne_nil _ hsome
    obtain ⟨node, hnode, hread⟩ := List.mem_filterMap.1 htext
    exact ⟨node, hnode, Option.isSome_iff_exists.2 ⟨text, hread⟩⟩

/-- The text of an element that holds one is its plain text. -/
theorem text?_eq_some_iff {text : String} :
    element.text? = some text ↔ HoldsText element ∧ plainText element = text := by
  rw [← isSome_text?_iff, plainText]
  cases element.text? <;> simp

/-- A version that is read is the one that the document follows. -/
theorem SpecVersion.isRead_of_ofElement {version : SpecVersion}
    (h : SpecVersion.ofElement root = .ok version) : SpecVersion.IsRead root version := by
  rw [SpecVersion.ofElement] at h
  cases hchild : root.child? "specVersion" with
  | none =>
    rw [hchild] at h
    have hnone : ∀ i element, ¬ root.IsFirstNamed "specVersion" i element := by
      intro i element hfirst
      rw [Element.child?_eq_some_iff.2 ⟨i, hfirst⟩] at hchild
      cases hchild
    cases h
    exact ⟨fun _ => rfl, fun i element hfirst => absurd hfirst (hnone i element),
      fun i element hfirst => absurd hfirst (hnone i element)⟩
  | some found =>
    rw [hchild] at h
    obtain ⟨major, hmajor, h⟩ := bind_eq_ok_iff.1 h
    obtain ⟨minor, hminor, rfl⟩ := map_eq_ok_iff.1 h
    obtain ⟨place, hplace⟩ := Element.child?_eq_some_iff.1 hchild
    refine ⟨fun hnone => absurd hplace (hnone place found), fun i element hfirst => ?_,
      fun i element hfirst => ?_⟩
    · obtain ⟨_, rfl⟩ := hfirst.unique hplace
      exact numberOf_eq_ok_iff.1 hmajor
    · obtain ⟨_, rfl⟩ := hfirst.unique hplace
      exact numberOf_eq_ok_iff.1 hminor

/-! ## Arguments -/

/-- A direction is read from the word for it and from nothing else. -/
theorem Direction.ofText_eq_ok_iff {text : String} {direction : Direction} :
    Direction.ofText text = .ok direction ↔ text = direction.word := by
  rw [Direction.ofText]
  split
  · next hin => cases direction <;> simp [hin, Direction.word]
  · next hin =>
    split
    · next hout => cases direction <;> simp [hout, Direction.word]
    · next hout => cases direction <;> simp [hin, hout, Direction.word]

/-- A direction is read from an argument exactly if the argument has it. -/
theorem ofText_textOf_eq_ok_iff {direction : Direction} :
    Direction.ofText (element.textOf "direction") = .ok direction ↔ HasDirection element direction := by
  have hword : direction.word ≠ "" := by cases direction <;> decide
  exact Direction.ofText_eq_ok_iff.trans (textOf_eq_iff.trans (or_iff_left fun h => hword h.2))

/-- An argument is read exactly if it has a direction. -/
theorem exists_argument_eq_ok_iff :
    (∃ argument, Argument.ofElement element = .ok argument) ↔
      ∃ direction, HasDirection element direction := by
  rw [Argument.ofElement, exists_map_eq_ok_iff]
  exact exists_congr fun direction => ofText_textOf_eq_ok_iff

/-- An argument that is read is the one that its element describes. -/
theorem Argument.isRead_of_ofElement {argument : Argument} (h : Argument.ofElement element = .ok argument) :
    Argument.IsRead element argument := by
  obtain ⟨direction, hdirection, rfl⟩ := map_eq_ok_iff.1 h
  exact ⟨textOf_eq_iff.1 rfl, ofText_textOf_eq_ok_iff.1 hdirection, textOf_eq_iff.1 rfl⟩

/-! ## Actions -/

/-- An action is read exactly if each of its arguments has a direction. -/
theorem exists_action_eq_ok_iff :
    (∃ action, ScpdAction.ofElement element = .ok action) ↔
      ∀ k l argument, ItemAt element "argumentList" "argument" k l argument →
        ∃ direction, HasDirection argument direction := by
  rw [ScpdAction.ofElement, exists_map_eq_ok_iff, exists_mapM_eq_ok_iff]
  simp only [exists_argument_eq_ok_iff, mem_itemsOf_iff, forall_exists_index]
  exact ⟨fun h k l argument => h argument k l, fun h argument k l => h k l argument⟩

/-- An action that is read is the one that its element describes. -/
theorem ScpdAction.isRead_of_ofElement {action : ScpdAction}
    (h : ScpdAction.ofElement element = .ok action) : ScpdAction.IsRead element action := by
  obtain ⟨arguments, harguments, rfl⟩ := map_eq_ok_iff.1 h
  exact ⟨textOf_eq_iff.1 rfl,
    .of_forall₂ ((mapM_eq_ok_iff.1 harguments).imp fun _ _ => Argument.isRead_of_ofElement)⟩

/-- The inputs and the outputs of an action are its arguments. -/
theorem ScpdAction.isParted (action : ScpdAction) : action.IsParted := by
  have hother : ∀ argument : Argument,
      decide (argument.direction = .output) = !decide (argument.direction = .input) := by
    rintro ⟨_, direction, _⟩
    cases direction <;> rfl
  have houtputs : action.outputs = action.arguments.filter fun argument =>
      !decide (argument.direction = .input) := List.filter_congr fun argument _ => hother argument
  refine ⟨?_, fun argument hmem => ?_, fun argument hmem => ?_⟩
  · rw [houtputs]
    exact interleaves_filter _ action.arguments
  · exact of_decide_eq_true (List.mem_filter.1 hmem).2
  · exact of_decide_eq_true (List.mem_filter.1 hmem).2

/-! ## Services -/

/-- The events of a variable are sent if the attribute for them says so. -/
theorem sendsEvents_ofElement_iff : (StateVariable.ofElement element).sendsEvents = true ↔
    ∃ value, IsFirst (·.1 ≠ "sendEvents") element.tag.attributes ("sendEvents", value) ∧
      Text.upperAscii (Text.trim value) = "YES" := by
  have hyes : Text.upperAscii "yes" = "YES" := by decide
  simp only [← lookup_eq_some_iff_isFirst, ← hyes, ← Text.sameIgnoringCase_iff]
  rw [StateVariable.ofElement, Element.attribute?]
  cases element.tag.attributes.lookup "sendEvents" <;> simp

/-- A variable has the default that the first element for one says. -/
theorem default?_ofElement_iff {text : String} : (StateVariable.ofElement element).default? = some text ↔
    ∃ i field, element.IsFirstNamed "defaultValue" i field ∧ Text.trim (plainText field) = text := by
  have hdefault : (StateVariable.ofElement element).default? =
      (element.child? "defaultValue").map fun field => Text.trim (plainText field) := by
    change ((element.child? "defaultValue").map fun _ => element.textOf "defaultValue") = _
    rw [textOf_eq]
    cases element.child? "defaultValue" <;> rfl
  rw [hdefault, Option.map_eq_some_iff]
  simp only [Element.child?_eq_some_iff]
  exact ⟨fun ⟨field, ⟨i, hfirst⟩, htext⟩ => ⟨i, field, hfirst, htext⟩,
    fun ⟨i, field, hfirst, htext⟩ => ⟨field, ⟨i, hfirst⟩, htext⟩⟩

/-- The allowed values of a variable are those of its list that hold a text, in their order. -/
theorem lists_allowed (element : Element) : Lists (fun place text => ∃ i j item, place = [i, j] ∧
    ItemAt element "allowedValueList" "allowedValue" i j item ∧ HoldsText item ∧
      Text.trim (plainText item) = text) (StateVariable.ofElement element).allowed := by
  have hitems := ((lists_itemsOf element "allowedValueList" "allowedValue").filterMap (·.text?)).map
    Text.trim
  refine hitems.congr fun place text => ?_
  simp only [text?_eq_some_iff]
  constructor
  · rintro ⟨_, ⟨item, ⟨i, j, hplace, hitem⟩, hholds, rfl⟩, htext⟩
    exact ⟨i, j, item, hplace, hitem, hholds, htext⟩
  · rintro ⟨i, j, item, hplace, hitem, hholds, htext⟩
    exact ⟨_, ⟨item, ⟨i, j, hplace, hitem⟩, hholds, rfl⟩, htext⟩

/-- A state variable that is read is the one that its element describes. -/
theorem StateVariable.isRead_ofElement (element : Element) :
    StateVariable.IsRead element (StateVariable.ofElement element) where
  name := textOf_eq_iff.1 rfl
  dataType := textOf_eq_iff.1 rfl
  sendsEvents := sendsEvents_ofElement_iff
  default _ := default?_ofElement_iff
  allowed := lists_allowed element

/-- A search by name finds the first of each. -/
theorem findsFirst_find? {α : Type} (nameOf : α → String) (things : List α) :
    FindsFirst nameOf things fun name => things.find? (nameOf · == name) where
  some_iff _ _ := find?_eq_some_iff_isFirst
  none_iff name := by simp

/-- The description of a service is read from the root of a document. -/
theorem Scpd.ofBytes_eq_ok_iff {bytes : Bytes} {scpd : Scpd} :
    Scpd.ofBytes bytes = .ok scpd ↔
      ∃ root version actions, (Element.ofBytes? bytes = some root ∧ root.name = "scpd") ∧
        SpecVersion.ofElement root = .ok version ∧
        (itemsOf root "actionList" "action").mapM ScpdAction.ofElement = .ok actions ∧
        ⟨version, actions,
          (itemsOf root "serviceStateTable" "stateVariable").map StateVariable.ofElement⟩ = scpd := by
  simp only [Scpd.ofBytes, bind_eq_ok_iff, map_eq_ok_iff, rootOf_eq_ok_iff, exists_and_left]

/-- What is read from the root of a document is what the root says. -/
theorem Scpd.isRead {version : SpecVersion} {actions : List ScpdAction}
    (hversion : SpecVersion.ofElement root = .ok version)
    (hactions : (itemsOf root "actionList" "action").mapM ScpdAction.ofElement = .ok actions) :
    Scpd.IsRead root ⟨version, actions,
      (itemsOf root "serviceStateTable" "stateVariable").map StateVariable.ofElement⟩ where
  version := SpecVersion.isRead_of_ofElement hversion
  actions := .of_forall₂ ((mapM_eq_ok_iff.1 hactions).imp fun _ _ => ScpdAction.isRead_of_ofElement)
  stateVariables := .of_forall₂ <| by
    rw [List.forall₂_map_right_iff, List.forall₂_same]
    exact fun element _ => StateVariable.isRead_ofElement element
  parted action _ := action.isParted
  findAction := findsFirst_find? ScpdAction.name actions
  findVariable := findsFirst_find? StateVariable.name _

/-- A document is read as the description of a service exactly if it is well formed and its root is one.
What is read then is what the root says: nothing in its first lists is lost or comes at another place. -/
theorem reads_scpd_of_document (bytes : Bytes) :
    ((∃ scpd, Scpd.ofBytes bytes = .ok scpd) ↔
      ∃ root, Element.ofBytes? bytes = some root ∧ IsScpd root) ∧
    ∀ scpd, Scpd.ofBytes bytes = .ok scpd →
      ∃ root, Element.ofBytes? bytes = some root ∧ Scpd.IsRead root scpd := by
  refine ⟨⟨?_, ?_⟩, ?_⟩
  · rintro ⟨_, h⟩
    obtain ⟨root, version, actions, ⟨hroot, hname⟩, hversion, hactions, _⟩ := Scpd.ofBytes_eq_ok_iff.1 h
    refine ⟨root, hroot, hname, exists_version_eq_ok_iff.1 ⟨version, hversion⟩, fun i j action haction => ?_⟩
    exact exists_action_eq_ok_iff.1
      (exists_mapM_eq_ok_iff.1 ⟨actions, hactions⟩ action (mem_itemsOf_iff.2 ⟨i, j, haction⟩))
  · rintro ⟨root, hroot, h⟩
    obtain ⟨version, hversion⟩ := exists_version_eq_ok_iff.2 h.version
    have hactions : ∀ action ∈ itemsOf root "actionList" "action",
        ∃ read, ScpdAction.ofElement action = .ok read := by
      intro action hmem
      obtain ⟨i, j, haction⟩ := mem_itemsOf_iff.1 hmem
      exact exists_action_eq_ok_iff.2 (h.directions i j action haction)
    obtain ⟨actions, hactions⟩ := exists_mapM_eq_ok_iff.2 hactions
    exact ⟨_, Scpd.ofBytes_eq_ok_iff.2 ⟨root, version, actions, ⟨hroot, h.name⟩, hversion, hactions, rfl⟩⟩
  · intro scpd h
    obtain ⟨root, version, actions, ⟨hroot, _⟩, hversion, hactions, rfl⟩ := Scpd.ofBytes_eq_ok_iff.1 h
    exact ⟨root, hroot, Scpd.isRead hversion hactions⟩

/-- A document with two actions and two variables of one name, and with a second list of actions whose
direction is none: the second list does not matter, and the same action in the first one does. Of the allowed
values of the first variable one is an empty element. -/
theorem reads_scpd_of_document_repeated :
    let argument (name direction : String) : Tree :=
      .branch "argument" [.leaf "name" name, .leaf "direction" direction]
    let action (arguments : List Tree) : Tree :=
      .branch "action" [.leaf "name" "Get", .branch "argumentList" arguments]
    let sideways : Tree := action [argument "c" "sideways"]
    let actions : List Tree :=
      [action [argument "b" " out ", argument "a" "in", argument "d" "out"], .leaf "note" "", action []]
    let allowed : List Tree := ["TCP", "", " UDP "].map (.leaf "allowedValue")
    let trees : List Tree := [.branch "specVersion" [.leaf "major" " 1 "], .branch "actionList" actions,
      .branch "actionList" [sideways], .branch "serviceStateTable"
        [.branch "stateVariable" [.leaf "name" "V", .leaf "dataType" " string", .leaf "defaultValue" "",
            .branch "allowedValueList" allowed],
          .branch "stateVariable" [.leaf "name" "V"]]]
    let bytes (trees : List Tree) := utf8Bytes (Xml.writtenDeclaration ++ (Tree.branch "scpd" trees).written)
    (∃ scpd, Scpd.ofBytes (bytes trees) = .ok scpd ∧ scpd.version = ⟨1, 0⟩ ∧
      (scpd.actions.map fun action => (action.inputs.map (·.name), action.outputs.map (·.name))) =
        [(["a"], ["b", "d"]), ([], [])] ∧
      scpd.stateVariables = [⟨"V", "string", false, some "", ["TCP", "UDP"]⟩, ⟨"V", "", false, none, []⟩] ∧
      scpd.findVariable? "V" = some ⟨"V", "string", false, some "", ["TCP", "UDP"]⟩ ∧
      ∃ root, Element.ofBytes? (bytes trees) = some root ∧ Scpd.IsRead root scpd) ∧
    ¬ ∃ root, Element.ofBytes? (bytes [.branch "actionList" (actions ++ [sideways])]) = some root ∧
      IsScpd root := by
  intro argument action sideways actions allowed trees bytes
  have hread : ∀ trees, (Tree.branch "scpd" trees).isReadable = true →
      Element.ofBytes? (bytes trees) = some ⟨⟨"scpd", none, none, []⟩, Tree.nodes trees⟩ :=
    fun _ h => Tree.ofBytes?_written h
  constructor
  · have hsaid : ((Scpd.ofBytes (bytes trees)).map fun scpd => (scpd.version,
        (scpd.actions.map fun action => (action.inputs.map (·.name), action.outputs.map (·.name))),
          scpd.stateVariables)) = .ok (⟨1, 0⟩, [(["a"], ["b", "d"]), ([], [])],
            [⟨"V", "string", false, some "", ["TCP", "UDP"]⟩, ⟨"V", "", false, none, []⟩]) := by
      rewrite [Scpd.ofBytes, rootOf, hread trees (by decide +kernel)]
      decide +kernel
    obtain ⟨scpd, hscpd, hsaid⟩ := map_eq_ok_iff.1 hsaid
    obtain ⟨hversion, hrest⟩ := Prod.mk.inj hsaid
    obtain ⟨hactions, hvariables⟩ := Prod.mk.inj hrest
    have hfound : scpd.findVariable? "V" = some ⟨"V", "string", false, some "", ["TCP", "UDP"]⟩ := by
      rw [Scpd.findVariable?, hvariables]
      rfl
    exact ⟨scpd, hscpd, hversion, hactions, hvariables, hfound,
      (reads_scpd_of_document (bytes trees)).2 scpd hscpd⟩
  · rw [← (reads_scpd_of_document _).1]
    rintro ⟨scpd, hscpd⟩
    have hrefused : Scpd.ofBytes (bytes [.branch "actionList" (actions ++ [sideways])]) =
        .error (.invalidValue "direction" "sideways") := by
      rewrite [Scpd.ofBytes, rootOf, hread _ (by decide +kernel)]
      decide +kernel
    rw [hrefused] at hscpd
    cases hscpd

end NatGateway.Description
