import NatGateway.Proofs.Soap.Action

/-!
# Actions on the wire

What the receiver of a written action is told. If it is a document at all, the arguments come back
under their names, in order and with duplicates, and a text that was white space only comes back
empty. Names of ASCII letters, digits and marks are always names of markup; of other names the writer
accepts some that are none.
-/

namespace NatGateway.Soap

open NatGateway.Text (utf8Bytes)
open NatGateway.Xml

/-- What a reader is left with of a text: nothing of one that is white space only. -/
def keptText (text : String) : String := if text.toList.all isSpace = true then "" else text

/-- The text of an argument is what is left of it. -/
theorem argumentText_textNodes (name text : String) :
    Answer.argumentText name (textNodes text) = .ok (keptText text) := by
  unfold textNodes keptText
  split
  · rfl
  · simp [Answer.argumentText, Except.map]

/-- An element that holds a text is an argument. -/
theorem arguments_textElement (entry : String × String) (rest : List Node) :
    Answer.arguments (Content.textElementNode "" entry :: rest) =
      (Answer.arguments rest).map ((entry.1, keptText entry.2) :: ·) := by
  have hargument : Answer.argument ⟨entry.1, none, none, []⟩ (textNodes entry.2) =
      .ok (entry.1, keptText entry.2) := by
    simp [Answer.argument, argumentText_textNodes, Except.map]
  have hnode : Content.textElementNode "" entry =
      .element ⟨entry.1, none, none, []⟩ (textNodes entry.2) := rfl
  rw [hnode, Answer.arguments, hargument]
  rfl

/-- Elements that each hold a text are arguments, in their order. -/
theorem arguments_textElements (entries : List (String × String)) :
    Answer.arguments (entries.map (Content.textElementNode "")) =
      .ok (entries.map fun entry => (entry.1, keptText entry.2)) := by
  induction entries with
  | nil => rfl
  | cons entry rest ih =>
    rw [List.map_cons, arguments_textElement, ih]
    rfl

namespace Action

/-- What the receiver of an action is told. -/
def received (action : Action) : Answer where
  action := action.name
  uri := some action.uri
  entries := action.payload.entries.map fun entry => (entry.1, keptText entry.2)

/-- The element that an action is read back as tells its arguments. -/
theorem ofElement_readElement (action : Action) :
    Answer.ofElement action.readElement = .ok action.received := by
  simp only [Answer.ofElement, readElement, arguments_textElements]
  rfl

/-- An action that does not call itself a fault is held as an action. -/
theorem holding_readElement {action : Action} (h : action.name ≠ "Fault") :
    (Envelope.holding [action.readElement]).fault = none ∧
      (Envelope.holding [action.readElement]).action = some action.readElement := by
  have hname : (action.readElement.name == "Fault") = false := by
    simpa [readElement, Element.name, readTag] using h
  simp [Envelope.holding, bne, hname]

/-- An action that does not call itself a fault is no fault. -/
theorem result_holding {action : Action} (h : action.name ≠ "Fault") :
    (Envelope.holding [action.readElement]).result = .ok (some action.received) := by
  obtain ⟨hfault, haction⟩ := holding_readElement h
  rw [Envelope.result, hfault, haction]
  simp only [ofElement_readElement]
  rfl

/-- The receiver of a written action is told of it, if it is a document. -/
theorem result_decode_encode {action : Action} {text : String} (h : action.encode = .ok text)
    (hname : action.name ≠ "Fault") :
    (Envelope.decode (utf8Bytes text)).bind Envelope.result =
      if action.isRepresentable = true then .ok (some action.received) else .error .malformed := by
  rw [decode_encode h]
  split
  · exact result_holding hname
  · rfl

/-- An action that was written is a document exactly if its parts can stand in one. -/
theorem decode_encode_malformed_iff {action : Action} {text : String}
    (h : action.encode = .ok text) :
    (Envelope.decode (utf8Bytes text) = .error .malformed ↔ action.isRepresentable = false) ∧
      (action.isRepresentable = true →
        ∃ envelope, Envelope.decode (utf8Bytes text) = .ok envelope ∧
          ∃ element, (envelope.action = some element ∨
            envelope.fault = some (Fault.ofElement element)) ∧
              Answer.ofElement element = .ok action.received) := by
  rw [decode_encode h]
  cases hparts : action.isRepresentable with
  | false => simp
  | true =>
    refine ⟨by simp, fun _ => ⟨_, rfl, action.readElement, ?_, ofElement_readElement action⟩⟩
    cases hname : action.readElement.name == "Fault" with
    | false =>
      left
      simp [Envelope.holding, bne, hname]
    | true =>
      right
      simp [Envelope.holding, hname]

/-- Arguments with markup, a duplicate name and a letter outside ASCII in the name of the action. -/
theorem decode_encode_cafe :
    let action : Action := ⟨"urn:x", some "Café", .listed [("a", "<&>"), ("a", "]]>")]⟩
    ∃ text, action.encode = .ok text ∧
      (Envelope.decode (utf8Bytes text) = .error .malformed ↔ action.isRepresentable = false) ∧
        action.isRepresentable = true ∧ ∃ envelope, Envelope.decode (utf8Bytes text) = .ok envelope := by
  intro action
  have hwritten : action.encode = .ok (writtenEnvelope action.bodyText) :=
    encode_eq_ok_iff.2 ⟨by decide +kernel, rfl⟩
  have hparts : action.isRepresentable = true := by decide +kernel
  obtain ⟨hmalformed, hdecoded⟩ := decode_encode_malformed_iff hwritten
  obtain ⟨envelope, henvelope, _⟩ := hdecoded hparts
  exact ⟨_, hwritten, hmalformed, hparts, envelope, henvelope⟩

/-- The writer accepts a name that starts with an ordinal sign, which no name of markup may hold. -/
theorem encode_ordinal_malformed :
    let action : Action := ⟨"urn:x", some "Act", .listed [("ªb", "v")]⟩
    ∃ text, action.encode = .ok text ∧ Envelope.decode (utf8Bytes text) = .error .malformed := by
  intro action
  have hwritten : action.encode = .ok (writtenEnvelope action.bodyText) :=
    encode_eq_ok_iff.2 ⟨by decide +kernel, rfl⟩
  have hparts : action.isRepresentable = false := by decide +kernel
  refine ⟨_, hwritten, ?_⟩
  rw [decode_encode hwritten, hparts]
  rfl

/-! ## Names of ASCII characters -/

/-- An ASCII letter or digit, or one of the marks that names may hold. -/
def isAsciiNameChar (c : Char) : Bool :=
  c.isAlpha || c.isDigit || c == '_' || c == '-' || c == '.'

/-- A name that starts with an ASCII letter or an underscore and goes on with these, digits, hyphens
and points. -/
def isAsciiName (name : String) : Bool :=
  match name.toList with
  | [] => false
  | c :: rest => (c.isAlpha || c == '_') && rest.all isAsciiNameChar

/-- The writer accepts names of ASCII characters. -/
theorem isElementName_of_isAsciiName {name : String} (h : isAsciiName name = true) :
    isElementName name = true := by
  unfold isAsciiName at h
  split at h
  · cases h
  next c rest hname =>
    simp only [Bool.and_eq_true, List.all_eq_true, Bool.or_eq_true] at h
    obtain ⟨hc, hrest⟩ := h
    simp only [isElementName, hname, Bool.and_eq_true, List.all_eq_true, Bool.or_eq_true]
    refine ⟨?_, fun d hd => ?_⟩
    · rcases hc with hc | hc <;> simp [Text.isAlphabetic, hc]
    · have hchar := hrest d hd
      simp only [isAsciiNameChar, Bool.or_eq_true] at hchar
      rcases hchar with (((h | h) | h) | h) | h <;>
        simp [Text.isAlphanumeric, Text.isAlphabetic, Text.isNumeric, h]

/-- The ASCII characters of names are no colons, and may go on with a name of markup. -/
theorem isAsciiNameChar_isNameChar {c : Char} (h : isAsciiNameChar c = true) :
    (isNameChar c && c != ':') = true := by
  have hcolon : (c != ':') = true := by
    rw [bne_iff_ne]
    rintro rfl
    revert h
    decide
  simp only [isAsciiNameChar, Bool.or_eq_true] at h
  rcases h with (((h | h) | h) | h) | h <;> simp [isNameChar, isNameStart, h, hcolon]

/-- Names of ASCII characters are names of markup. -/
theorem isXmlName_of_isAsciiName {name : String} (h : isAsciiName name = true) :
    isXmlName name = true := by
  unfold isAsciiName at h
  split at h
  · cases h
  next c rest hname =>
    simp only [Bool.and_eq_true, List.all_eq_true] at h
    obtain ⟨hc, hrest⟩ := h
    have hstart : isNameStart c = true := by
      rcases (Bool.or_eq_true _ _).mp hc with hc | hc <;> simp [isNameStart, hc]
    have hhead : isAsciiNameChar c = true := by
      rcases (Bool.or_eq_true _ _).mp hc with hc | hc <;> simp [isAsciiNameChar, hc]
    simp only [isXmlName, hname, hstart, Bool.true_and]
    refine List.all_eq_true.2 fun d hd => isAsciiNameChar_isNameChar ?_
    rcases List.mem_cons.1 hd with rfl | hd
    · exact hhead
    · exact hrest d hd

/-- An action with names of ASCII characters is a document, unless its texts stand in the way. -/
theorem isRepresentable_of_isAsciiName {action : Action} (hname : isAsciiName action.name = true)
    (hkeys : ∀ entry ∈ action.payload.entries, isAsciiName entry.1 = true)
    (hempty : action.uri ≠ "") (huri : isXmlText action.uri = true)
    (hvalues : ∀ entry ∈ action.payload.entries, isXmlText entry.2 = true) :
    action.isRepresentable = true := by
  obtain ⟨c, rest, hchars, hc, _, hrest, _⟩ := isXmlName_cases (isXmlName_of_isAsciiName hname)
  have hnameChars : action.name.toList.all isNameChar = true := by
    rw [hchars, List.all_cons, isNameChar_of_isNameStart hc, Bool.true_and]
    exact List.all_eq_true.2 hrest
  have hempty : action.uri.isEmpty = false := by simpa using hempty
  simp only [isRepresentable, hnameChars, huri, hempty, Bool.not_false, Bool.true_and]
  refine List.all_eq_true.2 fun entry hentry => ?_
  rw [isXmlName_of_isAsciiName (hkeys entry hentry), hvalues entry hentry, Bool.and_self]

/-- An action under names of ASCII characters is written, and its receiver is told each argument, in
order and with duplicates; only a text that is white space comes back empty. -/
theorem received_of_isAsciiName (action : Action) (hname : isAsciiName action.name = true)
    (hfault : action.name ≠ "Fault")
    (hkeys : ∀ entry ∈ action.payload.entries, isAsciiName entry.1 = true)
    (hempty : action.uri ≠ "") (huri : isXmlText action.uri = true)
    (hvalues : ∀ entry ∈ action.payload.entries, isXmlText entry.2 = true) :
    ∃ text, action.encode = .ok text ∧
      (Envelope.decode (utf8Bytes text)).bind Envelope.result =
        .ok (some ⟨action.name, some action.uri,
          action.payload.entries.map fun entry =>
            (entry.1, if entry.2.toList.all isSpace = true then "" else entry.2)⟩) := by
  have hnames : action.hasElementNames = true := by
    simp only [hasElementNames, isElementName_of_isAsciiName hname, Bool.true_and]
    exact List.all_eq_true.2 fun entry hentry => isElementName_of_isAsciiName (hkeys entry hentry)
  have hwritten : action.encode = .ok (writtenEnvelope action.bodyText) :=
    encode_eq_ok_iff.2 ⟨hnames, rfl⟩
  refine ⟨_, hwritten, ?_⟩
  rw [result_decode_encode hwritten hfault,
    if_pos (isRepresentable_of_isAsciiName hname hkeys hempty huri hvalues)]
  rfl

/-- Markup in texts, a duplicate name, and a text that is white space. -/
theorem received_markup :
    let action : Action :=
      ⟨"urn:x?a&b", some "Set", .listed [("a", "<b/>&'\""), ("a", " \t"), ("_c-1.", "]]>")]⟩
    ∃ text, action.encode = .ok text ∧
      (Envelope.decode (utf8Bytes text)).bind Envelope.result =
        .ok (some ⟨"Set", some "urn:x?a&b", [("a", "<b/>&'\""), ("a", ""), ("_c-1.", "]]>")]⟩) :=
  received_of_isAsciiName
    ⟨"urn:x?a&b", some "Set", .listed [("a", "<b/>&'\""), ("a", " \t"), ("_c-1.", "]]>")]⟩
    (by decide) (by decide) (by decide) (by decide) (by decide) (by decide)

end Action

end NatGateway.Soap
