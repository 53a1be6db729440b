import NatGateway.Proofs.Soap.Envelope
import NatGateway.Soap.Action

/-!
# Written actions

What is read from an action that was written. The writer asks of names that they consist of letters,
numbers and a few marks, which is enough for a name to stay in its tag but not for it to be a name of
markup; of the namespace and of the texts it asks nothing. So an action that was written is read back
exactly if its parts can stand in a document, and is no document otherwise.
-/

namespace NatGateway.Soap

open NatGateway.Text (utf8Bytes isAlphanumeric)
open NatGateway.Xml

/-! ## What the writer asks of names -/

/-- A character that the writer accepts in a name. -/
def isElementChar (c : Char) : Bool := isAlphanumeric c || c == '_' || c == '-' || c == '.'

/-- A character that the writer accepts does not end a tag or change its kind. -/
theorem isElementChar_staysInTag {c : Char} (h : isElementChar c = true) :
    (!isSpace c && c != '>' && c != '/' && c != '?' && c != '!' && c != ':') = true := by
  have hne : ∀ d, isElementChar d = false → c ≠ d := by
    rintro d hd rfl
    rw [h] at hd
    cases hd
  have hspace : isSpace c = false := by
    simp only [isSpace, Bool.or_eq_false_iff, beq_eq_false_iff_ne]
    exact ⟨⟨⟨hne ' ' (by decide), hne '\t' (by decide)⟩, hne '\n' (by decide)⟩, hne '\r' (by decide)⟩
  simp only [hspace, Bool.not_false, Bool.true_and, Bool.and_eq_true, bne_iff_ne]
  exact ⟨⟨⟨⟨hne '>' (by decide), hne '/' (by decide)⟩, hne '?' (by decide)⟩, hne '!' (by decide)⟩,
    hne ':' (by decide)⟩

/-- A name that the writer accepts is not empty, and each of its characters is accepted. -/
theorem Action.isElementName_cases {name : String} (h : Action.isElementName name = true) :
    name.isEmpty = false ∧ ∀ c ∈ name.toList, isElementChar c = true := by
  unfold Action.isElementName at h
  split at h
  · cases h
  next c rest hname =>
    simp only [Bool.and_eq_true, List.all_eq_true, Bool.or_eq_true] at h
    obtain ⟨hc, hrest⟩ := h
    refine ⟨?_, ?_⟩
    · rw [Bool.eq_false_iff, ne_eq, String.isEmpty_iff, ← String.toList_eq_nil_iff, hname]
      exact List.cons_ne_nil c rest
    · intro d hd
      rw [hname] at hd
      rcases List.mem_cons.1 hd with rfl | hd
      · rcases hc with hletter | hmark
        · simp [isElementChar, isAlphanumeric, hletter]
        · simp [isElementChar, hmark]
      · rcases hrest d hd with ((h | h) | h) | h <;> simp [isElementChar, h]

/-- A name that the writer accepts stays in its tag. -/
theorem Action.isElementName_staysInTag {name : String} (h : Action.isElementName name = true) :
    staysInTag name = true := by
  obtain ⟨hempty, hall⟩ := Action.isElementName_cases h
  simp only [staysInTag, hempty, Bool.not_false, Bool.true_and]
  exact List.all_eq_true.2 fun c hc => isElementChar_staysInTag (hall c hc)

namespace Action

/-- The content of the body that an action is written in. -/
def bodyText (action : Action) : String :=
  enclosed ("u:" ++ action.name) [("xmlns:u", action.uri)]
    (String.join (action.payload.entries.map fun entry => textElement entry.1 entry.2))

/-- Whether the writer accepts the names of an action. -/
def hasElementNames (action : Action) : Bool :=
  isElementName action.name && action.payload.entries.all fun entry => isElementName entry.1

/-- An action is written exactly if the writer accepts its names. -/
theorem encode_eq_ok_iff {action : Action} {text : String} :
    action.encode = .ok text ↔
      action.hasElementNames = true ∧ text = writtenEnvelope action.bodyText := by
  unfold encode hasElementNames
  cases hname : isElementName action.name with
  | false => simp
  | true =>
    simp only [Bool.not_true, Bool.false_eq_true, if_false, Bool.true_and, List.all_eq_true]
    split
    · next entry hfind =>
      obtain ⟨hbad, hmem⟩ := And.intro (List.find?_some hfind) (List.mem_of_find?_eq_some hfind)
      constructor
      · intro h
        cases h
      · rintro ⟨hall, _⟩
        simp [hall entry hmem] at hbad
    · next hfind =>
      have hall : ∀ entry ∈ action.payload.entries, isElementName entry.1 = true := by
        simpa using hfind
      simp only [Except.ok.injEq, bodyText]
      exact ⟨fun h => ⟨hall, h.symm⟩, fun h => h.2.symm⟩

/-! ## Reading a written action -/

/-- The name of the element that an action is written as. -/
def qualifiedName (action : Action) : QName := ⟨some "u", action.name⟩

/-- The tag of the element that an action is read back as. -/
def readTag (action : Action) : Tag := ⟨action.name, some "u", some action.uri, []⟩

/-- The element that an action is read back as. -/
def readElement (action : Action) : Element :=
  ⟨action.readTag, action.payload.entries.map (Content.textElementNode "")⟩

/-- Whether the parts of an action can stand in a document. Its own name is written behind a prefix,
so it need not start like a name. -/
def isRepresentable (action : Action) : Bool :=
  (action.name.toList.all isNameChar) &&
    (isXmlText action.uri && !action.uri.isEmpty) &&
      action.payload.entries.all fun entry => isXmlName entry.1 && isXmlText entry.2

/-- The tags of a written action stand around its arguments. -/
theorem bodyText_toList (action : Action) (rest : List Char) :
    action.bodyText.toList ++ rest =
      (startTag action.qualifiedName.written
          ([⟨⟨some "xmlns", "u"⟩, action.uri⟩].map Attribute.written)).toList ++
        ((String.join (action.payload.entries.map fun entry =>
            textElement entry.1 entry.2)).toList ++
          ((closingTag action.qualifiedName.written).toList ++ rest)) := by
  have hname : action.qualifiedName.written = "u:" ++ action.name := rfl
  simp only [bodyText, enclosed, String.toList_append, List.append_assoc, hname]
  rfl

/-- The tag of an action declares its namespace, which must not be empty. -/
theorem resolve?_action (action : Action) :
    Tag.resolve? bodyBindings action.qualifiedName [⟨⟨some "xmlns", "u"⟩, action.uri⟩] =
      if action.uri.isEmpty = true then none
      else some (action.readTag, ("u", action.uri) :: bodyBindings) := by
  cases hempty : action.uri.isEmpty with
  | true => simp [Tag.resolve?, separate, Attribute.declaration, hempty]
  | false =>
    have hne : action.uri ≠ "" := by simpa using hempty
    simp [Tag.resolve?, separate, Attribute.declaration, hne, Bindings.uri?, qualifiedName, readTag]

/-- The name of an action can be read behind its prefix if all its characters are of names. -/
theorem qualifiedName_isReadable {action : Action} (h : action.hasElementNames = true) :
    action.qualifiedName.isReadable = action.name.toList.all isNameChar := by
  obtain ⟨hname, _⟩ := (Bool.and_eq_true _ _).mp h
  obtain ⟨hempty, hchars⟩ := isElementName_cases hname
  have hcolon : ∀ c ∈ action.name.toList, (c != ':') = true := fun c hc =>
    ((Bool.and_eq_true _ _).mp (isElementChar_staysInTag (hchars c hc))).2
  simp only [qualifiedName, QName.isReadable, hempty, Bool.not_false, Bool.and_true,
    show isXmlName "u" = true from rfl, Bool.true_and]
  rw [Bool.eq_iff_iff, List.all_eq_true, List.all_eq_true]
  exact forall₂_congr fun c hc => by rw [hcolon c hc, Bool.and_true]

/-- An action is refused if a character of its name is in no name. -/
theorem read_bodyText_badName {content : Content} {action : Action}
    (h : action.hasElementNames = true) (hbad : action.name.toList.all isNameChar = false)
    (rest : List Char) :
    content.read .v10 [] (.ofChars (action.bodyText.toList ++ rest)) = none := by
  obtain ⟨hname, _⟩ := (Bool.and_eq_true _ _).mp h
  obtain ⟨_, hchars⟩ := isElementName_cases hname
  obtain ⟨d, hd, hdbad⟩ := List.all_eq_false.1 hbad
  have hwritten : action.qualifiedName.written.toList = 'u' :: ':' :: action.name.toList := by
    simp [qualifiedName, QName.written]
  rw [bodyText_toList, startTag_toList, hwritten]
  simp only [List.cons_append, List.append_assoc]
  rw [← List.cons_append]
  refine Content.read_startTag_badName (by decide)
    (Or.inr ⟨d, List.mem_cons_of_mem ':' hd, by simpa using hdbad⟩) ?_ _
  intro c hc
  rcases List.mem_cons.1 hc with rfl | hc
  · decide
  · have hstays := isElementChar_staysInTag (hchars c hc)
    simp only [Bool.and_eq_true, Bool.not_eq_true', bne_iff_ne] at hstays
    obtain ⟨⟨⟨⟨⟨hspace, hend⟩, hslash⟩, _⟩, _⟩, _⟩ := hstays
    exact ⟨hspace, hend, hslash⟩

/-- The arguments of a written action are read one by one wherever the default namespace is the empty
one. -/
theorem readsAs_arguments {action : Action} (h : action.hasElementNames = true) {bindings : Bindings}
    (hbound : bindings.lookup "" = some "") :
    Content.ReadsAs bindings
      (String.join (action.payload.entries.map fun entry => textElement entry.1 entry.2))
      (action.payload.entries.map (Content.textElementNode ""))
      (action.payload.entries.all fun entry => isXmlName entry.1 && isXmlText entry.2) := by
  obtain ⟨_, hkeys⟩ := (Bool.and_eq_true _ _).mp h
  have hstays : ∀ entry ∈ action.payload.entries, staysInTag entry.1 = true := fun entry hentry =>
    isElementName_staysInTag (List.all_eq_true.1 hkeys entry hentry)
  rintro innermost outer rest rfl
  exact Content.read_textElements hbound hstays rest

/-- An action is read in the body of an envelope exactly if its parts can stand in a document. -/
theorem readsAs_bodyText {action : Action} (h : action.hasElementNames = true) :
    Content.ReadsAs bodyBindings action.bodyText [action.readElement.node] action.isRepresentable := by
  cases hname : action.name.toList.all isNameChar with
  | false =>
    intro innermost outer rest _
    rw [read_bodyText_badName h hname]
    simp [isRepresentable, hname]
  | true =>
    have hreadable : action.qualifiedName.isReadable = true :=
      (qualifiedName_isReadable h).trans hname
    have hattributes : ∀ attr ∈ [(⟨⟨some "xmlns", "u"⟩, action.uri⟩ : Attribute)],
        attr.name.isReadable = true := by
      intro attr hattr
      rw [List.mem_singleton.1 hattr]
      exact show (⟨some "xmlns", "u"⟩ : QName).isReadable = true by decide
    have hresolve := resolve?_action action
    rw [isRepresentable, hname, Bool.true_and]
    cases huri : isXmlText action.uri with
    | false =>
      exact Content.readsAs_enclosed_of_refused hreadable hattributes _ (.inl (by simpa using huri))
    | true =>
      cases hempty : action.uri.isEmpty with
      | true =>
        rw [hempty, if_pos rfl] at hresolve
        exact Content.readsAs_enclosed_of_refused hreadable hattributes _ (.inr hresolve)
      | false =>
        rw [hempty, if_neg Bool.false_ne_true] at hresolve
        exact (readsAs_arguments h rfl).enclosed hreadable hattributes (by simpa using huri) hresolve

/-- A written action is decoded exactly if its parts can stand in a document. -/
theorem decode_encode {action : Action} {text : String} (h : action.encode = .ok text) :
    Envelope.decode (utf8Bytes text) =
      if action.isRepresentable = true then .ok (Envelope.holding [action.readElement])
      else .error .malformed := by
  obtain ⟨hnames, rfl⟩ := encode_eq_ok_iff.1 h
  exact Envelope.decode_writtenEnvelope (readsAs_bodyText hnames)

end Action

end NatGateway.Soap
