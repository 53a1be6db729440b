import NatGateway.Proofs.Result
import NatGateway.Proofs.Soap.Faults
import NatGateway.Proofs.Xml.Attributes

/-!
# The encoding style of an envelope

What an envelope tells as its encoding style when the attributes of its root have no order. They are kept
under their local names, no two of which are the same, and may be gone through in any order; the first one
whose name ends like that of the style is taken. So every value of an attribute with such a name may be
told, and nothing else. The style is one and the same in all orders, and that of the attribute with just
this name if there is one, exactly if all those attributes have the same value. That cannot go wrong with
one such attribute, but a longer name with the same ending may stand for the style as well.
-/

namespace NatGateway.Xml

/-- An element whose attributes are gone through in an order of their own. -/
def Element.withAttributes (element : Element) (attributes : List (String × String)) : Element :=
  ⟨{ element.tag with attributes := attributes }, element.children⟩

end NatGateway.Xml

namespace NatGateway.Soap.Envelope

open NatGateway.Text (Bytes utf8Bytes)
open NatGateway.Xml

/-! ## Orders of attributes -/

/-- Whether the name of an attribute ends like that of the encoding style. -/
def namesStyle (attr : String × String) : Bool := Text.endsWith attr.1 "encodingStyle"

/-- The value of the first attribute whose name ends like that of the encoding style. -/
def styleOf (attributes : List (String × String)) : Option String :=
  (attributes.find? namesStyle).map (·.2)

variable {attributes order : List (String × String)} {style : String}

/-- The name of the style ends like itself. -/
theorem namesStyle_encodingStyle (style : String) : namesStyle ("encodingStyle", style) = true := by
  change Text.endsWith "encodingStyle" "encodingStyle" = true
  decide

/-- A style that is told is the value of an attribute. -/
theorem exists_of_styleOf (h : styleOf attributes = some style) :
    ∃ attr ∈ attributes, namesStyle attr = true ∧ attr.2 = style := by
  obtain ⟨attr, hfind, hvalue⟩ := Option.map_eq_some_iff.1 h
  exact ⟨attr, List.mem_of_find?_eq_some hfind, List.find?_some hfind, hvalue⟩

/-- No style is told exactly if no attribute is named like it. -/
theorem styleOf_eq_none_iff :
    styleOf attributes = none ↔ ∀ attr ∈ attributes, ¬ namesStyle attr = true := by
  rw [styleOf, Option.map_eq_none_iff, List.find?_eq_none]

/-- Any attribute may be gone through first. -/
theorem exists_order_styleOf {attr : String × String} (hmem : attr ∈ attributes)
    (hnames : namesStyle attr = true) : ∃ order, order.Perm attributes ∧ styleOf order = some attr.2 := by
  obtain ⟨before, after, rfl⟩ := List.append_of_mem hmem
  refine ⟨attr :: (before ++ after), List.perm_middle.symm, ?_⟩
  rw [styleOf, List.find?_cons_of_pos hnames, Option.map_some]

/-- The attributes that are named like the style all have the same value. -/
def AgreeOnStyle (attributes : List (String × String)) : Prop :=
  ∀ first ∈ attributes, ∀ second ∈ attributes, namesStyle first = true → namesStyle second = true →
    first.2 = second.2

/-- In every order the style is told that any of the attributes has, if they agree. -/
theorem styleOf_of_agreeOnStyle (hagree : AgreeOnStyle attributes) (horder : order.Perm attributes)
    {attr : String × String} (hmem : attr ∈ attributes) (hnames : namesStyle attr = true) :
    styleOf order = some attr.2 := by
  cases hstyle : styleOf order with
  | none => exact absurd hnames (styleOf_eq_none_iff.1 hstyle attr (horder.mem_iff.2 hmem))
  | some style =>
    obtain ⟨other, hother, hsame, rfl⟩ := exists_of_styleOf hstyle
    rw [hagree other (horder.mem_iff.1 hother) attr hmem hsame hnames]

/-- All orders tell the same style exactly if the attributes agree on it. -/
theorem forall_styleOf_eq_iff :
    (∀ order, order.Perm attributes → styleOf order = styleOf attributes) ↔ AgreeOnStyle attributes := by
  constructor
  · intro hall first hfirst second hsecond hnames hnames'
    obtain ⟨order, horder, hstyle⟩ := exists_order_styleOf hfirst hnames
    obtain ⟨order', horder', hstyle'⟩ := exists_order_styleOf hsecond hnames'
    rw [hall order horder] at hstyle
    rw [hall order' horder'] at hstyle'
    exact Option.some.inj (hstyle.symm.trans hstyle')
  · intro hagree order horder
    cases hstyle : styleOf attributes with
    | none =>
      rw [styleOf_eq_none_iff] at hstyle ⊢
      exact fun attr hattr => hstyle attr (horder.mem_iff.1 hattr)
    | some style =>
      obtain ⟨attr, hmem, hnames, rfl⟩ := exists_of_styleOf hstyle
      exact styleOf_of_agreeOnStyle hagree horder hmem hnames

/-! ## Documents -/

/-- The attributes of the root of a document; none if there is no root. -/
def rootAttributes (bytes : Bytes) : List (String × String) :=
  ((Element.ofBytes? bytes).map (·.tag.attributes)).getD []

/-- The envelopes that bytes may be decoded to, where the attributes of the root may be gone through in
any order. -/
inductive MayDecode (bytes : Bytes) : Envelope → Prop
  | blank (h : bytes.all isBlankByte = true) : MayDecode bytes .empty
  | ordered {root : Element} {order : List (String × String)} {envelope : Envelope}
      (hblank : bytes.all isBlankByte = false) (hroot : Element.ofBytes? bytes = some root)
      (horder : order.Perm root.tag.attributes)
      (hread : ofElement (root.withAttributes order) = .ok envelope) : MayDecode bytes envelope

/-- The order of the attributes matters to the style of an envelope, and to nothing else of it. -/
theorem ofElement_withAttributes (root : Element) (order : List (String × String)) :
    ofElement (root.withAttributes order) =
      (ofElement root).map fun envelope => { envelope with encodingStyle := styleOf order } := by
  have hname : (root.withAttributes order).name = root.name := rfl
  have hbody : (root.withAttributes order).child? "Body" = root.child? "Body" := rfl
  unfold ofElement
  rw [hname, hbody]
  split
  · rfl
  · cases root.child? "Body" with
    | none => rfl
    | some body => rfl

/-- The style that is told of a root is that of its attributes in their own order. -/
theorem encodingStyle_of_ofElement {root : Element} {envelope : Envelope}
    (h : ofElement root = .ok envelope) : envelope.encodingStyle = styleOf root.tag.attributes := by
  have hsame : ofElement root = _ := ofElement_withAttributes root root.tag.attributes
  rw [hsame] at h
  obtain ⟨-, -, rfl⟩ := map_eq_ok_iff.1 h
  rfl

variable {bytes : Bytes} {envelope other : Envelope}

/-- Bytes are decoded with the style that their own order tells. -/
theorem encodingStyle_of_decode (h : decode bytes = .ok envelope) :
    envelope.encodingStyle = styleOf (rootAttributes bytes) := by
  unfold decode at h
  split at h
  · next hblank =>
    cases h
    rw [rootAttributes, ofBytes?_of_blank hblank]
    rfl
  · cases hroot : Element.ofBytes? bytes with
    | none => rw [hroot] at h; cases h
    | some root =>
      rw [hroot] at h
      rw [rootAttributes, hroot]
      exact encodingStyle_of_ofElement h

/-- Bytes may be decoded to what they are decoded to, with the style that some order tells. -/
theorem mayDecode_iff (h : decode bytes = .ok envelope) :
    MayDecode bytes other ↔ ∃ order, order.Perm (rootAttributes bytes) ∧
      other = { envelope with encodingStyle := styleOf order } := by
  constructor
  · intro hother
    cases hother with
    | blank hblank =>
      rw [decode, if_pos hblank] at h
      cases h
      rw [rootAttributes, ofBytes?_of_blank hblank]
      exact ⟨[], List.Perm.refl [], rfl⟩
    | @ordered root order _ hblank hroot horder hread =>
      rw [decode, hblank, if_neg Bool.false_ne_true, hroot] at h
      dsimp only at h
      rw [ofElement_withAttributes, h] at hread
      cases hread
      refine ⟨order, ?_, rfl⟩
      rw [rootAttributes, hroot]
      exact horder
  · rintro ⟨order, horder, rfl⟩
    cases hblank : bytes.all isBlankByte with
    | true =>
      rw [decode, if_pos hblank] at h
      cases h
      rw [rootAttributes, ofBytes?_of_blank hblank] at horder
      cases horder.eq_nil
      exact .blank hblank
    | false =>
      rw [decode, hblank, if_neg Bool.false_ne_true] at h
      cases hroot : Element.ofBytes? bytes with
      | none => rw [hroot] at h; cases h
      | some root =>
        rw [hroot] at h
        dsimp only at h
        rw [rootAttributes, hroot] at horder
        refine .ordered hblank hroot horder ?_
        rw [ofElement_withAttributes, h]
        rfl

/-- The names of the attributes of a root are distinct. -/
theorem nodup_rootAttributes (bytes : Bytes) : ((rootAttributes bytes).map (·.1)).Nodup := by
  rw [rootAttributes]
  cases hroot : Element.ofBytes? bytes with
  | none => exact List.nodup_nil
  | some root => exact Element.nodup_attributes_of_ofBytes? hroot

/-- The styles that may be told are the values of the attributes that are named like the style. -/
theorem exists_mayDecode_iff (h : decode bytes = .ok envelope) :
    (∃ other, MayDecode bytes other ∧ other.encodingStyle = some style) ↔
      ∃ attr ∈ rootAttributes bytes, namesStyle attr = true ∧ attr.2 = style := by
  simp only [mayDecode_iff h]
  constructor
  · rintro ⟨_, ⟨order, horder, rfl⟩, hstyle⟩
    obtain ⟨attr, hmem, hattr⟩ := exists_of_styleOf hstyle
    exact ⟨attr, horder.mem_iff.1 hmem, hattr⟩
  · rintro ⟨attr, hmem, hnames, rfl⟩
    obtain ⟨order, horder, hstyle⟩ := exists_order_styleOf hmem hnames
    exact ⟨_, ⟨order, horder, rfl⟩, hstyle⟩

/-- Of every document that is decoded the attributes of the root have distinct names. It may be decoded to
envelopes that differ in their styles only, which are the values of the attributes whose names end like
that of the style. The style is the same in all orders of the attributes, and the value of the attribute
with just this name if there is one, exactly if all these values are the same. -/
theorem encodingStyle_settled_iff (h : decode bytes = .ok envelope) :
    ((rootAttributes bytes).map (·.1)).Nodup ∧
      (∀ other, MayDecode bytes other →
        other = { envelope with encodingStyle := other.encodingStyle }) ∧
      (∀ style, (∃ other, MayDecode bytes other ∧ other.encodingStyle = some style) ↔
        ∃ attr ∈ rootAttributes bytes, namesStyle attr = true ∧ attr.2 = style) ∧
      ((∀ other, MayDecode bytes other → other.encodingStyle = envelope.encodingStyle) ∧
          (∀ style, ("encodingStyle", style) ∈ rootAttributes bytes →
            envelope.encodingStyle = some style) ↔
        AgreeOnStyle (rootAttributes bytes)) := by
  refine ⟨nodup_rootAttributes bytes, ?_, fun style => exists_mayDecode_iff h, ?_⟩
  · intro other hother
    obtain ⟨order, -, rfl⟩ := (mayDecode_iff h).1 hother
    rfl
  · rw [← forall_styleOf_eq_iff, encodingStyle_of_decode h]
    constructor
    · rintro ⟨hall, -⟩ order horder
      exact hall _ ((mayDecode_iff h).2 ⟨order, horder, rfl⟩)
    · intro hall
      refine ⟨fun other hother => ?_, fun style hstyle => ?_⟩
      · obtain ⟨order, horder, rfl⟩ := (mayDecode_iff h).1 hother
        exact hall order horder
      · exact styleOf_of_agreeOnStyle (forall_styleOf_eq_iff.1 hall) (List.Perm.refl _) hstyle
          (namesStyle_encodingStyle style)

/-- An envelope with nothing in its body and with attributes that have no prefix, as a document. -/
def attributedEnvelope (attributes : List (String × String)) : Bytes :=
  utf8Bytes (writtenDeclaration ++ enclosed "Envelope" attributes (enclosed "Body" [] ""))

/-- Such a document is decoded with the attributes that its tag denotes. -/
theorem decode_attributedEnvelope {attributes : List Attribute} {kept : List (String × String)}
    (hattributes : ∀ attr ∈ attributes, attr.name.isReadable = true)
    (hvalues : attributes.all (isXmlText ·.value) = true)
    (hresolve : Tag.resolve? .base ⟨none, "Envelope"⟩ attributes =
      some (⟨"Envelope", none, none, kept⟩, .base)) :
    decode (attributedEnvelope (attributes.map Attribute.written)) = .ok ⟨styleOf kept, none, none⟩ ∧
      rootAttributes (attributedEnvelope (attributes.map Attribute.written)) = kept := by
  have hbound : Bindings.base.lookup "" = some "" := rfl
  have hbody : Content.ReadsAs .base (enclosed (QName.written ⟨none, "Body"⟩) ([].map Attribute.written) "")
      [.element ⟨"Body", none, none, []⟩ []] true :=
    (Content.readsAs_empty .base).enclosed (by decide) (by simp) rfl (Content.resolve?_plain hbound)
  have hname : (⟨none, "Envelope"⟩ : QName).isReadable = true := by decide
  have hroot : Element.ofBytes? (attributedEnvelope (attributes.map Attribute.written)) =
      some ⟨⟨"Envelope", none, none, kept⟩, [.element ⟨"Body", none, none, []⟩ []]⟩ :=
    Element.ofBytes?_enclosed hname hattributes hvalues hresolve hbody
  have hblank : (attributedEnvelope (attributes.map Attribute.written)).all isBlankByte = false := by
    rw [attributedEnvelope, Text.utf8Bytes_append, List.all_append]
    rfl
  rw [rootAttributes, decode, hblank, hroot]
  exact ⟨rfl, rfl⟩

/-- A document with the style beside an attribute whose name only begins like it. -/
def notedEnvelope : Bytes := attributedEnvelope [("encodingStyleNote", "b"), ("encodingStyle", "a")]

/-- The style of such a document is told in all orders. -/
theorem encodingStyle_settled_noted :
    decode notedEnvelope = .ok ⟨some "a", none, none⟩ ∧
      ∀ other, MayDecode notedEnvelope other → other.encodingStyle = some "a" := by
  obtain ⟨hdecode, hattributes⟩ : decode notedEnvelope = .ok ⟨some "a", none, none⟩ ∧
      rootAttributes notedEnvelope = [("encodingStyleNote", "b"), ("encodingStyle", "a")] :=
    @decode_attributedEnvelope
      [⟨⟨none, "encodingStyleNote"⟩, "b"⟩, ⟨⟨none, "encodingStyle"⟩, "a"⟩] _ (by decide) rfl rfl
  refine ⟨hdecode, ((encodingStyle_settled_iff hdecode).2.2.2.2 ?_).1⟩
  rw [hattributes]
  unfold AgreeOnStyle
  decide

/-- A document with the style behind an attribute with a longer name of the same ending. -/
def shadowedEnvelope : Bytes := attributedEnvelope [("xencodingStyle", "b"), ("encodingStyle", "a")]

/-- The value of the longer name is told, although there is an attribute with just the name of the style,
and in another order the value of that one is told. -/
theorem not_encodingStyle_settled :
    decode shadowedEnvelope = .ok ⟨some "b", none, none⟩ ∧
      ("encodingStyle", "a") ∈ rootAttributes shadowedEnvelope ∧
      ∃ other, MayDecode shadowedEnvelope other ∧ other.encodingStyle = some "a" := by
  obtain ⟨hdecode, hattributes⟩ : decode shadowedEnvelope = .ok ⟨some "b", none, none⟩ ∧
      rootAttributes shadowedEnvelope = [("xencodingStyle", "b"), ("encodingStyle", "a")] :=
    @decode_attributedEnvelope
      [⟨⟨none, "xencodingStyle"⟩, "b"⟩, ⟨⟨none, "encodingStyle"⟩, "a"⟩] _ (by decide) rfl rfl
  have hmem : ("encodingStyle", "a") ∈ rootAttributes shadowedEnvelope := by
    rw [hattributes]
    exact List.mem_cons_of_mem _ List.mem_cons_self
  exact ⟨hdecode, hmem,
    (exists_mayDecode_iff hdecode).2 ⟨("encodingStyle", "a"), hmem, namesStyle_encodingStyle "a", rfl⟩⟩

end NatGateway.Soap.Envelope
