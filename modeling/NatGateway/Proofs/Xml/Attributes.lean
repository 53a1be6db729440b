import NatGateway.Xml.Document

/-!
# Attributes of a root

Where the tag of a root comes from. Reading content keeps the tags of the elements that are open and that
of the first one that was closed; a step adds none to them but one that a start tag denotes. So the root of
every document has such a tag, and its attributes have distinct local names: a tag that gives one of them
twice keeps the last value only.
-/

namespace NatGateway.Xml

/-! ## What a start tag denotes -/

/-- Whether a tag is one that a start tag denotes somewhere. -/
def Tag.IsResolved (tag : Tag) : Prop :=
  ∃ parent name attributes bindings, Tag.resolve? parent name attributes = some (tag, bindings)

/-- Putting a value under a key keeps the keys distinct. -/
theorem nodup_setAttribute {attributes : List (String × String)} (h : (attributes.map (·.1)).Nodup)
    (name value : String) : ((setAttribute attributes name value).map (·.1)).Nodup := by
  rw [setAttribute, List.map_append, List.nodup_append]
  refine ⟨h.sublist (List.filter_sublist.map _), List.pairwise_singleton _ name, ?_⟩
  intro kept hkept other hother
  obtain ⟨attr, hattr, rfl⟩ := List.mem_map.1 hkept
  rw [List.mem_singleton.1 hother]
  exact bne_iff_ne.1 (List.mem_filter.1 hattr).2

/-- The attributes of a tag that a start tag denotes have distinct names. -/
theorem Tag.IsResolved.nodup {tag : Tag} (h : tag.IsResolved) : (tag.attributes.map (·.1)).Nodup := by
  obtain ⟨parent, name, attributes, bindings, hresolve⟩ := h
  have hfold : ∀ (attributes : List Attribute) (kept : List (String × String)),
      (kept.map (·.1)).Nodup → ((attributes.foldl
        (fun kept attr => setAttribute kept attr.name.name attr.value) kept).map (·.1)).Nodup := by
    intro attributes
    induction attributes with
    | nil => exact fun kept hkept => hkept
    | cons attr rest ih => exact fun kept hkept => ih _ (nodup_setAttribute hkept attr.name.name attr.value)
  obtain ⟨⟨own, proper⟩, -, hproper⟩ := Option.bind_eq_some_iff.1 hresolve
  obtain ⟨uri, -, htag⟩ := Option.bind_eq_some_iff.1 hproper
  split at htag
  · cases htag
    exact hfold proper [] List.nodup_nil
  · cases htag

/-! ## What a step does to the tags -/

namespace Content

/-- The tags of the open elements and of the first outermost element that was closed. -/
def tags (content : Content) : List Tag :=
  content.openElements.map (·.tag) ++ (content.root.map (·.tag)).toList

variable {version : Version} {entities : Entities} {content next : Content}

/-- A node beside the elements adds no tag. -/
@[simp] theorem tags_add (content : Content) (node : Node) : (content.add node).tags = content.tags := by
  obtain ⟨openElements, root, pending, blank⟩ := content
  cases openElements with
  | nil => rfl
  | cons innermost outer => rfl

/-- The end of a text adds no tag. -/
@[simp] theorem tags_endText (content : Content) : content.endText.tags = content.tags := by
  unfold endText
  split
  · rfl
  · rw [tags_add]
    rfl

/-- A character of a text adds no tag. -/
@[simp] theorem tags_push (content : Content) (c : Char) : (content.push c).tags = content.tags := rfl

/-- A complete element adds its own tag at most. -/
theorem mem_tags_addElement {element : Element} {tag : Tag} (h : tag ∈ (content.addElement element).tags) :
    tag = element.tag ∨ tag ∈ content.tags := by
  unfold addElement at h
  split at h
  · next hopen =>
    simp only [tags, List.mem_append] at h ⊢
    rcases h with hopened | hroot
    · exact Or.inr (Or.inl hopened)
    · cases hfirst : content.root with
      | none =>
        rw [hfirst] at hroot
        exact Or.inl (List.mem_singleton.1 hroot)
      | some root =>
        rw [hfirst] at hroot
        exact Or.inr (Or.inr hroot)
  · rw [tags_add] at h
    exact Or.inr h

/-- A start tag adds the tag that it denotes at most. -/
theorem mem_tags_openTag {tag other : Tag} {written : QName} {bindings : Bindings} {closed : Bool}
    (h : other ∈ (content.openTag tag written bindings closed).tags) :
    other = tag ∨ other ∈ content.tags := by
  unfold openTag at h
  dsimp only at h
  split at h
  · rw [← tags_endText content]
    exact mem_tags_addElement h
  · rw [tags, List.map_cons, List.cons_append, List.mem_cons] at h
    rw [← tags_endText content]
    exact h

/-- A closing tag adds no tag. -/
theorem mem_tags_closeTag {written : QName} {tag : Tag} (h : content.closeTag written = some next)
    (htag : tag ∈ next.tags) : tag ∈ content.tags := by
  rw [← tags_endText content]
  unfold closeTag at h
  dsimp only at h
  split at h
  · next innermost outer hopen =>
    split at h
    · cases h
      rw [tags, hopen, List.map_cons, List.cons_append, List.mem_cons]
      exact mem_tags_addElement htag
    · cases h
  · cases h

/-- A CDATA section leaves the tags as they are. -/
theorem tags_addCData {text : List Char} (h : content.addCData text = some next) :
    next.tags = content.tags := by
  unfold addCData at h
  split at h
  · cases h
    exact (tags_add _ _).trans (tags_endText content)
  · cases h

/-- A tag after a step is one from before it, or one that a start tag denotes. -/
theorem mem_tags_step {cs : List Char} {continuation : Continuation} {tag : Tag}
    (h : step version entities content cs = some (next, continuation)) (htag : tag ∈ next.tags) :
    tag.IsResolved ∨ tag ∈ content.tags := by
  unfold step at h
  split at h
  · cases h
  · obtain ⟨⟨name, rest⟩, -, h⟩ := Option.bind_eq_some_iff.1 h
    dsimp only at h
    split at h
    · obtain ⟨closed, hclosed, heq⟩ := Option.map_eq_some_iff.1 h
      cases heq
      exact Or.inr (mem_tags_closeTag hclosed htag)
    · cases h
  · obtain ⟨⟨target, data, after⟩, -, heq⟩ := Option.map_eq_some_iff.1 h
    cases heq
    rw [tags_add, tags_endText] at htag
    exact Or.inr htag
  · obtain ⟨⟨text, after⟩, -, heq⟩ := Option.map_eq_some_iff.1 h
    cases heq
    rw [tags_add, tags_endText] at htag
    exact Or.inr htag
  · obtain ⟨⟨text, after⟩, -, h⟩ := Option.bind_eq_some_iff.1 h
    obtain ⟨added, hadded, heq⟩ := Option.map_eq_some_iff.1 h
    cases heq
    rw [tags_addCData hadded] at htag
    exact Or.inr htag
  · obtain ⟨⟨name, rest⟩, -, h⟩ := Option.bind_eq_some_iff.1 h
    obtain ⟨⟨attributes, closed, after⟩, -, h⟩ := Option.bind_eq_some_iff.1 h
    obtain ⟨⟨denoted, bindings⟩, hresolve, heq⟩ := Option.map_eq_some_iff.1 h
    cases heq
    rcases mem_tags_openTag htag with rfl | hkept
    · exact Or.inl ⟨_, _, _, _, hresolve⟩
    · exact Or.inr hkept
  · unfold stepReference at h
    split at h
    · cases h
    · obtain ⟨⟨reference, after⟩, -, h⟩ := Option.bind_eq_some_iff.1 h
      cases reference with
      | char c =>
        cases h
        exact Or.inr htag
      | entity name =>
        obtain ⟨text, -, heq⟩ := Option.map_eq_some_iff.1 h
        cases heq
        exact Or.inr htag
  · cases h
  · unfold stepText at h
    split at h
    · split at h
      · cases h
        exact Or.inr htag
      · cases h
    · split at h
      · cases h
        exact Or.inr htag
      · cases h

/-- The root that reading comes to has a tag that a start tag denotes, if all tags so far are such. -/
theorem isResolved_of_read {input : Input} {root : Element}
    (h : content.read version entities input = some root) (htags : ∀ tag ∈ content.tags, tag.IsResolved) :
    root.tag.IsResolved := by
  fun_induction Content.read content version entities input with
  | case1 content input hend hclosed =>
    refine htags root.tag ?_
    simp [tags, h]
  | case2 => cases h
  | case3 => cases h
  | case4 content input hmore next after hstep hbelow ih =>
    exact ih h fun tag htag => (mem_tags_step hstep htag).elim id (htags tag)
  | case5 => cases h
  | case6 content input hmore next text after hstep expanded hexpanded hbelow ih =>
    exact ih h fun tag htag => (mem_tags_step hstep htag).elim id (htags tag)

end Content

/-- The tag of a root is one that a start tag denotes. -/
theorem Element.isResolved_of_ofBytes? {bytes : Text.Bytes} {root : Element}
    (h : Element.ofBytes? bytes = some root) : root.tag.IsResolved := by
  have hstart : ∀ tag ∈ Content.start.tags, tag.IsResolved := fun tag htag => nomatch htag
  obtain ⟨⟨version, cs⟩, -, hdocument⟩ := Option.bind_eq_some_iff.1 h
  dsimp only at hdocument
  unfold readDocument at hdocument
  split at hdocument
  · obtain ⟨⟨entities, input⟩, -, hread⟩ := Option.bind_eq_some_iff.1 hdocument
    exact Content.isResolved_of_read hread hstart
  · exact Content.isResolved_of_read hdocument hstart

/-- The attributes of a root have distinct names. -/
theorem Element.nodup_attributes_of_ofBytes? {bytes : Text.Bytes} {root : Element}
    (h : Element.ofBytes? bytes = some root) : (root.tag.attributes.map (·.1)).Nodup :=
  (isResolved_of_ofBytes? h).nodup

end NatGateway.Xml
