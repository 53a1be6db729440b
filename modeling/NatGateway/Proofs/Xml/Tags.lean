import NatGateway.Proofs.Xml.Values
import NatGateway.Xml.Content

/-!
# Written tags

How reading content proceeds over what the writer makes of tags. Each statement says what the reader
does with a written tag in front of any rest of the document: it goes on with the rest in a state
that has taken up the tag, or it refuses the document. No replacement texts are involved, so the
input is always the rest of the document itself.
-/

namespace NatGateway.Xml

namespace Content

variable {version : Version} {entities : Entities} {content next : Content}

/-- Reading goes on behind what a step has read. -/
theorem read_of_step {cs after : List Char}
    (h : step version entities content cs = some (next, .rest after)) :
    content.read version entities (.ofChars cs) = next.read version entities (.ofChars after) := by
  have hnonempty : cs.isEmpty = false := by
    cases cs with
    | nil => cases h
    | cons c cs => rfl
  rw [read]
  simp only [Input.ofChars, hnonempty, Bool.false_eq_true, if_false]
  split
  · next heq =>
    rw [h] at heq
    cases heq
  · next heq =>
    rw [h] at heq
    cases heq
    rfl
  · next heq =>
    rw [h] at heq
    cases heq

/-- A step that fails makes the document ill-formed. -/
theorem read_of_step_none {c : Char} {cs : List Char}
    (h : step version entities content (c :: cs) = none) :
    content.read version entities (.ofChars (c :: cs)) = none := by
  rw [read]
  simp only [Input.ofChars, List.isEmpty_cons, Bool.false_eq_true, if_false]
  split
  · rfl
  · next heq =>
    rw [h] at heq
    cases heq
  · next heq =>
    rw [h] at heq
    cases heq

/-- Reading does what the next step says, as long as no replacement text comes in. -/
theorem read_eq_bind {c : Char} {cs after : List Char} {outcome : Option Content}
    (h : step version entities content (c :: cs) = outcome.map fun next => (next, .rest after)) :
    content.read version entities (.ofChars (c :: cs)) =
      outcome.bind fun next => next.read version entities (.ofChars after) := by
  cases outcome with
  | none => exact read_of_step_none h
  | some next => exact read_of_step h

/-- At the end of the document the root is the first element, if all are closed. -/
theorem read_nil : content.read version entities (.ofChars []) =
    if content.openElements.isEmpty = true then content.root else none := by
  rw [read]
  rfl

/-- A name after an angle bracket begins a start tag. -/
theorem step_startTag {c : Char} (h : isNameStart c = true) (rest : List Char) :
    step version entities content ('<' :: c :: rest) =
      stepStartTag version entities content (c :: rest) := by
  have hslash : c ≠ '/' := by rintro rfl; revert h; decide
  have hquestion : c ≠ '?' := by rintro rfl; revert h; decide
  have hbang : c ≠ '!' := by rintro rfl; revert h; decide
  rw [step]
  · simp [hslash]
  · simp [hquestion]
  · simp [hbang]
  · simp [hbang]

/-- A character without a meaning in markup is text, unless it begins the end of a section. -/
theorem step_text {c : Char} {rest : List Char} (hlt : c ≠ '<') (hamp : c ≠ '&')
    (hend : ∀ after, rest ≠ ']' :: '>' :: after) :
    step version entities content (c :: rest) = stepText version content c rest := by
  rw [step]
  · simp [hlt]
  · simp [hlt]
  · simp [hlt]
  · simp [hlt]
  · simp [hlt]
  · simp [hamp]
  · intro after h
    simp_all

end Content

/-! ## Start tags -/

/-- An attribute as the writer takes it. -/
def Attribute.written (attr : Attribute) : String × String := (attr.name.written, attr.value)

/-- The characters of attributes in a start tag. -/
def attributeChars (attributes : List Attribute) : List Char :=
  attributes.flatMap fun attr => (writtenAttribute attr.written).toList

/-- The characters of a start tag. -/
theorem startTag_toList (name : String) (attributes : List Attribute) :
    (startTag name (attributes.map Attribute.written)).toList =
      '<' :: (name.toList ++ (attributeChars attributes ++ ['>'])) := by
  simp [startTag, attributeChars, List.flatMap_map]

/-- Attributes are read up to the end of their tag, and refused if a document may not hold one of
their values. -/
theorem readAttributes_attributeChars {entities : Entities} {attributes : List Attribute}
    (h : ∀ attr ∈ attributes, attr.name.isReadable = true) (rest : List Char) :
    readAttributes .v10 entities (attributeChars attributes ++ '>' :: rest) =
      if attributes.all (isXmlText ·.value) = true then some (attributes, false, rest)
      else none := by
  induction attributes with
  | nil => exact readAttributes_end rest
  | cons attr more ih =>
    have hmore := ih fun other hother => h other (List.mem_cons_of_mem attr hother)
    rw [attributeChars, List.flatMap_cons, List.append_assoc, Attribute.written,
      readAttributes_written (h attr List.mem_cons_self), ← attributeChars, hmore, List.all_cons]
    cases isXmlText attr.value <;> cases more.all (isXmlText ·.value) <;> rfl

/-- What follows the name of a start tag is in no name. -/
theorem attributeChars_head (attributes : List Attribute) (rest : List Char) :
    ∃ d tail, attributeChars attributes ++ '>' :: rest = d :: tail ∧ isNameChar d = false := by
  cases attributes with
  | nil => exact ⟨'>', rest, rfl, by decide⟩
  | cons attr more =>
    rw [attributeChars, List.flatMap_cons, Attribute.written, writtenAttribute_toList]
    exact ⟨' ', _, rfl, by decide⟩

namespace Content

variable {version : Version} {entities : Entities} {content next : Content}

/-- The state in which a start tag leaves the reader, unless it is refused. -/
def opened (content : Content) (name : QName) (attributes : List Attribute) : Option Content :=
  if attributes.all (isXmlText ·.value) = true then
    (Tag.resolve? content.bindings name attributes).map fun (tag, bindings) =>
      content.openTag tag name bindings false
  else none

/-- A written start tag opens its element, if its names are in force. -/
theorem stepStartTag_written {name : QName} (hname : name.isReadable = true)
    {attributes : List Attribute} (hattributes : ∀ attr ∈ attributes, attr.name.isReadable = true)
    (rest : List Char) :
    stepStartTag .v10 entities content
        (name.written.toList ++ (attributeChars attributes ++ '>' :: rest)) =
      (content.opened name attributes).map fun next => (next, .rest rest) := by
  obtain ⟨d, tail, htail, hd⟩ := attributeChars_head attributes rest
  have hread : readQName (name.written.toList ++ (attributeChars attributes ++ '>' :: rest)) =
      some (name, attributeChars attributes ++ '>' :: rest) := by
    rw [htail]
    exact readQName_written hname hd tail
  rw [stepStartTag, hread]
  simp only [Option.bind_some, readAttributes_attributeChars hattributes, opened]
  split
  · rw [Option.bind_some, Option.map_map]
    rfl
  · rfl

/-- Reading a written start tag. -/
theorem read_startTag {name : QName} (hname : name.isReadable = true)
    {attributes : List Attribute} (hattributes : ∀ attr ∈ attributes, attr.name.isReadable = true)
    (rest : List Char) :
    content.read .v10 entities
        (.ofChars ((startTag name.written (attributes.map Attribute.written)).toList ++ rest)) =
      (content.opened name attributes).bind fun next =>
        next.read .v10 entities (.ofChars rest) := by
  obtain ⟨c, cs, hwritten, hc⟩ := QName.written_head hname
  have hstep := @stepStartTag_written entities content name hname attributes hattributes rest
  rw [startTag_toList, List.cons_append, List.append_assoc, List.append_assoc, List.singleton_append]
  rw [hwritten, List.cons_append] at hstep ⊢
  exact read_eq_bind ((step_startTag hc _).trans hstep)

/-- A start tag is refused if its name does not go on with white space or the end of the tag. -/
theorem read_startTag_badName {c : Char} {cs : List Char} (hc : c ≠ '/' ∧ c ≠ '?' ∧ c ≠ '!')
    (hbad : isNameStart c = false ∨ ∃ d ∈ cs, isNameChar d = false)
    (hplain : ∀ d ∈ cs, isSpace d = false ∧ d ≠ '>' ∧ d ≠ '/') (rest : List Char) :
    content.read .v10 entities (.ofChars ('<' :: c :: (cs ++ rest))) = none := by
  apply read_of_step_none
  obtain ⟨hslash, hquestion, hbang⟩ := hc
  rw [step]
  · rw [stepStartTag]
    rcases hbad with hstart | hchar
    · simp only [readQName, hstart, Bool.false_and, Bool.false_eq_true, if_false, Option.bind_none]
    · cases hread : readQName (c :: (cs ++ rest)) with
      | none => rfl
      | some result =>
        obtain ⟨d, hd, _, after, hafter⟩ := readQName_stops hchar hread
        obtain ⟨hspace, hend, hslash⟩ := hplain d hd
        simp only [Option.bind_some, hafter, readAttributes_eq_none after hspace hend hslash,
          Option.bind_none]
  · simp [hslash]
  · simp [hquestion]
  · simp [hbang]
  · simp [hbang]

/-- Reading a written closing tag. -/
theorem read_closingTag {name : QName} (hname : name.isReadable = true) (rest : List Char) :
    content.read version entities (.ofChars ((closingTag name.written).toList ++ rest)) =
      (content.closeTag name).bind fun next => next.read version entities (.ofChars rest) := by
  have hchars : (closingTag name.written).toList ++ rest =
      '<' :: '/' :: (name.written.toList ++ '>' :: rest) := by
    simp [closingTag]
  have hstep : step version entities content ('<' :: '/' :: (name.written.toList ++ '>' :: rest)) =
      (content.closeTag name).map fun next => (next, .rest rest) := by
    rw [step, stepClosingTag, readQName_written hname (by decide)]
    simp only [Option.bind_some, List.dropWhile_cons_of_neg (show ¬ isSpace '>' = true by decide)]
  rw [hchars]
  exact read_eq_bind hstep

end Content

end NatGateway.Xml
