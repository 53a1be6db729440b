import NatGateway.Proofs.Xml.Names
import NatGateway.Xml.Writer

/-!
# Written values

How the reader takes what the writer makes of a text. The writer knows five characters with a
meaning in markup and turns them into references; whether the others may stand in a document it
does not ask. So an attribute is read back if all characters of its value may stand in a document,
and refused otherwise.
-/

namespace NatGateway.Xml

/-- A text that a document of version 1.0 may hold. -/
def isXmlText (text : String) : Bool := text.toList.all Version.v10.allows

/-- In version 1.0 every character that a document may hold may stand there as itself. -/
theorem Version.allowsPlain_v10 (c : Char) : Version.v10.allowsPlain c = Version.v10.allows c := rfl

/-- A character that the writer leaves as it is. -/
def isPlain (c : Char) : Bool := c != '<' && c != '>' && c != '&' && c != '\x27' && c != '"'

/-- A plain character is written as itself. -/
theorem escapeChar_of_isPlain {c : Char} (h : isPlain c = true) : escapeChar c = [c] := by
  simp only [isPlain, Bool.and_eq_true, bne_iff_ne] at h
  obtain ⟨⟨⟨⟨hlt, hgt⟩, hamp⟩, hapos⟩, hquot⟩ := h
  simp only [escapeChar, if_neg hlt, if_neg hgt, if_neg hamp, if_neg hapos, if_neg hquot]

/-- Any other character is one that documents allow, and is written as a reference that stands for
it. -/
theorem escapeChar_of_not_isPlain {c : Char} (h : isPlain c = false) :
    Version.v10.allows c = true ∧ ∃ reference, escapeChar c = '&' :: reference ∧
      ∀ (version : Version) (rest : List Char),
        readReference version (reference ++ rest) = some (.char c, rest) := by
  simp only [isPlain, Bool.and_eq_false_iff, bne_eq_false_iff_eq] at h
  rcases h with (((rfl | rfl) | rfl) | rfl) | rfl
  · exact ⟨by decide, ['l', 't', ';'], rfl, fun _ _ => rfl⟩
  · exact ⟨by decide, ['g', 't', ';'], rfl, fun _ _ => rfl⟩
  · exact ⟨by decide, ['a', 'm', 'p', ';'], rfl, fun _ _ => rfl⟩
  · exact ⟨by decide, ['a', 'p', 'o', 's', ';'], rfl, fun _ _ => rfl⟩
  · exact ⟨by decide, ['q', 'u', 'o', 't', ';'], rfl, fun _ _ => rfl⟩

/-- Between quotes a plain character stands for itself, if documents allow it. -/
theorem readValue_plain {entities : Entities} {c : Char} (h : isPlain c = true)
    (rest : List Char) :
    readValue .v10 entities '"' (c :: rest) =
      if Version.v10.allows c = true then
        (readValue .v10 entities '"' rest).map fun (more, after) => (c :: more, after)
      else none := by
  simp only [isPlain, Bool.and_eq_true, bne_iff_ne] at h
  obtain ⟨⟨⟨⟨hlt, _⟩, hamp⟩, _⟩, hquot⟩ := h
  rw [readValue.eq_def]
  simp only [if_neg hquot, if_neg hamp, if_neg hlt, Version.allowsPlain_v10]
  rfl

/-- Between quotes a reference to a character stands for that character. -/
theorem readValue_reference {entities : Entities} {c : Char} {cs rest : List Char}
    (h : readReference .v10 cs = some (.char c, rest)) :
    readValue .v10 entities '"' ('&' :: cs) =
      (readValue .v10 entities '"' rest).map fun (more, after) => (c :: more, after) := by
  rw [readValue.eq_def]
  simp only [show ('&' = '"') = False from by simp, if_false, if_true]
  split
  · next heq =>
    rw [h] at heq
    cases heq
  · next heq =>
    rw [h] at heq
    cases heq
    rfl

/-- A written value is read back up to its closing quote, and refused if a document may not hold
it. -/
theorem readValue_escaped {entities : Entities} (cs rest : List Char) :
    readValue .v10 entities '"' (cs.flatMap escapeChar ++ '"' :: rest) =
      if cs.all Version.v10.allows = true then some (cs, rest) else none := by
  induction cs with
  | nil =>
    rw [List.flatMap_nil, List.nil_append, readValue.eq_def]
    rfl
  | cons c cs ih =>
    rw [List.flatMap_cons, List.append_assoc, List.all_cons]
    cases hplain : isPlain c with
    | true =>
      rw [escapeChar_of_isPlain hplain, List.singleton_append, readValue_plain hplain, ih]
      cases Version.v10.allows c <;> cases cs.all Version.v10.allows <;> rfl
    | false =>
      obtain ⟨hallows, reference, hescape, hread⟩ := escapeChar_of_not_isPlain hplain
      rw [hescape, List.cons_append, readValue_reference (hread _ _), ih, hallows, Bool.true_and]
      cases cs.all Version.v10.allows <;> rfl

/-- A readable name starts with a character that starts names. -/
theorem QName.written_head {name : QName} (h : name.isReadable = true) :
    ∃ c cs, name.written.toList = c :: cs ∧ isNameStart c = true := by
  obtain ⟨qualifier, name⟩ := name
  cases qualifier with
  | none =>
    obtain ⟨c, cs, hname, hc, _⟩ := isXmlName_cases h
    exact ⟨c, cs, hname, hc⟩
  | some qualifier =>
    simp only [QName.isReadable, Bool.and_eq_true] at h
    obtain ⟨c, cs, hname, hc, _⟩ := isXmlName_cases h.1.1
    exact ⟨c, cs ++ ':' :: name.toList, by simp [QName.written, hname], hc⟩

/-- The characters of a written attribute. -/
theorem writtenAttribute_toList (name value : String) :
    (writtenAttribute (name, value)).toList =
      ' ' :: (name.toList ++ '=' :: '"' :: (value.toList.flatMap escapeChar ++ ['"'])) := by
  simp [writtenAttribute, escaped]

/-- A written attribute is read back, and refused if a document may not hold its value. -/
theorem readAttribute_written {entities : Entities} {name : QName} (h : name.isReadable = true)
    (value : String) (rest : List Char) :
    readAttribute .v10 entities
        (name.written.toList ++ '=' :: '"' :: (value.toList.flatMap escapeChar ++ '"' :: rest)) =
      if isXmlText value = true then some (⟨name, value⟩, rest) else none := by
  have hname := readQName_written h (d := '=') (by decide)
    ('"' :: (value.toList.flatMap escapeChar ++ '"' :: rest))
  have hvalue : readValue .v10 entities '"' (value.toList.flatMap escapeChar ++ '"' :: rest) =
      if isXmlText value = true then some (value.toList, rest) else none :=
    readValue_escaped value.toList rest
  unfold readAttribute
  rw [hname]
  simp only [List.dropWhile_cons_of_neg (show ¬ isSpace '=' = true by decide),
    List.dropWhile_cons_of_neg (show ¬ isSpace '"' = true by decide), decide_true, Bool.true_or,
    if_true, hvalue]
  by_cases hv : isXmlText value = true
  · simp only [if_pos hv, Option.map_some, String.ofList_toList]
  · simp only [if_neg hv, Option.map_none]

/-- The end of a start tag. -/
theorem readAttributes_end {entities : Entities} (rest : List Char) :
    readAttributes .v10 entities ('>' :: rest) = some ([], false, rest) := by
  rw [readAttributes]
  rfl

/-- A start tag goes on with white space, or ends. -/
theorem readAttributes_eq_none {entities : Entities} {c : Char} (rest : List Char)
    (hspace : isSpace c = false) (hend : c ≠ '>') (hslash : c ≠ '/') :
    readAttributes .v10 entities (c :: rest) = none := by
  have hdrop : (c :: rest).dropWhile isSpace = c :: rest :=
    List.dropWhile_cons_of_neg (by simp [hspace])
  rw [readAttributes]
  split
  · next heq => exact absurd (List.cons.inj (hdrop.symm.trans heq)).1 hend
  · next heq => exact absurd (List.cons.inj (hdrop.symm.trans heq)).1 hslash
  · rw [dif_neg (by rw [hdrop]; exact Nat.lt_irrefl _)]

/-- The attributes of a start tag are read one by one, each of them as it was written. -/
theorem readAttributes_written {entities : Entities} {name : QName} (h : name.isReadable = true)
    (value : String) (rest : List Char) :
    readAttributes .v10 entities ((writtenAttribute (name.written, value)).toList ++ rest) =
      if isXmlText value = true then
        (readAttributes .v10 entities rest).map fun (more, closed, after) =>
          (⟨name, value⟩ :: more, closed, after)
      else none := by
  obtain ⟨c, cs, hwritten, hc⟩ := QName.written_head h
  have hattribute := @readAttribute_written entities name h value rest
  have hchar : isNameChar c = true := isNameChar_of_isNameStart hc
  have htag : ¬ (isSpace c = true ∨ c = '>' ∨ c = '/' ∨ c = '=') := fun h => by
    rw [isNameChar_eq_false_of_tag h] at hchar
    cases hchar
  obtain ⟨hspace, hend, hslash, _⟩ := by simpa only [not_or] using htag
  rw [writtenAttribute_toList, List.cons_append, List.append_assoc, List.cons_append,
    List.cons_append, List.append_assoc, List.singleton_append]
  -- What is read after the space is given a name, so that the lengths that bound the reader stay
  -- small when its equation is unfolded.
  generalize hinner : name.written.toList ++ '=' :: '"' ::
    (value.toList.flatMap escapeChar ++ '"' :: rest) = inner at hattribute ⊢
  obtain ⟨tail, rfl⟩ : ∃ tail, inner = c :: tail :=
    ⟨_, by rw [← hinner, hwritten, List.cons_append]⟩
  have hdrop : (' ' :: c :: tail).dropWhile isSpace = c :: tail := by
    rw [List.dropWhile_cons_of_pos (by decide), List.dropWhile_cons_of_neg hspace]
  rw [readAttributes]
  split
  · next heq => exact absurd (List.cons.inj (hdrop.symm.trans heq)).1 hend
  · next heq => exact absurd (List.cons.inj (hdrop.symm.trans heq)).1 hslash
  · rw [dif_pos (by rw [hdrop]; exact Nat.lt_succ_self _)]
    split
    · next heq =>
      rw [hdrop, hattribute] at heq
      split at heq
      · cases heq
      · next hv => rw [if_neg hv]
    · next heq =>
      rw [hdrop, hattribute] at heq
      split at heq
      · next hv =>
        cases heq
        rw [if_pos hv]
      · cases heq

end NatGateway.Xml
