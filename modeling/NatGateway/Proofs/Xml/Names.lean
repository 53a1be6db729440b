import NatGateway.Proofs.Text.Cut
import NatGateway.Xml.Namespace

/-!
# Names in markup

Which names the reader takes for names. A name is read as far as its characters go, so a name is
read whole exactly if all its characters may stand in names, and what comes after it is the first
character that may not. Inside a qualified name only the qualifier has to start like a name: after
the colon every character of names will do.
-/

namespace NatGateway.Xml

/-- A name for an element or a prefix. A colon is no part of it: it only stands after a prefix. -/
def isXmlName (name : String) : Bool :=
  match name.toList with
  | [] => false
  | c :: rest => isNameStart c && (c :: rest).all fun d => isNameChar d && d != ':'

/-- A name as it is written in a tag. -/
def QName.written (name : QName) : String :=
  match name.qualifier with
  | none => name.name
  | some qualifier => qualifier ++ ":" ++ name.name

/-- What the reader asks of a name: more of a name without a prefix than of one behind a prefix. -/
def QName.isReadable (name : QName) : Bool :=
  match name.qualifier with
  | none => isXmlName name.name
  | some qualifier =>
      isXmlName qualifier && !name.name.isEmpty &&
        name.name.toList.all fun d => isNameChar d && d != ':'

/-- A character of names is neither white space nor one that goes on with a tag. -/
theorem isNameChar_eq_false_of_tag {d : Char} (h : isSpace d = true ∨ d = '>' ∨ d = '/' ∨ d = '=') :
    isNameChar d = false := by
  simp only [isSpace, Bool.or_eq_true, beq_iff_eq] at h
  rcases h with ((((rfl | rfl) | rfl) | rfl) | rfl | rfl | rfl) <;> decide

/-- A character that starts names may go on with them. -/
theorem isNameChar_of_isNameStart {c : Char} (h : isNameStart c = true) : isNameChar c = true := by
  simp only [isNameChar, h, Bool.true_or]

/-- The parts of a name. -/
theorem isXmlName_cases {name : String} (h : isXmlName name = true) :
    ∃ c rest, name.toList = c :: rest ∧ isNameStart c = true ∧ (c != ':') = true ∧
      (∀ d ∈ rest, isNameChar d = true) ∧ ':' ∉ c :: rest := by
  unfold isXmlName at h
  split at h
  · cases h
  next c rest hname =>
    simp only [Bool.and_eq_true, List.all_eq_true] at h
    obtain ⟨hc, hall⟩ := h
    refine ⟨c, rest, hname, hc, (hall c List.mem_cons_self).2,
      fun d hd => (hall d (List.mem_cons_of_mem c hd)).1, fun hcolon => ?_⟩
    have hne := (hall ':' hcolon).2
    simp at hne

/-- A text that may be written as a name without ending its tag early or making it markup of another
kind. It need not be a name. -/
def staysInTag (name : String) : Bool :=
  !name.isEmpty && name.toList.all fun d =>
    !isSpace d && d != '>' && d != '/' && d != '?' && d != '!' && d != ':'

/-- What keeps a text from being a name: how it starts, or a character after that. -/
theorem staysInTag_cases {name : String} (h : staysInTag name = true)
    (hname : isXmlName name = false) :
    ∃ c cs, name.toList = c :: cs ∧ (c ≠ '/' ∧ c ≠ '?' ∧ c ≠ '!') ∧
      (isNameStart c = false ∨ ∃ d ∈ cs, isNameChar d = false) ∧
      ∀ d ∈ cs, isSpace d = false ∧ d ≠ '>' ∧ d ≠ '/' := by
  simp only [staysInTag, Bool.and_eq_true, List.all_eq_true, Bool.not_eq_true', bne_iff_ne] at h
  obtain ⟨hempty, hall⟩ := h
  cases hchars : name.toList with
  | nil =>
    rw [String.toList_eq_nil_iff.1 hchars] at hempty
    cases hempty
  | cons c cs =>
    rw [hchars] at hall
    obtain ⟨⟨⟨⟨⟨_, _⟩, hslash⟩, hquestion⟩, hbang⟩, hcolon⟩ := hall c List.mem_cons_self
    refine ⟨c, cs, rfl, ⟨hslash, hquestion, hbang⟩, ?_, fun d hd => ?_⟩
    · simp only [isXmlName, hchars] at hname
      rcases Bool.and_eq_false_iff.1 hname with hstart | hrest
      · exact Or.inl hstart
      · obtain ⟨d, hd, hbad⟩ := List.all_eq_false.1 hrest
        have hchar : isNameChar d = false := by
          simpa only [(hall d hd).2, bne_iff_ne, ne_eq, not_false_eq_true, Bool.and_eq_true, and_true,
            Bool.not_eq_true] using hbad
        rcases List.mem_cons.1 hd with rfl | hd
        · refine Or.inl (Bool.eq_false_iff.2 fun hstart => ?_)
          rw [isNameChar_of_isNameStart hstart] at hchar
          cases hchar
        · exact Or.inr ⟨d, hd, hchar⟩
    · obtain ⟨⟨⟨⟨⟨hspace, hend⟩, hslash⟩, _⟩, _⟩, _⟩ := hall d (List.mem_cons_of_mem c hd)
      exact ⟨hspace, hend, hslash⟩

/-- A qualified name is read up to the first character that is in no name. -/
theorem readQName_written {name : QName} (h : name.isReadable = true) {d : Char}
    (hd : isNameChar d = false) (rest : List Char) :
    readQName (name.written.toList ++ d :: rest) = some (name, d :: rest) := by
  obtain ⟨qualifier, name⟩ := name
  have hstop : ¬ isNameChar d = true := by rw [hd]; exact Bool.false_ne_true
  cases qualifier with
  | none =>
    obtain ⟨c, cs, hname, hc, hcolon, hall, hno⟩ := isXmlName_cases h
    simp only [QName.written, hname, List.cons_append, readQName, hc, hcolon, Bool.and_self, if_true,
      List.takeWhile_append_of_pos hall, List.dropWhile_append_of_pos hall,
      List.takeWhile_cons_of_neg hstop, List.dropWhile_cons_of_neg hstop, List.append_nil,
      Text.splitChars_of_not_mem hno]
    rw [← hname, String.ofList_toList]
  | some qualifier =>
    simp only [QName.isReadable, Bool.and_eq_true, Bool.not_eq_true', List.all_eq_true] at h
    obtain ⟨⟨hqualifier, hempty⟩, hlocal⟩ := h
    obtain ⟨c, cs, hname, hc, hcolon, hall, hno⟩ := isXmlName_cases hqualifier
    have hlocalNo : ':' ∉ name.toList := fun hmem => by simpa using (hlocal ':' hmem).2
    have hwhole : ∀ e ∈ cs ++ ':' :: name.toList, isNameChar e = true := by
      intro e he
      rcases List.mem_append.1 he with he | he
      · exact hall e he
      · rcases List.mem_cons.1 he with rfl | he
        · decide
        · exact (hlocal e he).1
    have hparts : Text.splitChars ':' (c :: (cs ++ ':' :: name.toList)) = [c :: cs, name.toList] :=
      Text.splitChars_append hno hlocalNo
    have hnonempty : name.toList.isEmpty = false := by
      simpa [String.isEmpty_iff, ← String.toList_eq_nil_iff] using hempty
    have hwritten : (QName.written ⟨some qualifier, name⟩).toList =
        c :: (cs ++ ':' :: name.toList) := by
      simp [QName.written, hname]
    rw [hwritten, List.cons_append]
    simp only [readQName, hc, hcolon, Bool.and_self, if_true, List.takeWhile_append_of_pos hwhole,
      List.dropWhile_append_of_pos hwhole, List.takeWhile_cons_of_neg hstop,
      List.dropWhile_cons_of_neg hstop, List.append_nil, hparts, hnonempty, Bool.false_eq_true,
      if_false]
    rw [← hname, String.ofList_toList, String.ofList_toList]

/-- Whatever name was read, the reader goes on at the first character that is in no name. -/
theorem readQName_rest {c : Char} {cs rest : List Char} {name : QName}
    (h : readQName (c :: cs) = some (name, rest)) : rest = cs.dropWhile isNameChar := by
  simp only [readQName] at h
  split at h
  · split at h
    · cases h
      rfl
    · split at h <;> cases h
      rfl
    · cases h
  · cases h

/-- Skipping ends inside a list that holds a character not to be skipped. -/
theorem dropWhile_append_of_exists {p : Char → Bool} {cs : List Char}
    (h : ∃ d ∈ cs, p d = false) (rest : List Char) :
    ∃ d ∈ cs, p d = false ∧ ∃ tail, (cs ++ rest).dropWhile p = d :: tail := by
  induction cs with
  | nil =>
    obtain ⟨d, hd, _⟩ := h
    cases hd
  | cons c cs ih =>
    by_cases hc : p c = true
    · have hrest : ∃ d ∈ cs, p d = false := by
        obtain ⟨d, hd, hp⟩ := h
        rcases List.mem_cons.1 hd with rfl | hd
        · rw [hc] at hp
          cases hp
        · exact ⟨d, hd, hp⟩
      obtain ⟨d, hd, hp, tail, htail⟩ := ih hrest
      refine ⟨d, List.mem_cons_of_mem c hd, hp, tail, ?_⟩
      rw [List.cons_append, List.dropWhile_cons_of_pos hc, htail]
    · refine ⟨c, List.mem_cons_self, by simpa using hc, cs ++ rest, ?_⟩
      rw [List.cons_append, List.dropWhile_cons_of_neg hc]

/-- A name is read no further than its first character that is in no name. -/
theorem readQName_stops {c : Char} {cs tail rest : List Char} {name : QName}
    (hbad : ∃ d ∈ cs, isNameChar d = false)
    (h : readQName (c :: (cs ++ tail)) = some (name, rest)) :
    ∃ d ∈ cs, isNameChar d = false ∧ ∃ after, rest = d :: after := by
  rw [readQName_rest h]
  exact dropWhile_append_of_exists hbad tail

end NatGateway.Xml
