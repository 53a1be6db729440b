import NatGateway.Proofs.Text.Utf8
import NatGateway.Proofs.Xml.Tags
import NatGateway.Xml.Document

/-!
# Written heads

How the reader begins with what the writer makes of a document. The declaration is read twice: byte
by byte, to learn of an encoding, and then in the encoding that it names, which is the one the writer
uses. Behind the declaration there is a line break and no prolog, so the content starts at once.
-/

namespace NatGateway.Xml

open NatGateway.Text (utf8Bytes utf8Bytes_append utf8Chars?_utf8Bytes)

/-- A declaration names its fields one after the other. -/
theorem readField?_written {name value : String} (hname : isXmlName name = true)
    (hvalue : isXmlText value = true) (rest : List Char) :
    readField? name
        (' ' :: (name.toList ++ '=' :: '"' :: (value.toList.flatMap escapeChar ++ '"' :: rest))) =
      some (value, rest) := by
  have hreadable : (⟨none, name⟩ : QName).isReadable = true := hname
  obtain ⟨c, cs, hchars, hc, _⟩ := isXmlName_cases hname
  have hspace : isSpace c = false := by
    cases h : isSpace c with
    | false => rfl
    | true =>
      have hchar := isNameChar_of_isNameStart hc
      rw [isNameChar_eq_false_of_tag (Or.inl h)] at hchar
      cases hchar
  have hread := @readAttribute_written [] ⟨none, name⟩ hreadable value rest
  rw [if_pos hvalue] at hread
  simp only [QName.written, hchars, List.cons_append] at hread ⊢
  simp only [readField?, show isSpace ' ' = true by decide, if_true,
    List.dropWhile_cons_of_neg (show ¬ isSpace c = true by simp [hspace]), hread]

/-- The declaration that documents are written with says what it should. -/
theorem readHead_written (rest : List Char) :
    readHead (writtenDeclaration.toList ++ rest) =
      some (⟨.v10, some "UTF-8"⟩, '\n' :: rest) := by
  have hversion := @readField?_written "version" "1.0" rfl rfl
    (' ' :: ("encoding".toList ++ '=' :: '"' ::
      ("UTF-8".toList.flatMap escapeChar ++ '"' :: '?' :: '>' :: '\n' :: rest)))
  have hencoding := @readField?_written "encoding" "UTF-8" rfl rfl
    ('?' :: '>' :: '\n' :: rest)
  have hwritten : writtenDeclaration.toList ++ rest = '<' :: '?' :: 'x' :: 'm' :: 'l' :: ' ' ::
      ("version".toList ++ '=' :: '"' :: ("1.0".toList.flatMap escapeChar ++ '"' ::
        (' ' :: ("encoding".toList ++ '=' :: '"' ::
          ("UTF-8".toList.flatMap escapeChar ++ '"' :: '?' :: '>' :: '\n' :: rest))))) := rfl
  rw [hwritten]
  simp only [readHead, show isNameChar ' ' = false by decide, Bool.false_eq_true, if_false,
    readXmlDeclaration, hversion, hencoding, Option.bind_some]
  rfl

/-- A written document is read in the encoding it was written in. -/
theorem readBytes_written (text : String) :
    readBytes (utf8Bytes (writtenDeclaration ++ text)) = some (.v10, '\n' :: text.toList) := by
  have hmark : markedEncoding (utf8Bytes (writtenDeclaration ++ text)) = none := by
    rw [utf8Bytes_append]
    rfl
  have hbytewise : ((utf8Bytes (writtenDeclaration ++ text)).map fun b => Char.ofNat b.toNat) =
      writtenDeclaration.toList ++ (utf8Bytes text).map fun b => Char.ofNat b.toNat := by
    rw [utf8Bytes_append, List.map_append]
    rfl
  have hchars : Text.utf8Chars? (utf8Bytes (writtenDeclaration ++ text)) =
      some (writtenDeclaration.toList ++ text.toList) := by
    rw [utf8Chars?_utf8Bytes, String.toList_append]
  have hsettled : settleEncoding none (some "UTF-8") = some .utf8 := by decide
  simp only [readBytes, hmark, Option.getD_none, Encoding.chars?, hbytewise, hchars,
    Option.bind_some, readHead_written, hsettled, Option.map_some]

/-- A document that goes on with a start tag has no prolog. -/
theorem readDocument_written {c : Char} (hc : isNameStart c = true) (cs : List Char) :
    readDocument .v10 ('\n' :: '<' :: c :: cs) =
      Content.start.read .v10 [] (.ofChars ('<' :: c :: cs)) := by
  have hquestion : c ≠ '?' := by rintro rfl; revert hc; decide
  have hbang : c ≠ '!' := by rintro rfl; revert hc; decide
  have hskip : skipMisc .v10 ('\n' :: '<' :: c :: cs) = '<' :: c :: cs := by
    rw [skipMisc]
    · rw [if_pos (by decide), skipMisc]
      · rfl
      · simp [hbang]
      · simp [hquestion]
    · simp
    · simp
  have hstep : Content.step .v10 [] Content.start ('\n' :: '<' :: c :: cs) =
      some (Content.start, .rest ('<' :: c :: cs)) := by
    rw [Content.step_text (by decide) (by decide) (by simp)]
    rfl
  rw [readDocument, hskip]
  split
  · next heq => exact absurd (List.cons.inj (List.cons.inj heq).2).1 hbang
  · exact Content.read_of_step hstep

/-- Reading a written document is reading its content. -/
theorem Element.ofBytes?_written {c : Char} (hc : isNameStart c = true) {cs : List Char}
    {text : String} (htext : text.toList = '<' :: c :: cs) :
    Element.ofBytes? (utf8Bytes (writtenDeclaration ++ text)) =
      Content.start.read .v10 [] (.ofChars text.toList) := by
  rw [Element.ofBytes?, readBytes_written, Option.bind_some, htext]
  exact readDocument_written hc cs

end NatGateway.Xml
