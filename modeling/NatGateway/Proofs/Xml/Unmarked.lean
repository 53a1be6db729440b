import NatGateway.Proofs.Xml.Tags
import NatGateway.Xml.Document

/-!
# Bytes without markup

Bytes that stand for characters by themselves, and among which no angle bracket opens a tag, are no
document: the reader passes over white space and meets the end, or a character that may not stand
outside all elements.
-/

namespace NatGateway.Text

/-- Bytes below 0x80 are characters by themselves. -/
theorem utf8Chars?_of_ascii {bytes : Bytes} (h : ∀ b ∈ bytes, b < 0x80) :
    utf8Chars? bytes = some (bytes.map fun b => Char.ofNat b.toNat) := by
  induction bytes with
  | nil => rw [utf8Chars?, List.map_nil]
  | cons b rest ih =>
    obtain ⟨hb, hrest⟩ := List.forall_mem_cons.1 h
    have hstep : utf8Step b rest = .char (Char.ofNat b.toNat) 1 := by
      unfold utf8Step
      exact if_pos hb
    simp only [utf8Chars?, hstep, Nat.sub_self, List.drop_zero, ih hrest, Option.map_some,
      List.map_cons]

end NatGateway.Text

namespace NatGateway.Xml

open NatGateway.Text (Bytes)

/-- Outside all elements only white space is passed over. -/
theorem Content.step_start {version : Version} {entities : Entities} {c : Char} (h : c ≠ '<')
    (rest : List Char) :
    Content.step version entities .start (c :: rest) =
      if isSpace c = true then some (.start, .rest rest) else none := by
  unfold Content.step
  split
  all_goals next heq =>
    first
    | exact absurd (List.cons.inj heq).1 h
    | cases heq; rfl
    | cases heq

/-- Content without an angle bracket has no root. -/
theorem Content.read_start_of_not_mem {version : Version} {entities : Entities} {cs : List Char}
    (h : '<' ∉ cs) : Content.start.read version entities (.ofChars cs) = none := by
  induction cs with
  | nil =>
    rw [Content.read_nil]
    rfl
  | cons c rest ih =>
    have hc : c ≠ '<' := fun hc => h (hc ▸ List.mem_cons_self)
    have hstep := @Content.step_start version entities c hc rest
    by_cases hspace : isSpace c = true
    · rw [if_pos hspace] at hstep
      rw [Content.read_of_step hstep, ih fun hrest => h (List.mem_cons_of_mem c hrest)]
    · rw [if_neg hspace] at hstep
      exact Content.read_of_step_none hstep

/-- Skipping a prolog leaves no angle bracket where there was none. -/
theorem not_mem_skipMisc {version : Version} {cs : List Char} (h : '<' ∉ cs) :
    '<' ∉ skipMisc version cs := by
  induction cs with
  | nil => simp [skipMisc]
  | cons c rest ih =>
    have hc : c ≠ '<' := fun hc => h (hc ▸ List.mem_cons_self)
    rw [skipMisc]
    · split
      · exact ih fun hrest => h (List.mem_cons_of_mem c hrest)
      · exact h
    · simp [hc]
    · simp [hc]

/-- A document is more than text. -/
theorem readDocument_of_not_mem {version : Version} {cs : List Char} (h : '<' ∉ cs) :
    readDocument version cs = none := by
  have hskip : '<' ∉ skipMisc version cs := not_mem_skipMisc h
  unfold readDocument
  split
  next heq =>
    rw [heq] at hskip
    exact absurd List.mem_cons_self hskip
  next => exact Content.read_start_of_not_mem h

/-- Bytes that are read by themselves have neither a mark nor a declaration. -/
theorem readBytes_of_ascii {bytes : Bytes} (hascii : ∀ b ∈ bytes, b < 0x80)
    (hmarkup : '<' ∉ bytes.map fun b => Char.ofNat b.toNat) :
    readBytes bytes = some (.v10, bytes.map fun b => Char.ofNat b.toNat) := by
  have hmark : markedEncoding bytes = none := by
    unfold markedEncoding
    split
    · exact absurd (hascii _ List.mem_cons_self) (by decide)
    · exact absurd (hascii _ List.mem_cons_self) (by decide)
    · exact absurd (hascii _ List.mem_cons_self) (by decide)
    · rfl
  have hhead : readHead (bytes.map fun b => Char.ofNat b.toNat) =
      some (⟨.v10, none⟩, bytes.map fun b => Char.ofNat b.toNat) := by
    unfold readHead
    split
    next heq =>
      rw [heq] at hmarkup
      exact absurd List.mem_cons_self hmarkup
    next => rfl
  have hsettled : settleEncoding none none = some .utf8 := rfl
  simp only [readBytes, hmark, Option.getD_none, Encoding.chars?, Option.bind_some, hhead,
    hsettled, Text.utf8Chars?_of_ascii hascii, Option.map_some]

/-- Bytes without markup are no document. -/
theorem Element.ofBytes?_of_ascii {bytes : Bytes} (hascii : ∀ b ∈ bytes, b < 0x80)
    (hmarkup : '<' ∉ bytes.map fun b => Char.ofNat b.toNat) : Element.ofBytes? bytes = none := by
  rw [Element.ofBytes?, readBytes_of_ascii hascii hmarkup]
  exact readDocument_of_not_mem hmarkup

end NatGateway.Xml
