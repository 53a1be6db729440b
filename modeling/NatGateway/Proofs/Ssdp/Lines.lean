import NatGateway.Proofs.Text.Blank
import NatGateway.Ssdp.Response

/-!
# Lines of a datagram

A text is a sequence of lines in one way. A line is ended by a line feed, and a carriage return in
front of it belongs to the end; the last line may lack an end. The lines that are kept when a datagram
is read may still have that carriage return, which is blank and so is dropped with the white space. Lines
that are written with their ends come back, whatever follows them.
-/

namespace NatGateway.Ssdp

open NatGateway.Text (append_separator_inj splitChars splitChars_append_cons splitChars_eq_splitOn
  splitChars_of_not_mem trimmed trimmed_append_of_blank)

/-- Whether characters in front of a line feed are a line: without a carriage return, if they end with
one. -/
def EndsLine (kept line : List Char) : Prop :=
  kept = line ++ ['\r'] ∨ kept = line ∧ line.getLast? ≠ some '\r'

/-- Whether a text is a sequence of lines, each ended by a line feed, or by a carriage return and a line
feed. The last one may have no end, if there is anything of it. -/
inductive AreLines : List Char → List (List Char) → Prop
  | none : AreLines [] []
  | last {line : List Char} : line ≠ [] → '\n' ∉ line → AreLines line [line]
  | cons {kept line rest : List Char} {lines : List (List Char)} : '\n' ∉ kept → EndsLine kept line →
      AreLines rest lines → AreLines (kept ++ '\n' :: rest) (line :: lines)

variable {cs kept line : List Char} {lines : List (List Char)}

/-- There is one line in front of a line feed. -/
theorem exists_endsLine (kept : List Char) : ∃ line, EndsLine kept line := by
  by_cases hend : kept.getLast? = some '\r'
  · obtain ⟨line, rfl⟩ := List.getLast?_eq_some_iff.1 hend
    exact ⟨line, .inl rfl⟩
  · exact ⟨kept, .inr ⟨rfl, hend⟩⟩

/-- There is only one line in front of a line feed. -/
theorem EndsLine.unique {other : List Char} (h : EndsLine kept line) (h' : EndsLine kept other) :
    line = other := by
  rcases h with rfl | ⟨rfl, hend⟩
  · rcases h' with h' | ⟨rfl, hend⟩
    · exact List.append_cancel_right h'
    · exact absurd List.getLast?_concat hend
  · rcases h' with rfl | ⟨rfl, _⟩
    · exact absurd List.getLast?_concat hend
    · rfl

/-- Every text is a sequence of lines. -/
theorem exists_areLines (cs : List Char) : ∃ lines, AreLines cs lines := by
  induction hlength : cs.length using Nat.strong_induction_on generalizing cs with
  | _ length ih =>
    by_cases hfeed : '\n' ∈ cs
    · obtain ⟨kept, rest, rfl, hkept⟩ := List.eq_append_cons_of_mem hfeed
      obtain ⟨line, hline⟩ := exists_endsLine kept
      obtain ⟨lines, hlines⟩ := ih rest.length (by simp at hlength; omega) rest rfl
      exact ⟨line :: lines, .cons hkept hline hlines⟩
    · cases cs with
      | nil => exact ⟨[], .none⟩
      | cons c rest => exact ⟨[c :: rest], .last (List.cons_ne_nil c rest) hfeed⟩

/-- A text is a sequence of lines in only one way. -/
theorem AreLines.unique {others : List (List Char)} (h : AreLines cs lines) (h' : AreLines cs others) :
    lines = others := by
  induction h generalizing others with
  | none =>
    generalize hcs : [] = cs at h'
    cases h' with
    | none => rfl
    | last hne _ => exact absurd hcs.symm hne
    | cons _ _ _ => exact absurd hcs.symm (List.append_ne_nil_of_right_ne_nil _ (List.cons_ne_nil _ _))
  | last hne hfeed =>
    cases h' with
    | none => exact absurd rfl hne
    | last _ _ => rfl
    | cons _ _ _ => exact absurd (List.mem_append_right _ List.mem_cons_self) hfeed
  | @cons kept line rest lines hkept hline _ ih =>
    generalize hcs : kept ++ '\n' :: rest = cs at h'
    cases h' with
    | none => exact absurd hcs (List.append_ne_nil_of_right_ne_nil _ (List.cons_ne_nil _ _))
    | last _ hfeed => exact absurd (hcs ▸ List.mem_append_right _ List.mem_cons_self) hfeed
    | cons hkept' hline' hrest' =>
      obtain ⟨rfl, rfl⟩ := append_separator_inj hkept hkept' hcs
      rw [hline.unique hline', ih hrest']

/-- Lines consist of characters of the text. -/
theorem AreLines.subset (h : AreLines cs lines) (hline : line ∈ lines) : line ⊆ cs := by
  induction h with
  | none => cases hline
  | last =>
    rw [List.mem_singleton.1 hline]
    exact List.Subset.refl _
  | @cons kept first rest lines _ hend _ ih =>
    rcases List.mem_cons.1 hline with rfl | hrest
    · have hkept : line ⊆ kept := by
        rcases hend with rfl | ⟨rfl, _⟩
        · exact List.subset_append_left _ _
        · exact List.Subset.refl _
      exact List.Subset.trans hkept (List.subset_append_left _ _)
    · exact List.Subset.trans (ih hrest)
        (List.subset_append_of_subset_right _ (List.subset_cons_self _ _))

/-- A text with a blank line only is that line's end. -/
theorem length_le_of_areLines_blank (h : AreLines cs [[]]) : cs.length ≤ 2 := by
  cases h with
  | last hne _ => exact absurd rfl hne
  | cons _ hend hrest =>
    cases hrest with
    | none =>
      rcases hend with rfl | ⟨rfl, _⟩
      · exact Nat.le_refl _
      · exact Nat.le_succ _

/-! ## The lines that are kept -/

/-- What stands in front of a line feed is kept as a line. -/
theorem linesOf_append_cons (hkept : '\n' ∉ kept) (rest : List Char) :
    linesOf (kept ++ '\n' :: rest) = kept :: linesOf rest := by
  have hne : splitChars '\n' rest ≠ [] := by
    rw [splitChars_eq_splitOn]
    exact List.splitOnP_ne_nil _ rest
  rw [linesOf, linesOf, splitChars_append_cons, splitChars_of_not_mem hkept, List.singleton_append]
  rw [List.getLast?_cons_of_ne_nil hne, List.dropLast_cons_of_ne_nil hne]
  split
  · rfl
  · rfl

/-- What is kept in front of a line feed is the line up to white space at its ends. -/
theorem EndsLine.trimmed_eq (h : EndsLine kept line) : trimmed kept = trimmed line := by
  rcases h with rfl | ⟨rfl, _⟩
  · exact trimmed_append_of_blank (List.forall_mem_singleton.2 (by decide))
  · rfl

/-- Of the lines of a text the kept ones have what is not blank at their ends. -/
theorem AreLines.map_trimmed (h : AreLines cs lines) :
    (linesOf cs).map trimmed = lines.map trimmed := by
  induction h with
  | none => rfl
  | @last line hne hfeed =>
    rw [linesOf, splitChars_of_not_mem hfeed]
    rw [List.getLast?_singleton, if_neg (mt Option.some_inj.1 hne)]
  | @cons kept line rest lines hkept hline _ ih =>
    rw [linesOf_append_cons hkept, List.map_cons, List.map_cons, hline.trimmed_eq, ih]

/-! ## Written lines -/

/-- Lines that are each ended by a carriage return and a line feed. -/
def written (lines : List (List Char)) : List Char := lines.flatMap (· ++ ['\r', '\n'])

/-- Written lines come back in front of what follows them. -/
theorem areLines_written {rest : List (List Char)} (h : ∀ line ∈ lines, '\n' ∉ line)
    (hrest : AreLines cs rest) :
    AreLines (written lines ++ cs) (lines ++ rest) := by
  induction lines with
  | nil => exact hrest
  | cons line lines ih =>
    obtain ⟨hline, hlines⟩ := List.forall_mem_cons.1 h
    have hkept : '\n' ∉ line ++ ['\r'] := by simpa using hline
    have hboth := AreLines.cons hkept (.inl rfl) (ih hlines)
    simpa [written] using hboth

end NatGateway.Ssdp
