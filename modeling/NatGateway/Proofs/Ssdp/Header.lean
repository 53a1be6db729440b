import NatGateway.Proofs.First
import NatGateway.Proofs.Ssdp.Lines
import NatGateway.Proofs.Text.LetterCase

/-!
# Headers of a response

What a header of a response is, by the lines of its datagram: what the first line says that names the
header and stands in front of the first blank line. A line names what stands before its first colon, so
a value may hold colons, and lines without a name are passed over. Lines behind the blank one, and later
ones of the same name, matter to no header.
-/

namespace NatGateway.Ssdp

open NatGateway.Text (isBlank sameIgnoringCase sameIgnoringCase_iff splitFirst?_eq_some_iff
  splitFirst?_trimmed trimmed trimmed_eq_nil_iff trimmed_trimEnd trimmed_trimStart upperAscii)

/-! ## Lines -/

/-- Whether a line gives a value to a name: the name stands before the first colon and the value after
it, both without the white space around them. The name is not blank. -/
def Declares (line : List Char) (name value : String) : Prop :=
  ∃ before after, line = before ++ ':' :: after ∧ ':' ∉ before ∧ trimmed before ≠ [] ∧
    name = String.ofList (trimmed before) ∧ value = String.ofList (trimmed after)

/-- Whether a line is one of a header: it names it in any letter case. -/
def Names (line : List Char) (name : String) : Prop :=
  ∃ written value, Declares line written value ∧ sameIgnoringCase written name = true

/-- The lines in front of the first blank one. -/
def headOf (lines : List (List Char)) : List (List Char) :=
  lines.takeWhile fun line => !line.all isBlank

/-- Whether a header has a value by the lines of a datagram: the value that the first line of the header
gives, or the empty one if there is no such line. -/
def HasValue (lines : List (List Char)) (name value : String) : Prop :=
  (∃ line written, IsFirst (fun other => ¬ Names other name) (headOf lines) line ∧
    Declares line written value ∧ sameIgnoringCase written name = true) ∨
  (∀ line ∈ headOf lines, ¬ Names line name) ∧ value = ""

variable {line other : List Char} {name value : String}

/-- What is read of a line is the value that it gives, under the name in upper case. -/
theorem readHeader_eq_some_iff {key : String} :
    readHeader line = some (key, value) ↔
      ∃ written, Declares line written value ∧ key = upperAscii written := by
  rw [readHeader, splitFirst?_trimmed (by decide), Option.bind_eq_some_iff]
  constructor
  · rintro ⟨⟨start, last⟩, hsplit, hentry⟩
    obtain ⟨⟨before, after⟩, hcut, hparts⟩ := Option.map_eq_some_iff.1 hsplit
    obtain ⟨rfl, hbefore⟩ := splitFirst?_eq_some_iff.1 hcut
    cases hparts
    dsimp only at hentry
    rw [trimmed_trimStart, trimmed_trimEnd] at hentry
    split at hentry
    · cases hentry
    · next hname =>
      cases hentry
      exact ⟨_, ⟨before, after, rfl, hbefore, mt List.isEmpty_iff.2 hname, rfl, rfl⟩, rfl⟩
  · rintro ⟨_, ⟨before, after, rfl, hbefore, hname, rfl, rfl⟩, rfl⟩
    refine ⟨_, Option.map_eq_some_iff.2 ⟨_, splitFirst?_eq_some_iff.2 ⟨rfl, hbefore⟩, rfl⟩, ?_⟩
    dsimp only
    rw [trimmed_trimStart, trimmed_trimEnd, if_neg (mt List.isEmpty_iff.1 hname)]

/-- A line is not read under the name of a header in upper case exactly if it is not one of the header. -/
theorem forall_readHeader_iff :
    (∀ entry, readHeader line = some entry → entry.1 ≠ upperAscii name) ↔ ¬ Names line name := by
  simp only [Prod.forall, readHeader_eq_some_iff, Names, sameIgnoringCase_iff]
  constructor
  · rintro h ⟨written, value, hline, hname⟩
    exact h _ value ⟨written, hline, rfl⟩ hname
  · rintro h _ value ⟨written, hline, rfl⟩ hname
    exact h ⟨written, value, hline, hname⟩

/-- Of a line only what is not blank at its ends matters. -/
theorem readHeader_congr (h : trimmed line = trimmed other) : readHeader line = readHeader other := by
  rw [readHeader, h, ← readHeader]

/-- Of the lines of a datagram only what is not blank at their ends matters. -/
theorem readHeaders_congr {lines others : List (List Char)}
    (h : lines.map trimmed = others.map trimmed) : readHeaders lines = readHeaders others := by
  have hblank : ∀ line : List Char, line.all isBlank = (trimmed line).isEmpty := by
    intro line
    rw [Bool.eq_iff_iff, List.isEmpty_iff, trimmed_eq_nil_iff, List.all_eq_true]
  induction lines generalizing others with
  | nil => rw [List.map_eq_nil_iff.1 h.symm]
  | cons line lines ih =>
    cases others with
    | nil => cases h
    | cons other others =>
      obtain ⟨hline, hlines⟩ := List.cons.inj h
      have hrest := ih hlines
      rw [readHeaders, readHeaders] at hrest ⊢
      rw [List.takeWhile_cons, List.takeWhile_cons, hblank line, hblank other, hline]
      split
      · rw [List.filterMap_cons, List.filterMap_cons, readHeader_congr hline, hrest]
      · rfl

/-! ## Headers -/

variable {lines : List (List Char)}

/-- What is found under the name of a header in upper case is what its first line gives. -/
theorem lookup_readHeaders_eq_some_iff :
    (readHeaders lines).lookup (upperAscii name) = some value ↔
      ∃ line written, IsFirst (fun other => ¬ Names other name) (headOf lines) line ∧
        Declares line written value ∧ sameIgnoringCase written name = true := by
  rw [readHeaders, lookup_eq_some_iff_isFirst, isFirst_filterMap_iff]
  simp only [forall_readHeader_iff, readHeader_eq_some_iff, sameIgnoringCase_iff, headOf,
    exists_and_left]
  exact exists_congr fun line => and_congr_right fun _ => exists_congr fun written =>
    and_congr_right fun _ => eq_comm

/-- Nothing is found under the name of a header in upper case exactly if no line is one of it. -/
theorem lookup_readHeaders_eq_none_iff :
    (readHeaders lines).lookup (upperAscii name) = none ↔ ∀ line ∈ headOf lines, ¬ Names line name := by
  rw [readHeaders, lookup_eq_none_iff_forall_ne, List.forall_mem_filterMap]
  exact forall₂_congr fun line _ => forall_readHeader_iff

/-- The headers of a response that was read are what the lines behind its status line say. -/
theorem Response.header_eq_iff_of_ofBytes {bytes : Text.Bytes} {response : Response}
    (h : Response.ofBytes? bytes = some response) :
    ∃ cs status lines, Text.utf8Chars? bytes = some cs ∧
      (∀ all, AreLines cs all ↔ all = status :: lines) ∧
      ∀ name value, response.header name = value ↔ HasValue lines name value := by
  obtain ⟨cs, hcs, hread⟩ := Option.bind_eq_some_iff.1 h
  obtain ⟨all, hall⟩ := exists_areLines cs
  have hkept := hall.map_trimmed
  split at hread
  · cases hread
  · next first rest hlines =>
    obtain ⟨⟨code, reason⟩, _, rfl⟩ := Option.map_eq_some_iff.1 hread
    rw [hlines] at hkept
    cases all with
    | nil => cases hkept
    | cons status lines =>
      have hheaders : readHeaders rest = readHeaders lines :=
        readHeaders_congr (List.cons.inj hkept).2
      refine ⟨cs, status, lines, hcs, fun others => ⟨fun h => h.unique hall, fun h => h ▸ hall⟩,
        fun name value => ?_⟩
      rw [Response.header, Option.getD_eq_iff, HasValue, ← lookup_readHeaders_eq_some_iff,
        ← lookup_readHeaders_eq_none_iff, ← hheaders, eq_comm (a := "")]

/-- A datagram with a line without a colon, a nameless one, a repeated header with colons in its value,
and a header behind the blank line. -/
theorem Response.header_eq_iff_of_ofBytes_repeated :
    ∃ bytes response, bytes = Text.utf8Bytes ("HTTP/1.1 200 OK\r\nno colon\r\n : nameless\n" ++
        "Location : http://10.0.0.1:80/a\r\nLOCATION: other\r\n \t\r\nUSN: late\r\n") ∧
      Response.ofBytes? bytes = some response ∧
      response.header "location" = "http://10.0.0.1:80/a" ∧ response.header "USN" = "" ∧
      ∃ cs status lines, Text.utf8Chars? bytes = some cs ∧
        (∀ all, AreLines cs all ↔ all = status :: lines) ∧
        ∀ name value, response.header name = value ↔ HasValue lines name value := by
  have hread : Response.ofBytes? (Text.utf8Bytes ("HTTP/1.1 200 OK\r\nno colon\r\n : nameless\n" ++
      "Location : http://10.0.0.1:80/a\r\nLOCATION: other\r\n \t\r\nUSN: late\r\n")) =
        some ⟨200, "OK", [("LOCATION", "http://10.0.0.1:80/a"), ("LOCATION", "other")]⟩ := by
    decide +kernel
  exact ⟨_, _, rfl, hread, by decide, by decide, Response.header_eq_iff_of_ofBytes hread⟩

end NatGateway.Ssdp
