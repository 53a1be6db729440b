import NatGateway.Proofs.Ssdp.Request
import NatGateway.Proofs.Text.Integer

/-!
# Status of a response

Which datagrams are responses: those whose first line tells a version of HTTP and a status. The line is
cut at its first two spaces, so a version and a status are each one word, and all that follows is the
reason. Nothing behind the first line can make a datagram a response or keep it from being one. A
request starts with its method, so a searcher that hears its own request does not take it for an answer.
-/

namespace NatGateway.Ssdp

open NatGateway.Text (AreDigits Bytes IntegerType StandsFor isBlank splitFirst?
  splitFirst?_eq_none_iff splitFirst?_eq_some_iff trimEnd trimmed trimmed_append_cons utf8Bytes)

/-! ## Status lines -/

/-- Whether characters are a version of HTTP: they begin with `HTTP/` in any letter case, and no space
is among them. -/
def IsVersion (version : List Char) : Prop :=
  ' ' ∉ version ∧ "HTTP/".toList <+: version.map Char.toUpper

/-- Whether characters are a status: decimal digits, perhaps behind a plus, of a number of sixteen
bits. -/
def IsStatus (code : List Char) (status : Nat) : Prop := StandsFor false code status ∧ status ≤ 65535

/-- Whether a line without white space at its ends tells a status and a reason: they stand behind a
version, each behind one space. The reason may be missing, and is empty then. -/
inductive TellsStatus : List Char → Nat → String → Prop
  | bare {version code : List Char} {status : Nat} (hversion : IsVersion version)
      (hstatus : IsStatus code status) : TellsStatus (version ++ ' ' :: code) status ""
  | reasoned {version code reason : List Char} {status : Nat} (hversion : IsVersion version)
      (hstatus : IsStatus code status) :
      TellsStatus (version ++ ' ' :: (code ++ ' ' :: reason)) status
        (String.ofList (trimmed reason))

variable {line code reason : List Char} {status : Nat}

/-- There is no space in a status. -/
theorem IsStatus.not_mem (h : IsStatus code status) : ' ' ∉ code := by
  have hdigits : ∀ {digits : List Char}, AreDigits digits → ' ' ∉ digits := by
    intro digits hdigits hmem
    have hspace := hdigits.2 ' ' hmem
    revert hspace
    decide
  obtain ⟨hcode, _⟩ := h
  generalize (status : Int) = value at hcode
  cases hcode with
  | plain h => exact hdigits h
  | plus h =>
    rw [List.mem_cons, not_or]
    exact ⟨by decide, hdigits h⟩
  | minus hsigned => cases hsigned

/-- What tells a status begins with a version. -/
theorem TellsStatus.exists_version {shown : String} (h : TellsStatus line status shown) :
    ∃ version rest, IsVersion version ∧ line = version ++ ' ' :: rest := by
  cases h with
  | bare hversion _ => exact ⟨_, _, hversion, rfl⟩
  | reasoned hversion _ => exact ⟨_, _, hversion, rfl⟩

/-- A status is read as a number of sixteen bits without a sign. -/
theorem readStatus_eq_ok_iff {value : Int} :
    IntegerType.u16.read code = .ok value ↔ ∃ status : Nat, value = status ∧ IsStatus code status := by
  have hsigned : IntegerType.u16.signed = false := rfl
  have htop : IntegerType.u16.top = 65535 := by decide
  have hdepth : IntegerType.u16.depth = 0 := rfl
  rw [IntegerType.read_eq_ok_iff, IntegerType.Holds, hsigned, htop, hdepth]
  constructor
  · rintro ⟨hcode, hlow, hhigh⟩
    obtain ⟨status, rfl⟩ := Int.eq_ofNat_of_zero_le (show 0 ≤ value by omega)
    exact ⟨status, rfl, hcode, by omega⟩
  · rintro ⟨status, rfl, hcode, htop⟩
    exact ⟨hcode, by omega, by omega⟩

/-- What is read of a status and a reason that were cut apart. -/
theorem readParts_eq_some_iff {shown : String} :
    (match IntegerType.u16.read code with
      | .ok value => some (value.toNat, String.ofList reason)
      | .error _ => none) = some (status, shown) ↔
      IsStatus code status ∧ shown = String.ofList reason := by
  cases hread : IntegerType.u16.read code with
  | ok value =>
    obtain ⟨told, rfl, htold⟩ := readStatus_eq_ok_iff.1 hread
    simp only [Int.toNat_natCast, Option.some.injEq, Prod.mk.injEq]
    constructor
    · rintro ⟨rfl, rfl⟩
      exact ⟨htold, rfl⟩
    · rintro ⟨hstatus, rfl⟩
      have hvalue := hread.symm.trans (readStatus_eq_ok_iff.2 ⟨status, rfl, hstatus⟩)
      exact ⟨Int.ofNat.inj (Except.ok.inj hvalue), rfl⟩
  | error _ =>
    refine ⟨fun h => by simp at h, fun ⟨hstatus, _⟩ => ?_⟩
    rw [readStatus_eq_ok_iff.2 ⟨status, rfl, hstatus⟩] at hread
    cases hread

/-- A version is recognised by its text in upper case. -/
theorem beginsWith_upperAscii_iff {version : List Char} :
    Text.beginsWith (Text.upperAscii (String.ofList version)) "HTTP/" = true ↔
      "HTTP/".toList <+: version.map Char.toUpper := by
  simp only [Text.beginsWith_iff, Text.upperAscii, String.toList_ofList]

/-- What is read of a status line is what it tells without the white space at its ends. -/
theorem readStatusLine_eq_some_iff {shown : String} :
    readStatusLine line = some (status, shown) ↔ TellsStatus (trimmed line) status shown := by
  rw [readStatusLine, Option.bind_eq_some_iff]
  constructor
  · rintro ⟨⟨version, rest⟩, hcut, hread⟩
    obtain ⟨hline, hspace⟩ := splitFirst?_eq_some_iff.1 hcut
    rw [hline]
    dsimp only at hread
    cases hhttp : Text.beginsWith (Text.upperAscii (String.ofList version)) "HTTP/" with
    | false => simp [hhttp] at hread
    | true =>
      have hversion : IsVersion version := ⟨hspace, beginsWith_upperAscii_iff.1 hhttp⟩
      simp only [hhttp, Bool.not_true, Bool.false_eq_true, if_false] at hread
      cases hparts : splitFirst? ' ' rest with
      | none =>
        rw [hparts] at hread
        obtain ⟨hstatus, rfl⟩ := readParts_eq_some_iff.1 hread
        exact .bare hversion hstatus
      | some parts =>
        obtain ⟨rfl, _⟩ := splitFirst?_eq_some_iff.1 hparts
        rw [hparts] at hread
        obtain ⟨hstatus, rfl⟩ := readParts_eq_some_iff.1 hread
        exact .reasoned hversion hstatus
  · intro h
    generalize hline : trimmed line = told at h
    cases h with
    | @bare version code _ hversion hstatus =>
      refine ⟨(version, code), splitFirst?_eq_some_iff.2 ⟨rfl, hversion.1⟩, ?_⟩
      simp only [beginsWith_upperAscii_iff.2 hversion.2, Bool.not_true, Bool.false_eq_true, if_false]
      rw [splitFirst?_eq_none_iff.2 hstatus.not_mem]
      exact readParts_eq_some_iff.2 ⟨hstatus, rfl⟩
    | @reasoned version code reason _ hversion hstatus =>
      refine ⟨(version, code ++ ' ' :: reason), splitFirst?_eq_some_iff.2 ⟨rfl, hversion.1⟩, ?_⟩
      simp only [beginsWith_upperAscii_iff.2 hversion.2, Bool.not_true, Bool.false_eq_true, if_false]
      rw [splitFirst?_eq_some_iff.2 ⟨rfl, hstatus.not_mem⟩]
      exact readParts_eq_some_iff.2 ⟨hstatus, rfl⟩

/-! ## Datagrams -/

namespace Response

/-- A datagram is read as a response with a status and a reason exactly if it is the bytes of a text whose
first line tells them. -/
theorem exists_ofBytes?_iff {bytes : Bytes} {shown : String} :
    (∃ response, ofBytes? bytes = some response ∧ response.status = status ∧
        response.reason = shown) ↔
      ∃ text line lines, bytes = utf8Bytes text ∧ AreLines text.toList (line :: lines) ∧
        TellsStatus (trimmed line) status shown := by
  constructor
  · rintro ⟨response, hread, rfl, rfl⟩
    obtain ⟨cs, hcs, hlines⟩ := Option.bind_eq_some_iff.1 hread
    obtain ⟨all, hall⟩ := exists_areLines cs
    have hkept := hall.map_trimmed
    split at hlines
    · cases hlines
    · next first rest heq =>
      obtain ⟨⟨code, reason⟩, hstatus, rfl⟩ := Option.map_eq_some_iff.1 hlines
      rw [heq] at hkept
      cases all with
      | nil => cases hkept
      | cons line lines =>
        refine ⟨String.ofList cs, line, lines, ?_, by rwa [String.toList_ofList], ?_⟩
        · rw [← Text.utf8Chars?_eq_some_toList_iff, String.toList_ofList]
          exact hcs
        · rw [← (List.cons.inj hkept).1]
          exact readStatusLine_eq_some_iff.1 hstatus
  · rintro ⟨text, line, lines, rfl, hlines, htells⟩
    have hkept := hlines.map_trimmed
    cases hcut : linesOf text.toList with
    | nil =>
      rw [hcut] at hkept
      cases hkept
    | cons first rest =>
      rw [hcut] at hkept
      rw [← (List.cons.inj hkept).1, ← readStatusLine_eq_some_iff] at htells
      refine ⟨⟨status, shown, readHeaders rest⟩, ?_, rfl, rfl⟩
      rw [ofBytes?, Text.utf8Chars?_utf8Bytes, Option.bind_some, hcut]
      simp only [htells, Option.map_some]

/-- What stands first in a text stands first in its first line, if it is not white space. -/
theorem trimmed_head_of_areLines {c : Char} (hc : isBlank c = false) {cs : List Char}
    {lines : List (List Char)} (h : AreLines (c :: cs) (line :: lines)) :
    ∃ rest, trimmed line = c :: rest := by
  have hhead (rest : List Char) : trimmed (c :: rest) = c :: trimEnd rest :=
    show trimmed ([] ++ c :: rest) = [] ++ c :: trimEnd rest from trimmed_append_cons hc
  generalize htext : c :: cs = text at h
  cases h with
  | last => exact ⟨_, htext ▸ hhead cs⟩
  | @cons kept _ rest _ hkept hline _ =>
    cases kept with
    | nil =>
      obtain ⟨rfl, _⟩ := List.cons.inj htext
      exact absurd hc (by decide)
    | cons first kept =>
      obtain ⟨rfl, _⟩ := List.cons.inj htext
      exact ⟨_, hline.trimmed_eq ▸ hhead kept⟩

/-- A datagram is no response if its text starts with a character other than white space and the first
letter of the name of the protocol. -/
theorem ofBytes?_eq_none_of_head {c : Char} (hc : isBlank c = false) (hupper : c.toUpper ≠ 'H')
    (rest : Bytes) : ofBytes? (Text.charBytes c ++ rest) = none := by
  rw [Option.eq_none_iff_forall_ne_some]
  intro response hread
  obtain ⟨text, line, lines, hbytes, hlines, htells⟩ :=
    exists_ofBytes?_iff.1 ⟨response, hread, rfl, rfl⟩
  -- The text starts with the character, hence its first line does, which is to start with a version.
  obtain ⟨cs, hcs⟩ : ∃ cs, text.toList = c :: cs := by
    rw [← Text.utf8Chars?_eq_some_toList_iff, Text.utf8Chars?_charBytes_append] at hbytes
    obtain ⟨cs, _, hcs⟩ := Option.map_eq_some_iff.1 hbytes
    exact ⟨cs, hcs.symm⟩
  obtain ⟨tail, htail⟩ := trimmed_head_of_areLines hc (hcs ▸ hlines)
  obtain ⟨version, more, ⟨_, after, hafter⟩, hversion⟩ := htells.exists_version
  rw [htail] at hversion
  cases version with
  | nil => simp at hafter
  | cons first version =>
    obtain ⟨rfl, _⟩ := List.cons.inj hversion
    exact hupper (List.cons.inj hafter).1.symm

/-- A datagram is no response if it starts with a method, which is no version. -/
theorem ofBytes?_eq_none_of_method {method : String} {c : Char} {cs : List Char}
    (hmethod : method.toList = c :: cs) (hc : isBlank c = false) (hupper : c.toUpper ≠ 'H')
    (rest : Bytes) : ofBytes? (utf8Bytes method ++ rest) = none := by
  rw [utf8Bytes, hmethod, List.flatMap_cons, List.append_assoc]
  exact ofBytes?_eq_none_of_head hc hupper _

/-- A request starts with the letter of its method. -/
theorem datagram_head (request : SearchRequest) : ∃ cs, request.datagram.toList = 'M' :: cs := by
  rw [SearchRequest.datagram_toList, written, List.flatMap_cons]
  exact ⟨_, rfl⟩

/-- What is accepted as a response, of all datagrams: the bytes of a text with a first line that, without
the white space around it, tells a version, a status and perhaps a reason; and then the status and the
reason are those. So no notice and no search is accepted, whatever follows its method, and in particular
no request that was sent and comes back. -/
theorem accepted_iff_tellsStatus :
    (∀ bytes status shown,
      (∃ response, ofBytes? bytes = some response ∧ response.status = status ∧
          response.reason = shown) ↔
        ∃ text line lines, bytes = utf8Bytes text ∧ AreLines text.toList (line :: lines) ∧
          TellsStatus (trimmed line) status shown) ∧
      (∀ method ∈ ["NOTIFY", "M-SEARCH"], ∀ rest : Bytes,
        ofBytes? (utf8Bytes method ++ rest) = none) ∧
      ∀ request : SearchRequest, ofBytes? request.bytes = none := by
  refine ⟨fun bytes status shown => exists_ofBytes?_iff, ?_, fun request => ?_⟩
  · simp only [List.forall_mem_cons, List.not_mem_nil, false_imp_iff, implies_true, and_true]
    exact ⟨ofBytes?_eq_none_of_method rfl (show isBlank 'N' = false by decide) (by decide),
      ofBytes?_eq_none_of_method rfl (show isBlank 'M' = false by decide) (by decide)⟩
  · obtain ⟨cs, hcs⟩ := datagram_head request
    have hrefused := ofBytes?_eq_none_of_method hcs (by decide) (by decide) []
    rwa [List.append_nil] at hrefused

/-- A response with white space around its first line, small letters, a plus, a zero in front and a second
space; and a notice that names the protocol behind its method. -/
theorem accepted_iff_tellsStatus_plus :
    (∃ response, ofBytes? (utf8Bytes "\thttp/1.0 +0200  All fine \r\nno header") = some response ∧
        response.status = 200 ∧ response.reason = "All fine") ∧
      ofBytes? (utf8Bytes "NOTIFY" ++ utf8Bytes " HTTP/1.1 200 OK\r\n") = none := by
  have hstatus : IsStatus "+0200".toList 200 :=
    ⟨@StandsFor.plus false "0200".toList ⟨by decide, List.all_eq_true.1 (by decide)⟩, by decide⟩
  have hversion : IsVersion "http/1.0".toList := ⟨by decide, by decide⟩
  have htells : TellsStatus (trimmed "\thttp/1.0 +0200  All fine ".toList) 200 "All fine" :=
    @TellsStatus.reasoned _ _ " All fine".toList _ hversion hstatus
  have hrest : AreLines "no header".toList ["no header".toList] := .last (by decide) (by decide)
  have hlines : AreLines "\thttp/1.0 +0200  All fine \r\nno header".toList
      ["\thttp/1.0 +0200  All fine ".toList, "no header".toList] :=
    @AreLines.cons "\thttp/1.0 +0200  All fine \r".toList _ _ _ (by decide) (.inl rfl) hrest
  exact ⟨(accepted_iff_tellsStatus.1 _ _ _).2 ⟨_, _, _, rfl, hlines, htells⟩,
    accepted_iff_tellsStatus.2.1 _ List.mem_cons_self _⟩

end Response

end NatGateway.Ssdp
