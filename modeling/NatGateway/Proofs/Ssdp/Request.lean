import NatGateway.Proofs.Ssdp.Header
import NatGateway.Proofs.Text.Decimal
import NatGateway.Proofs.Text.Utf8
import NatGateway.Ssdp.Request

/-!
# What a search request says

A request is read line by line, as a response is. It says what was asked if its headers are the place
that listens, the kind of the request, the wait and the search type, and if it ends with the blank line
behind them. The search type is written into its line as it is, so it is said exactly if it stays in that
line: a search type with a line feed breaks the line, and then a part of it is read as a header of its
own, or as no header, or the request ends before it.
-/

namespace NatGateway.Ssdp

open NatGateway.Text (Bytes forall_isBlank_of_trimmed_eq isBlank isBlank_of_mem_decimal toString_toList
  trim trimmed trimmed_eq_nil_iff trimmed_of_forall upperAscii utf8Bytes)

variable {line : List Char} {lines rest : List (List Char)} {entry : String × String}

/-! ## Headers one by one -/

/-- A line that gives a header is not blank. -/
theorem all_isBlank_of_readHeader (h : readHeader line = some entry) : line.all isBlank = false := by
  rw [Bool.eq_false_iff]
  intro hblank
  have hnothing : trimmed line = [] := trimmed_eq_nil_iff.2 (List.all_eq_true.1 hblank)
  rw [readHeader, hnothing] at h
  cases h

/-- A header comes in front of those of the lines behind it. -/
theorem readHeaders_cons (h : readHeader line = some entry) :
    readHeaders (line :: rest) = entry :: readHeaders rest := by
  rw [readHeaders, readHeaders, List.takeWhile_cons_of_pos, List.filterMap_cons_some h]
  rw [all_isBlank_of_readHeader h, Bool.not_false]

/-- A line that gives a header stands in front of the first blank line. -/
theorem headOf_cons (h : readHeader line = some entry) :
    headOf (line :: rest) = line :: headOf rest := by
  rw [headOf, headOf, List.takeWhile_cons_of_pos]
  rw [all_isBlank_of_readHeader h, Bool.not_false]

/-- The line of a header: its name, a colon with a space, and its value. -/
def headerLine (entry : String × String) : List Char :=
  entry.1.toList ++ ':' :: ' ' :: entry.2.toList

/-- Whether a text is the name of a header in upper case. -/
def isHeaderName (name : String) : Bool :=
  !name.isEmpty && upperAscii name == name && name.toList.all fun c => c != ':' && !isBlank c

/-- A written header is read under its name, and its value without the white space around it. -/
theorem readHeader_headerLine (h : isHeaderName entry.1 = true) :
    readHeader (headerLine entry) = some (entry.1, trim entry.2) := by
  simp only [isHeaderName, Bool.and_eq_true, Bool.not_eq_true', beq_iff_eq, List.all_eq_true,
    bne_iff_ne] at h
  obtain ⟨⟨hempty, hupper⟩, hchars⟩ := h
  have hname : trimmed entry.1.toList = entry.1.toList := trimmed_of_forall fun c hc => (hchars c hc).2
  have hvalue : trimmed (' ' :: entry.2.toList) = trimmed entry.2.toList := rfl
  refine readHeader_eq_some_iff.2 ⟨entry.1, ⟨entry.1.toList, ' ' :: entry.2.toList, rfl,
    fun hmem => (hchars ':' hmem).1 rfl, ?_, ?_, ?_⟩, hupper.symm⟩
  · rw [hname]
    intro hnil
    rw [String.toList_eq_nil_iff.1 hnil] at hempty
    cases hempty
  · rw [hname, String.ofList_toList]
  · rw [hvalue, trim]

/-! ## Requests -/

/-- The line that a request begins with. -/
def requestLine : String := "M-SEARCH * HTTP/1.1"

/-- The headers of a request that do not depend on the search type. -/
def fixedHeaders (wait : Nat) : List (String × String) :=
  [("HOST", "239.255.255.250:1900"), ("MAN", "\"ssdp:discover\""), ("MX", toString wait)]

/-- What is asked of those who listen: nothing but this. -/
def askedHeaders (searchType : String) (wait : Nat) : List (String × String) :=
  fixedHeaders wait ++ [("ST", trim searchType)]

/-- Whether a datagram is one request and asks for a search type within a wait: its lines are that of a
request, lines with exactly the headers that are asked, and a blank line with nothing behind it. -/
def Asks (datagram : Bytes) (searchType : String) (wait : Nat) : Prop :=
  ∃ text lines, datagram = utf8Bytes text ∧ AreLines text.toList (requestLine.toList :: lines) ∧
    lines = headOf lines ++ [[]] ∧
    ∀ name, (readHeaders lines).lookup name = (askedHeaders searchType wait).lookup name

/-- The line of the search type and what stands behind it. -/
def typeText (searchType : String) : List Char :=
  headerLine ("ST", searchType) ++ ['\r', '\n', '\r', '\n']

variable {searchType : String} {wait : Nat}

/-- The group that listens, and its port. -/
theorem destination_eq : destination = "239.255.255.250:1900" := by decide +kernel

/-- A request is its first line, the headers that do not depend on the search type, and the line of the
search type with a blank line behind it. -/
theorem SearchRequest.datagram_toList (request : SearchRequest) :
    request.datagram.toList =
      written (requestLine.toList :: (fixedHeaders request.wait).map headerLine) ++
        typeText request.searchType := by
  unfold datagram fixedHeaders
  rw [destination_eq]
  generalize toString request.wait = wait
  simp only [written, requestLine, typeText, headerLine, String.toList_append, List.map_cons,
    List.map_nil, List.flatMap_cons, List.flatMap_nil, List.append_assoc]
  simp

/-- The headers that do not depend on the search type are read as they were written. -/
theorem readHeader_fixed : ∀ entry ∈ fixedHeaders wait, readHeader (headerLine entry) = some entry := by
  have hwait : trim (toString wait) = toString wait := by
    rw [trim, trimmed_of_forall, String.ofList_toList]
    rw [toString_toList]
    exact fun c hc => isBlank_of_mem_decimal hc
  have hplace : trim "239.255.255.250:1900" = "239.255.255.250:1900" := by decide
  have hkind : trim "\"ssdp:discover\"" = "\"ssdp:discover\"" := by decide
  have hnames : ∀ entry ∈ fixedHeaders wait, isHeaderName entry.1 = true ∧ trim entry.2 = entry.2 := by
    simp only [fixedHeaders, List.forall_mem_cons, List.not_mem_nil, false_imp_iff, implies_true,
      and_true]
    exact ⟨⟨by decide, hplace⟩, ⟨by decide, hkind⟩, by decide, hwait⟩
  intro entry hentry
  obtain ⟨hname, hvalue⟩ := hnames entry hentry
  rw [readHeader_headerLine hname, hvalue]

/-- No line feed stands in the lines in front of the search type. -/
theorem forall_mem_front :
    ∀ line ∈ requestLine.toList :: (fixedHeaders wait).map headerLine, '\n' ∉ line := by
  have hwait : '\n' ∉ (toString wait).toList := by
    rw [toString_toList]
    exact fun hmem => absurd (isBlank_of_mem_decimal hmem) (by decide)
  simp only [fixedHeaders, List.map_cons, List.map_nil, List.forall_mem_cons, List.not_mem_nil,
    false_imp_iff, implies_true, and_true]
  refine ⟨by decide, by decide, by decide, ?_⟩
  simp only [headerLine, List.mem_append, List.mem_cons, not_or]
  exact ⟨by decide, by decide, by decide, hwait⟩

/-- The fixed headers of a request are read in front of those of the lines behind them. -/
theorem readHeaders_fixed (rest : List (List Char)) :
    readHeaders ((fixedHeaders wait).map headerLine ++ rest) = fixedHeaders wait ++ readHeaders rest ∧
      headOf ((fixedHeaders wait).map headerLine ++ rest) =
        (fixedHeaders wait).map headerLine ++ headOf rest := by
  have hread := @readHeader_fixed wait
  generalize fixedHeaders wait = headers at hread ⊢
  induction headers with
  | nil => exact ⟨rfl, rfl⟩
  | cons entry headers ih =>
    obtain ⟨hentry, hheaders⟩ := List.forall_mem_cons.1 hread
    obtain ⟨hrest, hhead⟩ := ih hheaders
    simp only [List.map_cons, List.cons_append, readHeaders_cons hentry, headOf_cons hentry, hrest,
      hhead, and_self]

/-- Whether a request says what was asked depends on the lines from that of the search type on. -/
theorem asks_iff_of_areLines (h : AreLines (typeText searchType) rest) :
    Asks (SearchRequest.bytes ⟨searchType, wait⟩) searchType wait ↔
      rest = headOf rest ++ [[]] ∧
        ∀ name, (fixedHeaders wait ++ readHeaders rest).lookup name =
          (askedHeaders searchType wait).lookup name := by
  obtain ⟨hheaders, hhead⟩ := @readHeaders_fixed wait rest
  have hlines := areLines_written (@forall_mem_front wait) h
  rw [← SearchRequest.datagram_toList ⟨searchType, wait⟩, List.cons_append] at hlines
  constructor
  · rintro ⟨text, lines, hbytes, htext, hend, hasked⟩
    have hsame : text.toList = (SearchRequest.datagram ⟨searchType, wait⟩).toList := by
      rw [SearchRequest.bytes, ← Text.utf8Chars?_eq_some_toList_iff, Text.utf8Chars?_utf8Bytes] at hbytes
      exact (Option.some.inj hbytes).symm
    rw [hsame] at htext
    obtain rfl := (List.cons.inj (htext.unique hlines)).2
    rw [hhead, List.append_assoc] at hend
    rw [hheaders] at hasked
    exact ⟨List.append_cancel_left hend, hasked⟩
  · rintro ⟨hend, hasked⟩
    refine ⟨_, _, rfl, hlines, ?_, ?_⟩
    · rw [hhead, List.append_assoc, ← hend]
    · rwa [hheaders]

/-- The line of the search type is read as the header of what stands in it. -/
theorem readHeader_typeLine (shown : List Char) :
    readHeader ("ST: ".toList ++ shown) = some ("ST", String.ofList (trimmed shown)) := by
  have hname : isHeaderName "ST" = true := by decide
  have hread := @readHeader_headerLine ("ST", String.ofList shown) hname
  simpa [headerLine, trim] using hread

/-- A search type without a line feed is said. -/
theorem asks_of_not_mem (h : '\n' ∉ searchType.toList) :
    Asks (SearchRequest.bytes ⟨searchType, wait⟩) searchType wait := by
  have hread := readHeader_typeLine searchType.toList
  have hline : ∀ line ∈ ["ST: ".toList ++ searchType.toList, []], '\n' ∉ line := by
    simpa using h
  have hlines : AreLines (typeText searchType) ["ST: ".toList ++ searchType.toList, []] := by
    have hwritten := areLines_written hline .none
    simpa [written, typeText, headerLine] using hwritten
  refine (asks_iff_of_areLines hlines).2 ⟨?_, fun name => ?_⟩
  · rw [headOf_cons hread]
    rfl
  · rw [readHeaders_cons hread, askedHeaders, trim]
    rfl

/-- No line stands in front of the first blank one of a text that is white space. -/
theorem headOf_of_forall_isBlank {cs : List Char} (h : AreLines cs lines)
    (hblank : ∀ c ∈ cs, isBlank c = true) : headOf lines = [] := by
  cases lines with
  | nil => rfl
  | cons line lines =>
    have hline : line.all isBlank = true :=
      List.all_eq_true.2 fun c hc => hblank c (h.subset List.mem_cons_self hc)
    rw [headOf, List.takeWhile_cons_of_neg]
    simp [hline]

/-- A search type with a line feed is not said: in its line only the part in front of the line feed is
read, and if there is nothing else in the rest, the request ends too early. -/
theorem not_asks_of_mem (h : '\n' ∈ searchType.toList) :
    ¬ Asks (SearchRequest.bytes ⟨searchType, wait⟩) searchType wait := by
  intro hasks
  obtain ⟨shown, behind, hparts, hshown⟩ := List.eq_append_cons_of_mem h
  -- The line of the search type ends at the line feed; other lines follow it.
  obtain ⟨line, hline⟩ := exists_endsLine ("ST: ".toList ++ shown)
  obtain ⟨rest, hrest⟩ := exists_areLines (behind ++ ['\r', '\n', '\r', '\n'])
  have hlines : AreLines (typeText searchType) (line :: rest) := by
    have hkept : '\n' ∉ "ST: ".toList ++ shown := by simpa using hshown
    have hboth := AreLines.cons hkept hline hrest
    simpa [typeText, headerLine, hparts] using hboth
  have hread : readHeader line = some ("ST", String.ofList (trimmed shown)) := by
    rw [← readHeader_typeLine shown]
    exact readHeader_congr hline.trimmed_eq.symm
  obtain ⟨hend, hasked⟩ := (asks_iff_of_areLines hlines).1 hasks
  rw [headOf_cons hread] at hend
  have hrestEnd : rest = headOf rest ++ [[]] := (List.cons.inj hend).2
  have htype := hasked "ST"
  rw [readHeaders_cons hread, askedHeaders] at htype
  have hsame : trimmed shown = trimmed searchType.toList :=
    String.ofList_inj.1 (by simpa [fixedHeaders, List.lookup, trim] using htype)
  have hends : ∀ c ∈ ['\r', '\n', '\r', '\n'], isBlank c = true := List.all_eq_true.1 (by decide)
  -- Nothing but white space is left behind the line feed, so the next line ends the request.
  have hblank : ∀ c ∈ behind ++ ['\r', '\n', '\r', '\n'], isBlank c = true :=
    List.forall_mem_append.2 ⟨forall_isBlank_of_trimmed_eq hshown (hparts ▸ hsame), hends⟩
  rw [headOf_of_forall_isBlank hrest hblank] at hrestEnd
  have hlength := length_le_of_areLines_blank (hrestEnd ▸ hrest)
  simp at hlength

namespace SearchRequest

/-- A request that is made says what was asked, in exactly the headers that say it and with nothing behind
its blank line, if and only if there is no line feed in the search type. -/
theorem asks_iff {request : SearchRequest} (h : make searchType wait = .ok request) :
    Asks request.bytes searchType wait ↔ '\n' ∉ searchType.toList := by
  unfold make at h
  split at h
  · cases h
  · cases h
    exact ⟨fun hasks hmem => not_asks_of_mem hmem hasks, asks_of_not_mem⟩

/-- A search type with a colon, white space at its ends and a carriage return is said. -/
theorem asks_trimmed :
    let searchType := " urn:schemas-upnp-org:device:InternetGatewayDevice:1\r"
    ∃ request, make searchType 120 = .ok request ∧ '\n' ∉ searchType.toList ∧
      Asks request.bytes searchType 120 := by
  intro searchType
  have hfeed : '\n' ∉ searchType.toList := by decide
  exact ⟨_, rfl, hfeed, (asks_iff rfl).2 hfeed⟩

/-- A search type that breaks its line adds a header of its own and leaves its own header empty. -/
theorem not_asks_addedHeader :
    ∃ request lines, make "\r\nX-ADDED: 1" 1 = .ok request ∧
      AreLines request.datagram.toList (requestLine.toList :: lines) ∧
      readHeaders lines = fixedHeaders 1 ++ [("ST", ""), ("X-ADDED", "1")] ∧
      ¬ Asks request.bytes "\r\nX-ADDED: 1" 1 := by
  let lines : List (List Char) := (fixedHeaders 1).map headerLine ++
    ["ST: ".toList, "X-ADDED: 1".toList, []]
  have hlines : ∀ line ∈ requestLine.toList :: lines, '\n' ∉ line := by decide +kernel
  have hwritten := areLines_written hlines .none
  refine ⟨⟨"\r\nX-ADDED: 1", 1⟩, lines, rfl, ?_, by decide +kernel, not_asks_of_mem (by decide)⟩
  have htext : written (requestLine.toList :: lines) ++ [] =
      (datagram ⟨"\r\nX-ADDED: 1", 1⟩).toList := by decide +kernel
  rwa [htext, List.append_nil] at hwritten

end SearchRequest

end NatGateway.Ssdp
