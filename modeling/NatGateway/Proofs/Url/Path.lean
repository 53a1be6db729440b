import NatGateway.Proofs.Url.Encoding
import NatGateway.Proofs.Url.Text

/-!
# Reading paths

The path that is read is regular: it is cut at its slashes, the marks that end it are left in no
segment, and steps that are dots are taken and not kept. Of the query and the fragment behind a path
neither holds a mark that would end it.
-/

namespace NatGateway.Url

variable {kind : SchemeKind} {cs : List Char}

/-! ## Endings -/

/-- A fragment holds no null character. -/
theorem null_not_mem_readFragment (cs : List Char) : '\x00' ∉ (readFragment cs).toList := by
  have hmarks : ['\x00'].Disjoint (readFragment cs).toList := by
    refine disjoint_percentEncode fun c hc => ?_
    rw [List.mem_singleton.1 hc]
    exact ⟨by decide, .inl (by decide)⟩
  exact List.singleton_disjoint.1 hmarks

/-- The query and the fragment that are read hold none of the marks behind them. -/
theorem readEnding_isRegular (kind : SchemeKind) (cs : List Char) :
    (∀ query ∈ (readEnding kind cs).query, ['#', '\x00'].Disjoint query.toList) ∧
      ∀ fragment ∈ (readEnding kind cs).fragment, '\x00' ∉ fragment.toList := by
  have hquery : ∀ rest, ['#', '\x00'].Disjoint
      (percentEncode (encodedInQuery kind.isSpecial) rest).toList := by
    have hmarks : ∀ c ∈ ['#', '\x00'], isEncodingChar c = false ∧
        encodedInQuery kind.isSpecial c = true := by
      refine List.forall_iff_forall_mem.1 ?_
      cases kind <;> decide
    exact fun rest => disjoint_percentEncode fun c hc =>
      ⟨(hmarks c hc).1, .inl (hmarks c hc).2⟩
  unfold readEnding
  split
  · next rest =>
    dsimp only
    split
    · next fragment _ =>
      constructor
      · rintro _ ⟨⟩
        exact hquery _
      · rintro _ ⟨⟩
        exact null_not_mem_readFragment fragment
    · constructor
      · rintro _ ⟨⟩
        exact hquery _
      · rintro _ ⟨⟩
  · next rest =>
    constructor
    · rintro _ ⟨⟩
    · rintro _ ⟨⟩
      exact null_not_mem_readFragment rest
  · constructor
    · rintro _ ⟨⟩
    · rintro _ ⟨⟩

/-! ## Paths -/

/-- A path has a segment. -/
theorem segmentsOf_ne_nil (kind : SchemeKind) (cs : List Char) : segmentsOf kind cs ≠ [] := by
  cases cs with
  | nil => exact List.cons_ne_nil [] []
  | cons c rest =>
    rw [segmentsOf]
    split
    · exact List.cons_ne_nil _ _
    · split
      · exact List.cons_ne_nil _ _
      · exact List.cons_ne_nil _ _

/-- No segment of a path holds a slash. -/
theorem slash_not_mem_segmentsOf : ∀ segment ∈ segmentsOf kind cs, '/' ∉ segment := by
  induction cs with
  | nil => exact List.forall_mem_singleton.2 List.not_mem_nil
  | cons c rest ih =>
    rw [segmentsOf]
    split
    · exact List.forall_mem_cons.2 ⟨List.not_mem_nil, ih⟩
    · next hslash =>
      have hc : '/' ≠ c := by
        rintro rfl
        exact hslash rfl
      split
      · next segment segments hsegments =>
        rw [hsegments, List.forall_mem_cons] at ih
        exact List.forall_mem_cons.2 ⟨List.not_mem_cons_of_ne_of_not_mem hc ih.1, ih.2⟩
      · exact List.forall_mem_singleton.2 (List.not_mem_cons_of_ne_of_not_mem hc List.not_mem_nil)

/-- A segment without slashes is written without any mark that ends it. -/
theorem disjoint_writtenSegment {segment : List Char} (h : '/' ∉ segment) :
    endMarks.Disjoint (writtenSegment kind segment).toList := by
  have hencoded : ∀ {segment : List Char}, '/' ∉ segment →
      endMarks.Disjoint (percentEncode encodedInPath segment).toList := by
    have hmarks : ∀ c ∈ endMarks, isEncodingChar c = false ∧
        (c = '/' ∨ encodedInPath c = true) := List.forall_iff_forall_mem.1 (by decide)
    intro segment h
    refine disjoint_percentEncode fun c hc => ⟨(hmarks c hc).1, ?_⟩
    rcases (hmarks c hc).2 with rfl | hpath
    · exact .inr h
    · exact .inl hpath
  unfold writtenSegment
  split
  · next a b =>
    split
    · next hdrive =>
      have hletter : ∀ c ∈ endMarks, c.isAlpha = false ∧ c ≠ ':' :=
        List.forall_iff_forall_mem.1 (by decide)
      have ha : a.isAlpha = true := (Bool.and_eq_true_iff.1 hdrive).1
      intro c hmark hc
      rw [String.toList_ofList, List.mem_cons, List.mem_singleton] at hc
      rcases hc with rfl | rfl
      · rw [(hletter c hmark).1] at ha
        cases ha
      · exact (hletter _ hmark).2 rfl
    · exact hencoded h
  · exact hencoded h

/-- Going up adds no segment. -/
theorem mem_of_mem_shorten {segment : String} {path : List String}
    (h : segment ∈ shorten kind path) : segment ∈ path := by
  unfold shorten at h
  split at h
  · split at h
    · exact h
    · cases h
  · exact List.dropLast_subset _ h

/-- The empty text can be a segment. -/
theorem isSegment_empty : IsSegment "" := ⟨List.disjoint_nil_right endMarks, by decide⟩

/-- What is appended to segments are segments. -/
theorem isSegment_of_mem_appendSegments {path : List String} {segments : List (List Char)}
    (hpath : ∀ segment ∈ path, IsSegment segment) (h : ∀ segment ∈ segments, '/' ∉ segment) :
    ∀ segment ∈ appendSegments kind path segments, IsSegment segment := by
  have hconcat : ∀ {list : List String} {last : String}, (∀ segment ∈ list, IsSegment segment) →
      IsSegment last → ∀ segment ∈ list ++ [last], IsSegment segment := by
    intro list last hlist hlast
    exact List.forall_mem_append.2 ⟨hlist, List.forall_mem_singleton.2 hlast⟩
  induction segments generalizing path with
  | nil => exact hpath
  | cons segment rest ih =>
    obtain ⟨hsegment, hrest⟩ := List.forall_mem_cons.1 h
    have hstep : ∀ {list : List String}, (∀ segment ∈ list, IsSegment segment) →
        ∀ segment ∈ if rest.isEmpty then list ++ [""] else list, IsSegment segment := by
      intro list hlist
      split
      · exact hconcat hlist isSegment_empty
      · exact hlist
    rw [appendSegments]
    split
    · exact ih (hstep fun segment hmem => hpath segment (mem_of_mem_shorten hmem)) hrest
    · split
      · exact ih (hstep hpath) hrest
      · next hsingle =>
        refine ih (hconcat hpath ⟨disjoint_writtenSegment hsegment, fun hdot => hsingle ?_⟩) hrest
        rw [hdot]
        decide

/-- Something is left once segments were appended to a path. -/
theorem appendSegments_ne_nil (kind : SchemeKind) (path : List String) {segments : List (List Char)}
    (h : segments ≠ []) : appendSegments kind path segments ≠ [] := by
  induction segments generalizing path with
  | nil => exact absurd rfl h
  | cons segment rest ih =>
    rw [appendSegments]
    cases rest with
    | nil =>
      split
      · exact List.append_ne_nil_of_right_ne_nil _ (List.cons_ne_nil _ _)
      · split
        · exact List.append_ne_nil_of_right_ne_nil _ (List.cons_ne_nil _ _)
        · exact List.append_ne_nil_of_right_ne_nil _ (List.cons_ne_nil _ _)
    | cons next rest =>
      split
      · exact ih _ (List.cons_ne_nil _ _)
      · split
        · exact ih _ (List.cons_ne_nil _ _)
        · exact ih _ (List.cons_ne_nil _ _)

/-- The segments of a tidy path are segments, and there is one. -/
theorem tidy_isSegment {segments : List String} (h : ∀ segment ∈ segments, IsSegment segment)
    (hne : segments ≠ []) :
    (∀ segment ∈ tidy kind segments, IsSegment segment) ∧ tidy kind segments ≠ [] := by
  unfold tidy
  split
  · dsimp only
    split
    · exact ⟨List.forall_mem_singleton.2 isSegment_empty, List.cons_ne_nil _ _⟩
    · next hkept =>
      exact ⟨fun segment hsegment => h segment (List.dropWhile_sublist _ |>.subset hsegment),
        mt List.isEmpty_iff.2 hkept⟩
  · exact ⟨h, hne⟩

/-- A path that is read after segments is regular. -/
theorem readPath_isRegular {path : List String} (h : ∀ segment ∈ path, IsSegment segment)
    (hasAuthority : Bool) : (readPath kind path cs).1.IsRegular hasAuthority := by
  have hne := appendSegments_ne_nil kind path
    (segmentsOf_ne_nil kind (cs.takeWhile fun c => !endsPath c))
  obtain ⟨hplain, htidy⟩ := tidy_isSegment
    (isSegment_of_mem_appendSegments h slash_not_mem_segmentsOf) hne
  exact .segments (fun _ => htidy) hplain

end NatGateway.Url
