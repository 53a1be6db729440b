import NatGateway.Proofs.Url.Authority
import NatGateway.Url.Reader

/-!
# Texts of URLs

A URL is regular if its components are free of the marks that end them in a text. Then its text tells
the URL: the text is taken apart from the left, each component up to the first mark that it cannot
hold. No component of a regular URL holds the null character, and so no text does.
-/

namespace NatGateway.Url

open NatGateway.Text (append_inj_of_not_mem append_inj_of_stops append_separator_inj Stops
  stops_separator)

variable {isSpecial : Bool}

/-! ## Paths -/

/-- Whether a text can be a segment of a path: it holds no mark that ends one, and it is no dot. -/
def IsSegment (text : String) : Prop := endMarks.Disjoint text.toList ∧ text ≠ "."

/-- Whether a path can stand in the text of a URL. A bare text follows no authority and does not
begin with a slash; without an authority there is a segment. -/
inductive Path.IsRegular (hasAuthority : Bool) : Path → Prop
  | bare {text : String} (alone : hasAuthority = false)
      (plain : ['?', '#', '\x00'].Disjoint text.toList) (start : text.toList.head? ≠ some '/') :
      Path.IsRegular hasAuthority (.bare text)
  | segments {list : List String} (nonempty : hasAuthority = false → list ≠ [])
      (plain : ∀ segment ∈ list, IsSegment segment) : Path.IsRegular hasAuthority (.segments list)

/-- The text of segments: each follows a slash. -/
def segmentsText (list : List String) : List Char := list.flatMap fun segment => '/' :: segment.toList

/-- The text of a path of segments. -/
theorem Path.segments_text (list : List String) :
    (Path.segments list).text.toList = segmentsText list := by
  change (String.join (list.map ("/" ++ ·))).toList = _
  rw [String.toList_join, List.flatMap_map, segmentsText]
  simp

/-- Segments begin with a slash or are none. -/
theorem stops_segmentsText (list : List String) : Stops (· != '/') (segmentsText list) := by
  cases list with
  | nil => exact nofun
  | cons segment rest => exact stops_separator '/' (segment.toList ++ segmentsText rest)

/-- The text of segments without slashes tells the segments. -/
theorem segmentsText_inj {list list' : List String} (h : ∀ segment ∈ list, '/' ∉ segment.toList)
    (h' : ∀ segment ∈ list', '/' ∉ segment.toList) (heq : segmentsText list = segmentsText list') :
    list = list' := by
  induction list generalizing list' with
  | nil =>
    cases list' with
    | nil => rfl
    | cons segment' rest' => cases heq
  | cons segment rest ih =>
    cases list' with
    | nil => cases heq
    | cons segment' rest' =>
      rw [List.forall_mem_cons] at h h'
      obtain ⟨hsegment, hrest⟩ := append_inj_of_not_mem h.1 (stops_segmentsText rest) h'.1
        (stops_segmentsText rest') (List.cons.inj heq).2
      rw [String.toList_inj.1 hsegment, ih h.2 h'.2 hrest]

/-- The text of segments without some marks holds none of them, except for the slash. -/
theorem disjoint_segmentsText {list : List String}
    (h : ∀ segment ∈ list, endMarks.Disjoint segment.toList) :
    ['?', '#', '\x00'].Disjoint (segmentsText list) := by
  intro c hmark hc
  obtain ⟨segment, hsegment, hc⟩ := List.mem_flatMap.1 hc
  rcases List.mem_cons.1 hc with rfl | hc
  · revert hmark
    decide
  · exact h segment hsegment (List.mem_cons_of_mem '/' hmark) hc

/-- Segments as they stand behind a scheme: after a dot if they would begin with two slashes. -/
def dotted : List String → List String
  | "" :: second :: rest => "." :: "" :: second :: rest
  | list => list

/-- Only the dot is added. -/
theorem mem_dotted {segment : String} {list : List String} (h : segment ∈ dotted list) :
    segment = "." ∨ segment ∈ list := by
  unfold dotted at h
  split at h
  · exact List.mem_cons.1 h
  · exact .inr h

/-- The dot is told apart from segments that hold none. -/
theorem dotted_inj {list list' : List String} (h : "." ∉ list) (h' : "." ∉ list')
    (heq : dotted list = dotted list') : list = list' := by
  have hdot : ∀ {rest list : List String}, "." ∉ list → "." :: rest ≠ list := by
    rintro rest list hlist rfl
    exact hlist List.mem_cons_self
  unfold dotted at heq
  split at heq
  · split at heq
    · exact (List.cons.inj heq).2
    · exact absurd heq (hdot h')
  · split at heq
    · exact absurd heq.symm (hdot h)
    · exact heq

/-! ## URLs -/

/-- What stands between the colon of a scheme and the query: the authority behind two slashes, if
there is one, and the path. -/
def hierarchy : Option Authority → Path → List Char
  | some authority, path => '/' :: '/' :: (authority.text.toList ++ path.text.toList)
  | none, .bare text => text.toList
  | none, .segments list => segmentsText (dotted list)

/-- The lead and the path of a URL. -/
theorem lead_append_path (url : Url) :
    url.lead.toList ++ url.path.text.toList = hierarchy url.authority url.path := by
  obtain ⟨scheme, authority, path, query, fragment⟩ := url
  cases authority with
  | some authority =>
    change ("//" ++ authority.text).toList ++ path.text.toList = _
    rw [String.toList_append, List.append_assoc]
    rfl
  | none =>
    cases path with
    | bare text => rfl
    | segments list =>
      rw [Path.segments_text]
      unfold lead
      split
      · next hnone => cases hnone
      · next hsegments =>
        cases hsegments
        rfl
      · next hplain =>
        have hdotted : dotted list = list := by
          unfold dotted
          split
          · exact (hplain _ _ rfl).elim
          · rfl
        rw [hierarchy, hdotted]
        rfl

/-- The text of a URL. -/
theorem text_toList (url : Url) : url.text.toList = url.scheme.toList ++
    ':' :: (hierarchy url.authority url.path ++ (marked '?' (url.query.map String.toList) ++
      marked '#' (url.fragment.map String.toList))) := by
  rw [← lead_append_path]
  obtain ⟨scheme, authority, path, query, fragment⟩ := url
  cases query <;> cases fragment <;> simp [text, marked]

variable {authority authority' : Option Authority} {path path' : Path}

/-- The text of a regular path ends at the first mark behind it. -/
theorem Path.IsRegular.disjoint_text {hasAuthority : Bool} (h : path.IsRegular hasAuthority) :
    ['?', '#', '\x00'].Disjoint path.text.toList := by
  cases h with
  | bare _ plain _ => exact plain
  | @segments list _ plain =>
    rw [Path.segments_text]
    exact disjoint_segmentsText fun segment hsegment => (plain segment hsegment).1

/-- What stands in front of the query ends there. -/
theorem disjoint_hierarchy (h : ∀ server ∈ authority, server.IsRegular isSpecial)
    (hpath : path.IsRegular authority.isSome) :
    ['?', '#', '\x00'].Disjoint (hierarchy authority path) := by
  cases authority with
  | some server =>
    refine List.disjoint_cons_right.2 ⟨by decide, List.disjoint_cons_right.2 ⟨by decide, ?_⟩⟩
    exact List.disjoint_append_right.2
      ⟨List.disjoint_of_subset_left (by decide) (h server rfl).disjoint_text, hpath.disjoint_text⟩
  | none =>
    cases hpath with
    | bare _ plain _ => exact plain
    | @segments list _ plain =>
      refine disjoint_segmentsText fun segment hsegment => ?_
      obtain rfl | hmem := mem_dotted hsegment
      · exact List.disjoint_singleton.2 (by decide)
      · exact (plain segment hmem).1

/-- Two slashes stand in front of authorities only. -/
theorem hierarchy_none_ne (hpath : path.IsRegular false) (rest : List Char) :
    hierarchy none path ≠ '/' :: '/' :: rest := by
  intro heq
  cases hpath with
  | @bare text _ _ start =>
    have htext : text.toList = '/' :: '/' :: rest := heq
    rw [htext] at start
    exact start rfl
  | @segments list nonempty plain =>
    simp only [hierarchy] at heq
    unfold dotted at heq
    split at heq
    · exact absurd (List.cons.inj (List.cons.inj heq).2).1 (by decide)
    · next hlist =>
      cases list with
      | nil => cases heq
      | cons first others =>
        have htail : first.toList ++ segmentsText others = '/' :: rest := (List.cons.inj heq).2
        cases hfirst : first.toList with
        | cons c _ =>
          rw [hfirst] at htail
          have hmem : '/' ∈ first.toList := by
            rw [hfirst, (List.cons.inj htail).1]
            exact List.mem_cons_self
          exact (plain first List.mem_cons_self).1 (by decide) hmem
        | nil =>
          have hempty : first = "" := String.toList_eq_nil_iff.1 hfirst
          cases others with
          | nil =>
            rw [hfirst] at htail
            cases htail
          | cons second others => exact hlist second others (by rw [hempty])

/-- Without an authority the path is known from its text. -/
theorem hierarchy_none_inj (hpath : path.IsRegular false) (hpath' : path'.IsRegular false)
    (heq : hierarchy none path = hierarchy none path') : path = path' := by
  -- Only segments begin with a slash.
  have hslash : ∀ {list : List String}, list ≠ [] →
      (hierarchy none (.segments list)).head? = some '/' := by
    intro list hlist
    simp only [hierarchy]
    unfold dotted
    split
    · rfl
    · cases list with
      | nil => exact absurd rfl hlist
      | cons segment rest => rfl
  have hplain : ∀ {list : List String}, (∀ segment ∈ list, IsSegment segment) →
      ∀ segment ∈ dotted list, '/' ∉ segment.toList := by
    intro list hlist segment hsegment
    obtain rfl | hmem := mem_dotted hsegment
    · decide
    · exact (hlist segment hmem).1 (by decide)
  have hdot : ∀ {list : List String}, (∀ segment ∈ list, IsSegment segment) → "." ∉ list :=
    fun hlist hmem => (hlist "." hmem).2 rfl
  cases hpath with
  | @bare text _ _ start =>
    cases hpath' with
    | bare _ _ _ => exact congrArg Path.bare (String.toList_inj.1 heq)
    | segments nonempty _ =>
      rw [← hslash (nonempty rfl), ← heq] at start
      exact absurd rfl start
  | @segments list nonempty plain =>
    cases hpath' with
    | bare _ _ start =>
      rw [← hslash (nonempty rfl), heq] at start
      exact absurd rfl start
    | @segments list' _ plain' =>
      have hlists := segmentsText_inj (hplain plain) (hplain plain') heq
      exact congrArg Path.segments (dotted_inj (hdot plain) (hdot plain') hlists)

/-- Behind an authority a path is made of segments. -/
theorem Path.IsRegular.exists_segments (h : path.IsRegular true) :
    ∃ list, path = .segments list ∧ ∀ segment ∈ list, '/' ∉ segment.toList := by
  cases h with
  | bare alone _ _ => cases alone
  | @segments list _ plain =>
    exact ⟨list, rfl, fun segment hsegment => (plain segment hsegment).1 (by decide)⟩

/-- The authority and the path are known from their text. -/
theorem hierarchy_inj (h : ∀ server ∈ authority, server.IsRegular isSpecial)
    (h' : ∀ server ∈ authority', server.IsRegular isSpecial)
    (hpath : path.IsRegular authority.isSome) (hpath' : path'.IsRegular authority'.isSome)
    (heq : hierarchy authority path = hierarchy authority' path') :
    authority = authority' ∧ path = path' := by
  have hslash : ∀ {server : Authority}, server.IsRegular isSpecial → '/' ∉ server.text.toList :=
    fun hserver => hserver.disjoint_text (by decide)
  cases authority with
  | none =>
    cases authority' with
    | none => exact ⟨rfl, hierarchy_none_inj hpath hpath' heq⟩
    | some server' => exact absurd heq (hierarchy_none_ne hpath _)
  | some server =>
    cases authority' with
    | none => exact absurd heq.symm (hierarchy_none_ne hpath' _)
    | some server' =>
      obtain ⟨list, rfl, hlist⟩ := hpath.exists_segments
      obtain ⟨list', rfl, hlist'⟩ := hpath'.exists_segments
      have htexts := (List.cons.inj (List.cons.inj heq).2).2
      rw [Path.segments_text, Path.segments_text] at htexts
      -- An authority ends at the first slash behind it.
      obtain ⟨hserver, hsegments⟩ := append_inj_of_not_mem (hslash (h server rfl))
        (stops_segmentsText list) (hslash (h' server' rfl)) (stops_segmentsText list') htexts
      exact ⟨congrArg some ((h server rfl).text_inj (h' server' rfl) (String.toList_inj.1 hserver)),
        congrArg Path.segments (segmentsText_inj hlist hlist' hsegments)⟩

/-- Whether a URL is regular: no component holds a mark that would end it, nor the null character. -/
structure IsRegular (url : Url) : Prop where
  scheme : [':', '\x00'].Disjoint url.scheme.toList
  authority : ∀ authority ∈ url.authority,
    authority.IsRegular (SchemeKind.of url.scheme).isSpecial
  path : url.path.IsRegular url.authority.isSome
  query : ∀ query ∈ url.query, ['#', '\x00'].Disjoint query.toList
  fragment : ∀ fragment ∈ url.fragment, '\x00' ∉ fragment.toList

namespace IsRegular

variable {url url' : Url}

/-- The query of a regular URL ends at the mark behind it. -/
theorem disjoint_query (h : url.IsRegular) :
    ['#', '\x00'].Disjoint (marked '?' (url.query.map String.toList)) := by
  refine disjoint_marked (by decide) fun text htext => ?_
  obtain ⟨query, hquery, rfl⟩ := Option.map_eq_some_iff.1 htext
  exact h.query query hquery

/-- The text of a regular URL does not hold the null character. -/
theorem null_not_mem (h : url.IsRegular) : '\x00' ∉ url.text.toList := by
  have hfragment : ['\x00'].Disjoint (marked '#' (url.fragment.map String.toList)) := by
    refine disjoint_marked (by decide) fun text htext => ?_
    obtain ⟨fragment, hfragment, rfl⟩ := Option.map_eq_some_iff.1 htext
    exact List.singleton_disjoint.2 (h.fragment fragment hfragment)
  have hhierarchy := disjoint_hierarchy h.authority h.path
  rw [text_toList, List.mem_append, List.mem_cons, List.mem_append, List.mem_append]
  rintro (hscheme | hcolon | hmiddle | hquery | hnull)
  · exact h.scheme (by decide) hscheme
  · revert hcolon
    decide
  · exact hhierarchy (by decide) hmiddle
  · exact h.disjoint_query (by decide) hquery
  · exact hfragment List.mem_cons_self hnull

/-- The text of a regular URL tells the URL. -/
theorem text_inj (h : url.IsRegular) (h' : url'.IsRegular) (heq : url.text = url'.text) :
    url = url' := by
  -- In front of the query there is none of the characters that may follow there.
  have hclass : ∀ {url : Url}, url.IsRegular →
      ∀ c ∈ hierarchy url.authority url.path, (!endsPath c) = true := by
    intro url hurl c hc
    have hmarks := disjoint_hierarchy hurl.authority hurl.path
    rw [Bool.not_eq_true', endsPath, Bool.or_eq_false_iff, beq_eq_false_iff_ne, beq_eq_false_iff_ne]
    constructor
    · rintro rfl
      exact hmarks (by decide) hc
    · rintro rfl
      exact hmarks (by decide) hc
  have hstops : ∀ query fragment : Option (List Char),
      Stops (!endsPath ·) (marked '?' query ++ marked '#' fragment) := by
    intro query fragment c hc
    cases query with
    | some query =>
      cases hc
      rfl
    | none =>
      cases fragment with
      | some fragment =>
        cases hc
        rfl
      | none => cases hc
  have hlists := congrArg String.toList heq
  rw [text_toList, text_toList] at hlists
  obtain ⟨hscheme, hrest⟩ := append_separator_inj (h.scheme List.mem_cons_self)
    (h'.scheme List.mem_cons_self) hlists
  obtain ⟨hhierarchy, hending⟩ := append_inj_of_stops (hclass h) (hstops _ _) (hclass h')
    (hstops _ _) hrest
  obtain ⟨hquery, hfragment⟩ := append_marked_inj (h.disjoint_query List.mem_cons_self)
    (h'.disjoint_query List.mem_cons_self) hending
  have hscheme := String.toList_inj.1 hscheme
  have htoList : Function.Injective String.toList := fun _ _ => String.toList_inj.1
  have hquery := Option.map_injective htoList (marked_injective '?' hquery)
  have hfragment := Option.map_injective htoList hfragment
  obtain ⟨hauthority, hpath⟩ := hierarchy_inj h.authority (hscheme ▸ h'.authority) h.path h'.path
    hhierarchy
  cases url
  cases url'
  cases hscheme
  cases hquery
  cases hfragment
  cases hauthority
  cases hpath
  rfl

end IsRegular

end NatGateway.Url
