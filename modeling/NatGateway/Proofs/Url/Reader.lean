import Mathlib.Data.List.TakeWhile
import NatGateway.Proofs.Url.Host
import NatGateway.Proofs.Url.Path

/-!
# Reading URLs

Every URL that is read is regular, also one that a reference makes of a regular base. So the text of
a URL tells it, and holds no null character. A scheme and an authority that are regular make a
regular URL with any path that is read behind them; a reference takes them from its base.
-/

namespace NatGateway.Url

variable {scheme : String} {cs : List Char}

/-! ## URLs by their front -/

/-- Whether a URL can begin with a scheme and an authority: the scheme holds no marks, and the
authority is regular. -/
structure IsFront (scheme : String) (authority : Option Authority) : Prop where
  plain : [':', '\x00'].Disjoint scheme.toList
  server : ∀ server ∈ authority, server.IsRegular (SchemeKind.of scheme).isSpecial

/-- The authority of a file on no server is regular. -/
theorem noServer_isRegular {isSpecial : Bool} : noServer.IsRegular isSpecial :=
  ⟨List.disjoint_nil_right _, List.disjoint_nil_right _, nofun⟩

variable {authority : Option Authority}

namespace IsFront

/-- Without an authority a scheme is enough. -/
theorem none (h : [':', '\x00'].Disjoint scheme.toList) : IsFront scheme none := ⟨h, nofun⟩

/-- A file may be on no server. -/
theorem noServer : IsFront "file" (some noServer) := by
  refine ⟨?_, ?_⟩
  · exact List.disjoint_cons_left.2 ⟨by decide, List.singleton_disjoint.2 (by decide)⟩
  · rintro _ ⟨⟩
    exact noServer_isRegular

/-- A URL is regular if its front and its path are and the others were read. -/
theorem isRegular {path : Path} (h : IsFront scheme authority)
    (hpath : path.IsRegular authority.isSome) (kind : SchemeKind) (cs : List Char) :
    IsRegular ⟨scheme, authority, path, (readEnding kind cs).query,
      (readEnding kind cs).fragment⟩ :=
  ⟨h.plain, h.server, hpath, (readEnding_isRegular kind cs).1, (readEnding_isRegular kind cs).2⟩

/-- A path makes a regular URL behind a regular front. -/
theorem withPath {path : List String} (h : IsFront scheme authority)
    (hpath : ∀ segment ∈ path, IsSegment segment) (cs : List Char) :
    (withPath scheme authority path cs).IsRegular :=
  h.isRegular (readPath_isRegular hpath _) _ _

/-- The path that follows an authority makes a regular URL. -/
theorem withPathStart {server : Authority} (h : IsFront scheme (some server)) (cs : List Char) :
    (withPathStart scheme server cs).IsRegular := by
  have hempty : ∀ segment ∈ ([] : List String), IsSegment segment := nofun
  unfold Url.withPathStart
  dsimp only
  split
  · split
    · exact h.withPath hempty _
    · split
      · exact h.withPath hempty _
      · exact h.isRegular (.segments nofun hempty) _ _
  · refine ⟨h.plain, h.server, .segments nofun ?_, nofun, nofun⟩
    split
    · exact List.forall_mem_singleton.2 isSegment_empty
    · exact hempty

end IsFront

variable {url : Url}

/-- What follows two slashes makes a regular URL. -/
theorem afterSlashes_isRegular (hscheme : [':', '\x00'].Disjoint scheme.toList)
    (h : afterSlashes scheme cs = .ok url) : url.IsRegular := by
  unfold afterSlashes at h
  dsimp only at h
  split at h
  · cases h
  · obtain ⟨server, hserver, rfl⟩ := map_eq_ok_iff.1 h
    have hfront : IsFront scheme (some server) := by
      refine ⟨hscheme, ?_⟩
      rintro _ ⟨⟩
      exact readAuthority_isRegular hserver
    exact hfront.withPathStart _

/-! ## Schemes -/

/-- A character of a scheme is no mark, and becomes none in lower case. -/
theorem toLower_not_mem_marks {c : Char} (h : isSchemeChar c = true) :
    c.toLower ∉ [':', '\x00'] := by
  have hmarks : ∀ mark ∈ [':', '\x00'], mark.toNat < 65 ∧ isSchemeChar mark = false :=
    List.forall_iff_forall_mem.1 (by decide)
  intro hmem
  obtain ⟨hsmall, hother⟩ := hmarks _ hmem
  by_cases hletter : c.val ≥ 'A'.val ∧ c.val ≤ 'Z'.val
  · have hlower : c.toLower.toNat = c.toNat + 32 := by
      have hvalue : c.toLower.val = c.val + ('a'.val - 'A'.val) := congrArg Char.val (dif_pos hletter)
      have hshift : ('a'.val - 'A'.val).toNat = 32 := rfl
      have hlast : c.val.toNat ≤ 90 := UInt32.le_iff_toNat_le.1 hletter.2
      rw [Char.toNat, hvalue, UInt32.toNat_add, hshift]
      exact Nat.mod_eq_of_lt (by omega)
    have hfirst : 65 ≤ c.toNat := UInt32.le_iff_toNat_le.1 hletter.1
    omega
  · have hlower : c.toLower = c := dif_neg hletter
    rw [hlower, h] at hother
    cases hother

/-- A scheme that was read holds no marks. -/
theorem readScheme_plain {rest : List Char} (h : readScheme cs = some (scheme, rest)) :
    [':', '\x00'].Disjoint scheme.toList := by
  unfold readScheme at h
  split at h
  · split at h
    · split at h
      · cases h
        intro c hmark hc
        rw [String.toList_ofList] at hc
        obtain ⟨d, hd, rfl⟩ := List.mem_map.1 hc
        exact toLower_not_mem_marks (List.mem_takeWhile_imp hd) hmark
      · cases h
    · cases h
  · cases h

/-- What follows a scheme that is not special makes a regular URL. -/
theorem readGeneral_isRegular (hscheme : [':', '\x00'].Disjoint scheme.toList)
    (h : readGeneral scheme cs = .ok url) : url.IsRegular := by
  unfold readGeneral at h
  split at h
  · exact afterSlashes_isRegular hscheme h
  · cases h
    exact (IsFront.none hscheme).withPath (List.forall_mem_nil _) _
  · next hnone hslash =>
    cases h
    refine (IsFront.none hscheme).isRegular (.bare rfl ?_ ?_) _ _
    · have hmarks : ∀ c ∈ ['?', '#', '\x00'], isEncodingChar c = false ∧
          (isControl c = true ∨ endsPath c = true) := List.forall_iff_forall_mem.1 (by decide)
      refine disjoint_percentEncode fun c hc => ⟨(hmarks c hc).1, ?_⟩
      refine (hmarks c hc).2.imp_right fun hends hmem => ?_
      have hkept := List.mem_takeWhile_imp hmem
      rw [hends] at hkept
      cases hkept
    · cases cs with
      | nil => exact nofun
      | cons c rest =>
        cases hends : endsPath c with
        | true =>
          rw [List.takeWhile_cons_of_neg (by rw [hends]; decide)]
          exact nofun
        | false =>
          rw [List.takeWhile_cons_of_pos (by rw [hends]; decide)]
          obtain ⟨d, after, hbare, hd⟩ := percentEncode_head isControl c
            (rest.takeWhile fun c => !endsPath c)
          rw [hbare]
          rintro ⟨⟩
          rcases hd with rfl | hd
          · exact hslash rest rfl
          · revert hd
            decide

/-! ## References -/

variable {base : Url}

/-- A base is a front. -/
theorem IsRegular.front (h : base.IsRegular) : IsFront base.scheme base.authority :=
  ⟨h.scheme, h.authority⟩

/-- The segments of a base are segments. -/
theorem IsRegular.isSegment (h : base.IsRegular) : ∀ segment ∈ segmentsOfBase base, IsSegment segment := by
  unfold segmentsOfBase
  have hpath := h.path
  split
  · next list hlist =>
    rw [hlist] at hpath
    cases hpath with
    | segments _ plain => exact plain
  · exact nofun

/-- A base is regular under a new fragment. -/
theorem IsRegular.withFragment (h : base.IsRegular) (fragment : List Char) :
    (base.withFragment fragment).IsRegular := by
  refine ⟨h.scheme, h.authority, h.path, h.query, ?_⟩
  rintro _ ⟨⟩
  exact null_not_mem_readFragment fragment

/-- A base is regular without its fragment. -/
theorem IsRegular.withoutFragment (h : base.IsRegular) :
    IsRegular { base with fragment := none } :=
  ⟨h.scheme, h.authority, h.path, h.query, nofun⟩

/-- A reference to a base makes a regular URL. -/
theorem readRelative_isRegular (hbase : base.IsRegular) (h : readRelative base cs = .ok url) :
    url.IsRegular := by
  have hempty : ∀ segment ∈ ([] : List String), IsSegment segment := nofun
  unfold readRelative at h
  split at h
  · cases h
    exact hbase.withoutFragment
  · cases h
    exact hbase.withFragment _
  · cases h
    exact hbase.front.isRegular hbase.path _ _
  · exact afterSlashes_isRegular hbase.scheme h
  · split at h
    · split at h
      · split at h
        · exact afterSlashes_isRegular hbase.scheme h
        · cases h
          exact hbase.front.withPath hempty _
      · cases h
        exact hbase.front.withPath hempty _
    · cases h
      exact hbase.front.withPath
        (fun segment hmem => hbase.isSegment segment (List.dropLast_subset _ hmem)) _

/-! ## Files -/

/-- A host of a file is regular. -/
theorem readFileHost_isRegular {host : Option Host} (h : readFileHost cs = .ok host) :
    ∀ name ∈ host, name.IsRegular true := by
  unfold readFileHost at h
  split at h
  · cases h
    exact nofun
  · obtain ⟨name, hname, rfl⟩ := map_eq_ok_iff.1 h
    split
    · exact nofun
    · rintro _ ⟨⟩
      exact readHost_isRegular hname

/-- A URL stays regular without its server. -/
theorem IsRegular.dropServer (h : url.IsRegular) : (dropServer url).IsRegular := by
  unfold Url.dropServer
  split
  · next hdrive =>
    refine ⟨h.scheme, ?_, ?_, h.query, h.fragment⟩
    · rintro _ ⟨⟩
      exact noServer_isRegular
    · obtain ⟨segment, hsegment, _⟩ := List.any_eq_true.1 hdrive
      have hpath := h.path
      unfold segmentsOfBase at hsegment
      split at hsegment
      · next list hlist =>
        rw [hlist] at hpath ⊢
        cases hpath with
        | segments _ plain => exact .segments nofun plain
      · cases hsegment
  · exact h

/-- What follows two slashes of a file makes a regular URL. -/
theorem readFileServer_isRegular (h : readFileServer cs = .ok url) : url.IsRegular := by
  unfold readFileServer at h
  dsimp only at h
  split at h
  · cases h
    exact IsFront.noServer.withPath (List.forall_mem_nil _) _
  · obtain ⟨host, hhost, rfl⟩ := map_eq_ok_iff.1 h
    split
    · exact IsFront.noServer.withPath (List.forall_mem_nil _) _
    · next name =>
      have hfront : IsFront "file" (some ⟨"", "", some name, none⟩) := by
        refine ⟨IsFront.noServer.plain, ?_⟩
        rintro _ ⟨⟩
        exact ⟨List.disjoint_nil_right _, List.disjoint_nil_right _, readFileHost_isRegular hhost⟩
      exact (hfront.withPathStart _).dropServer

variable {fileBase : Option Url}

/-- What follows one slash of a file makes a regular URL. -/
theorem readFileRoot_isRegular
    (hbase : ∀ base ∈ fileBase, base.IsRegular ∧ base.scheme = "file") (cs : List Char) :
    (readFileRoot fileBase cs).IsRegular := by
  have hempty : ∀ segment ∈ ([] : List String), IsSegment segment := nofun
  unfold readFileRoot
  dsimp only
  split
  · exact IsFront.noServer.withPath hempty _
  · split
    · exact IsFront.noServer.withPath hempty _
    · next base =>
      obtain ⟨hregular, hfile⟩ := hbase base rfl
      have hfront := hfile ▸ hregular.front
      have hsegments := hregular.isSegment
      split
      · next first rest hfirst =>
        rw [hfirst] at hsegments
        split
        · exact IsFront.noServer.withPath
            (List.forall_mem_singleton.2 (hsegments first List.mem_cons_self)) _
        · exact hfront.withPath hempty _
      · exact hfront.withPath hempty _

/-- A reference to a file that does not start with a slash makes a regular URL. -/
theorem readFileName_isRegular
    (hbase : ∀ base ∈ fileBase, base.IsRegular ∧ base.scheme = "file") (cs : List Char) :
    (readFile.readFileName fileBase cs).IsRegular := by
  unfold readFile.readFileName
  split
  · exact IsFront.noServer.withPath (List.forall_mem_nil _) _
  · next base =>
    obtain ⟨hregular, hfile⟩ := hbase base rfl
    split
    · exact hregular.withoutFragment
    · exact hregular.withFragment _
    · exact hregular.front.isRegular hregular.path _ _
    · split
      · exact IsFront.noServer.withPath (List.forall_mem_nil _) _
      · have hfront := hfile ▸ hregular.front
        exact hfront.withPath
          (fun segment hmem => hregular.isSegment segment (mem_of_mem_shorten hmem)) _

/-- A file is a regular URL. -/
theorem readFile_isRegular (hbase : ∀ base ∈ fileBase, base.IsRegular ∧ base.scheme = "file")
    (h : readFile fileBase cs = .ok url) : url.IsRegular := by
  unfold readFile at h
  split at h
  · split at h
    · exact readFileServer_isRegular h
    · split at h
      · cases h
        exact readFileRoot_isRegular hbase _
      · cases h
        exact readFileName_isRegular hbase _
  · cases h
    split
    · exact readFileRoot_isRegular hbase _
    · exact readFileName_isRegular hbase _
  · cases h
    exact readFileName_isRegular hbase _

/-! ## URLs -/

/-- What follows a special scheme makes a regular URL. -/
theorem readSpecial_isRegular {base : Option Url} (hbase : ∀ url ∈ base, url.IsRegular)
    (hscheme : [':', '\x00'].Disjoint scheme.toList) (h : readSpecial base scheme cs = .ok url) :
    url.IsRegular := by
  unfold readSpecial at h
  dsimp only at h
  split at h
  · exact afterSlashes_isRegular hscheme h
  · next base =>
    split at h
    · exact readRelative_isRegular (hbase base rfl) h
    · exact afterSlashes_isRegular hscheme h

/-- A URL that was read is regular, if the base is from which it was read. -/
theorem read_isRegular {base : Option Url} {text : String} (hbase : ∀ url ∈ base, url.IsRegular)
    (h : read base text = .ok url) : url.IsRegular := by
  unfold read at h
  dsimp only at h
  split at h
  · next scheme rest hread =>
    have hscheme := readScheme_plain hread
    split at h
    · refine readFile_isRegular (fun url hurl => ?_) h
      obtain ⟨hbase', hfile⟩ := Option.mem_filter_iff.1 hurl
      exact ⟨hbase url hbase', of_decide_eq_true hfile⟩
    · exact readSpecial_isRegular hbase hscheme h
    · exact readGeneral_isRegular hscheme h
  · split at h
    · cases h
    · next base =>
      have hregular := hbase base rfl
      split at h
      · cases h
        exact hregular.withFragment _
      · split at h
        · cases h
        · split at h
          · next hfile =>
            refine readFile_isRegular ?_ h
            rintro _ ⟨⟩
            exact ⟨hregular, hfile⟩
          · exact readRelative_isRegular hregular h

/-- A URL that was read by itself is regular. -/
theorem ofText_isRegular {text : String} (h : ofText text = .ok url) : url.IsRegular := by
  refine read_isRegular (fun base hbase => ?_) h
  cases hbase

end NatGateway.Url
