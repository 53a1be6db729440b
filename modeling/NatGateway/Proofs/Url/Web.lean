import Mathlib.Data.List.DropRight
import NatGateway.Proofs.Result
import NatGateway.Proofs.Text.Blank
import NatGateway.Url.Reader

/-!
# References to the root of a web server

The URLs of the web name a server and a place on it. A reference that starts with a single slash
keeps the server of its base and names the place by itself, so it names the same place on every
server. A backslash counts as a slash: behind the first slash it begins the name of another server.
-/

namespace NatGateway.Url

open NatGateway.Text (dropWhile_append_cons dropEnd_append_cons)

/-- Whether a URL is one of the web: by its scheme, and with a path that starts at a root. -/
structure IsWeb (url : Url) : Prop where
  scheme : url.scheme ∈ ["http", "https"]
  rooted : url.isBare = false

/-- The schemes of the web name servers. -/
theorem kind_of_web : ∀ scheme ∈ ["http", "https"], SchemeKind.of scheme = .server := by decide

variable {scheme : String} {base url : Url} {cs : List Char}

/-! ## Which texts name a place -/

/-- What follows an authority is a path from the root. -/
theorem isBare_withPathStart (scheme : String) (authority : Authority) (cs : List Char) :
    (withPathStart scheme authority cs).isBare = false := by
  unfold withPathStart
  dsimp only
  split
  · split
    · rfl
    · split
      · rfl
      · rfl
  · rfl

/-- What follows two slashes names a place. -/
theorem isBare_of_afterSlashes (h : afterSlashes scheme cs = .ok url) : url.isBare = false := by
  unfold afterSlashes at h
  dsimp only at h
  split at h
  · cases h
  · obtain ⟨server, _, rfl⟩ := map_eq_ok_iff.1 h
    exact isBare_withPathStart scheme server _

/-- A file is at a place, whether it is on a server or not. -/
theorem isBare_of_readFileServer (h : readFileServer cs = .ok url) : url.isBare = false := by
  unfold readFileServer at h
  dsimp only at h
  split at h
  · cases h
    rfl
  · obtain ⟨host, _, rfl⟩ := map_eq_ok_iff.1 h
    split
    · rfl
    · unfold dropServer
      split
      · exact isBare_withPathStart _ _ _
      · exact isBare_withPathStart _ _ _

/-- A file that is read without a base is at a place. -/
theorem isBare_of_readFile (h : readFile none cs = .ok url) : url.isBare = false := by
  have hroot : ∀ rest, (readFileRoot none rest).isBare = false := by
    intro rest
    unfold readFileRoot
    dsimp only
    split
    · rfl
    · rfl
  unfold readFile at h
  split at h
  · split at h
    · exact isBare_of_readFileServer h
    · split at h
      · cases h
        exact hroot _
      · cases h
        rfl
  · cases h
    split
    · exact hroot _
    · rfl
  · cases h
    rfl

/-- Only a scheme that is not special may be in front of a bare text. -/
theorem kind_of_isBare {text : String} (h : ofText text = .ok url) (hbare : url.isBare = true) :
    SchemeKind.of url.scheme = .general := by
  have habsurd : url.isBare = false → SchemeKind.of url.scheme = .general := by
    intro hnot
    rw [hbare] at hnot
    cases hnot
  unfold ofText read at h
  dsimp only at h
  split at h
  · split at h
    · exact habsurd (isBare_of_readFile h)
    · exact habsurd (isBare_of_afterSlashes h)
    · next hkind =>
      unfold readGeneral at h
      split at h
      · exact habsurd (isBare_of_afterSlashes h)
      · cases h
        exact habsurd rfl
      · cases h
        exact hkind
  · cases h

/-- The scheme of a URL tells whether it is one of the web. -/
theorem isWeb_iff_of_ofText {text : String} (h : ofText text = .ok url) :
    url.IsWeb ↔ url.scheme ∈ ["http", "https"] := by
  refine ⟨IsWeb.scheme, fun hscheme => ⟨hscheme, Bool.eq_false_iff.2 fun hbare => ?_⟩⟩
  have hgeneral := kind_of_isBare h hbare
  rw [kind_of_web _ hscheme] at hgeneral
  cases hgeneral

/-! ## The characters that count -/

/-- Whether a character is dropped at the ends of a text. -/
def isMargin (c : Char) : Bool := c.toNat ≤ 0x20

/-- Whether a character counts where it is not dropped at an end. -/
def isCounted (c : Char) : Bool := c != '\t' && c != '\n' && c != '\r'

/-- The characters that count among those behind one that does. -/
def significantEnd (cs : List Char) : List Char := (cs.rdropWhile isMargin).filter isCounted

variable {c : Char}

/-- A character counts if something holds of it that does not hold of tabs and line breaks. -/
theorem isCounted_of {p : Char → Prop} (hmarks : ∀ mark ∈ ['\t', '\n', '\r'], ¬ p mark) (hc : p c) :
    isCounted c = true := by
  have hother : ∀ mark ∈ ['\t', '\n', '\r'], (c != mark) = true := by
    intro mark hmark
    rw [bne_iff_ne]
    rintro rfl
    exact hmarks c hmark hc
  rw [List.forall_mem_cons, List.forall_mem_cons, List.forall_mem_singleton] at hother
  rw [isCounted, hother.1, hother.2.1, hother.2.2]
  rfl

/-- Nothing is dropped in front of a first character that counts. -/
theorem significant_cons (hc : isMargin c = false) (rest : List Char) :
    significant (String.ofList (c :: rest)) = significantEnd (c :: rest) := by
  rw [significant, String.toList_ofList]
  change (((c :: rest).dropWhile isMargin).rdropWhile isMargin).filter isCounted = _
  rw [List.dropWhile_cons_of_neg (Bool.eq_false_iff.1 hc), significantEnd]

/-- All characters count up to one, if none of them may be dropped at an end. -/
theorem significantEnd_append_cons {before : List Char} (hbefore : ∀ d ∈ before, isMargin d = false)
    (hc : isMargin c = false) (after : List Char) :
    significantEnd (before ++ c :: after) = before ++ c :: significantEnd after := by
  have hcounted : ∀ d : Char, isMargin d = false → isCounted d = true :=
    fun d => isCounted_of (p := fun d => isMargin d = false)
      (List.forall_iff_forall_mem.1 (by decide))
  have hend : (before ++ c :: after).rdropWhile isMargin = before ++ c :: after.rdropWhile isMargin :=
    dropEnd_append_cons hc before after
  rw [significantEnd, hend, List.filter_append, List.filter_cons_of_pos (hcounted c hc),
    List.filter_eq_self.2 fun d hd => hcounted d (hbefore d hd), significantEnd]

/-- A first character that is not blank stands in front of all others that count, if any does. -/
theorem significantEnd_cons (hc : Text.isBlank c = false) (rest : List Char) :
    significantEnd (c :: rest) = [] ∨ ∃ counted, significantEnd (c :: rest) = c :: counted := by
  have hcounted : isCounted c = true :=
    isCounted_of (p := fun c => Text.isBlank c = false)
      (List.forall_iff_forall_mem.1 (by decide)) hc
  rw [significantEnd]
  -- A control that is not blank may be dropped as part of the end, but then nothing is left behind it.
  obtain hnone | ⟨kept, hkept, _⟩ :=
    List.prefix_cons_iff.1 (List.rdropWhile_prefix isMargin (c :: rest))
  · left
    rw [hnone, List.filter_nil]
  · right
    rw [hkept, List.filter_cons_of_pos hcounted]
    exact ⟨_, rfl⟩

/-! ## References behind a slash -/

/-- A base of the web takes what stands behind a slash for a place, or for another server. -/
theorem IsWeb.join_slash (hbase : base.IsWeb) (text : String) :
    base.join ("/" ++ text) = readRelative base ('/' :: significantEnd text.toList) := by
  have htext : "/" ++ text = String.ofList ('/' :: text.toList) := by
    rw [String.ofList_cons, String.ofList_toList]
    rfl
  have hcounted : significant ("/" ++ text) = '/' :: significantEnd text.toList := by
    rw [htext, significant_cons (by decide)]
    exact significantEnd_append_cons (List.forall_mem_nil _) (by decide) text.toList
  have hfile : base.scheme ≠ "file" := by
    intro hscheme
    have hweb := hbase.scheme
    rw [hscheme] at hweb
    revert hweb
    decide
  rw [join, read, hcounted]
  dsimp only [readScheme]
  rw [if_neg (by decide), hbase.rooted, if_neg Bool.false_ne_true, if_neg hfile]
  rfl

/-- Behind a slash that no other follows, a place on the server of the base is named. -/
theorem readRelative_slash (base : Url) (h : ∀ c ∈ cs.head?, isAnySlash c = false) :
    readRelative base ('/' :: cs) = .ok (withPath base.scheme base.authority [] cs) := by
  cases cs with
  | nil => rfl
  | cons c rest =>
    have hc : isAnySlash c = false := h c rfl
    have hslash : ∀ after, c :: rest ≠ '/' :: after := by
      rintro after ⟨⟩
      cases hc
    unfold readRelative
    split
    · next hnil => cases hnil
    · next hmark => cases hmark
    · next hmark => cases hmark
    · next after hafter => exact absurd (List.cons.inj hafter).2 (hslash after)
    · next hcons =>
      cases hcons
      dsimp only
      rw [if_pos (by decide), if_neg (Bool.eq_false_iff.1 hc)]

/-- Behind a slash a backslash begins the name of a server. -/
theorem readRelative_slash_backslash (base : Url) (cs : List Char) :
    readRelative base ('/' :: '\\' :: cs) = afterSlashes base.scheme (cs.dropWhile isAnySlash) :=
  rfl

/-- The place that is named behind a slash does not depend on the server. -/
theorem withPath_of_server (hkind : SchemeKind.of scheme = .server) (authority : Option Authority)
    (cs : List Char) :
    withPath scheme authority [] cs =
      ⟨scheme, authority, (withPath "http" none [] cs).path, (withPath "http" none [] cs).query,
        (withPath "http" none [] cs).fragment⟩ := by
  have hhttp : SchemeKind.of "http" = .server := kind_of_web "http" List.mem_cons_self
  simp only [withPath, hkind, hhttp]

/-- By itself, a text names a server behind its scheme also if one slash follows or more than two. -/
theorem ofText_slash (hscheme : scheme ∈ ["http", "https"]) (text : String) :
    ofText (scheme ++ ":/" ++ text) =
      afterSlashes scheme ((significantEnd text.toList).dropWhile isAnySlash) := by
  have hscheme' : (∃ rest, scheme.toList = 'h' :: rest) ∧
      (∀ d ∈ scheme.toList ++ [':'], isMargin d = false) ∧
      ∀ rest, readScheme (scheme.toList ++ ':' :: rest) = some (scheme, rest) := by
    rw [List.mem_cons, List.mem_singleton] at hscheme
    rcases hscheme with rfl | rfl
    · exact ⟨⟨_, rfl⟩, List.forall_iff_forall_mem.1 (by decide), fun rest => rfl⟩
    · exact ⟨⟨_, rfl⟩, List.forall_iff_forall_mem.1 (by decide), fun rest => rfl⟩
  obtain ⟨⟨rest, hrest⟩, hmargin, hread⟩ := hscheme'
  have hcounted : significant (scheme ++ ":/" ++ text) =
      scheme.toList ++ ':' :: '/' :: significantEnd text.toList := by
    have htext : scheme ++ ":/" ++ text =
        String.ofList ('h' :: (rest ++ ':' :: '/' :: text.toList)) := by
      rw [← String.toList_inj, String.toList_ofList, String.toList_append, String.toList_append,
        hrest, List.append_assoc]
      rfl
    rw [htext, significant_cons (by decide), ← List.cons_append, ← hrest, List.append_cons,
      significantEnd_append_cons hmargin (by decide), ← List.append_cons]
  rw [ofText, read, hcounted, hread]
  dsimp only
  rw [kind_of_web scheme hscheme]
  rfl

variable {text : String} {rest : List Char}

/-- Behind a slash, a text that starts with no other names the same place on every server. -/
theorem IsWeb.join_place (hbase : base.IsWeb) (htext : text.toList = c :: rest)
    (hblank : Text.isBlank c = false) (hslash : isAnySlash c = false) :
    base.join ("/" ++ text) =
      .ok { withPath "http" none [] (significantEnd text.toList) with
        scheme := base.scheme, authority := base.authority } := by
  have hhead : ∀ d ∈ (significantEnd text.toList).head?, isAnySlash d = false := by
    rw [htext]
    obtain hnone | ⟨counted, hcounted⟩ := significantEnd_cons hblank rest
    · rw [hnone]
      exact nofun
    · rw [hcounted]
      rintro _ ⟨⟩
      exact hslash
  rw [hbase.join_slash, readRelative_slash base hhead, withPath_of_server (kind_of_web _ hbase.scheme)]

/-- Behind a slash, a text that starts with a backslash names the server of its own. -/
theorem IsWeb.join_server (hbase : base.IsWeb) (htext : text.toList = '\\' :: rest) :
    base.join ("/" ++ text) = ofText (base.scheme ++ ":/" ++ text) := by
  have hcounted : significantEnd ('\\' :: rest) = '\\' :: significantEnd rest :=
    significantEnd_append_cons (List.forall_mem_nil _) (by decide) rest
  rw [hbase.join_slash, ofText_slash hbase.scheme, htext, hcounted, readRelative_slash_backslash,
    List.dropWhile_cons_of_pos (by decide)]

end NatGateway.Url
