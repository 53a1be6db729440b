import NatGateway.Proofs.Result
import NatGateway.Proofs.Url.Authority
import NatGateway.Proofs.Url.Encoding
import NatGateway.Url.Reader

/-!
# Reading hosts and authorities

An authority that was read is regular. An IPv6 address has eight words, and a name holds none of the
marks around a host: they are refused in the ASCII form of a name, so also those that were
percent-encoded before. In the name and the password of a user they are encoded.
-/

namespace NatGateway.Url

open NatGateway.Net (Ipv6)

/-! ## IPv6 addresses -/

/-- An address holds eight words at most while it is read. -/
theorem readPieces_length {cs : List Char} {pieces pieces' : List Nat} {gap gap' : Option Nat}
    (hlength : pieces.length ≤ 8) (h : readPieces cs pieces gap = some (pieces', gap')) :
    pieces'.length ≤ 8 := by
  -- There is room for a word while less than eight are used, and for two while less than seven are.
  fun_induction readPieces cs pieces gap with
  | case1 pieces gap =>
    cases h
    exact hlength
  | case2 | case4 | case5 | case7 | case8 | case9 | case12 => cases h
  | case3 pieces gap rest _ ih => exact ih hlength h
  | case6 pieces gap c rest _ used hused digits length tail _ hroom =>
    cases h
    have hle : pieces.length ≤ used := by
      unfold used
      split <;> omega
    rw [Bool.not_eq_true, Bool.or_eq_false_iff, decide_eq_false_iff_not,
      decide_eq_false_iff_not] at hroom
    rw [List.length_append, List.length_cons, List.length_singleton]
    omega
  | case10 pieces gap c rest _ used hused value length after _ _ ih =>
    have hle : pieces.length ≤ used := by
      unfold used
      split <;> omega
    refine ih ?_ h
    rw [List.length_append, List.length_singleton]
    omega
  | case11 pieces gap c rest _ used hused value length _ =>
    cases h
    have hle : pieces.length ≤ used := by
      unfold used
      split <;> omega
    rw [List.length_append, List.length_singleton]
    omega

/-- Zeros in the gap make eight words. -/
theorem fillGap_length {pieces : List Nat} {gap : Option Nat} {address : Ipv6}
    (hlength : pieces.length ≤ 8) (h : fillGap pieces gap = some address) :
    address.words.length = 8 := by
  cases gap with
  | none =>
    rw [fillGap] at h
    split at h
    · next height =>
      cases h
      exact height
    · cases h
  | some gap =>
    cases h
    have hparts := congrArg List.length (List.take_append_drop gap pieces)
    rw [List.length_append] at hparts
    rw [List.length_append, List.length_append, List.length_replicate]
    omega

/-- An IPv6 address that was read has eight words. -/
theorem readIpv6_length {cs : List Char} {address : Ipv6} (h : readIpv6 cs = some address) :
    address.words.length = 8 := by
  have hread : ∀ {cs gap}, ((readPieces cs [] gap).bind fun result =>
      fillGap result.1 result.2) = some address → address.words.length = 8 := by
    intro cs gap h
    obtain ⟨⟨pieces, gap'⟩, hpieces, hfill⟩ := Option.bind_eq_some_iff.1 h
    have hempty : ([] : List Nat).length ≤ 8 := Nat.zero_le 8
    exact fillGap_length (readPieces_length hempty hpieces) hfill
  unfold readIpv6 at h
  split at h
  · exact hread h
  · cases h
  · exact hread h

/-! ## Hosts -/

variable {cs : List Char} {host : Host}

/-- An address in brackets is regular for every kind of scheme. -/
theorem readBracketed_isRegular {isSpecial : Bool} (h : readBracketed cs = some (.ok host)) :
    host.IsRegular isSpecial := by
  unfold readBracketed at h
  split at h
  · have h := Option.some.inj h
    split at h
    · split at h
      · next address haddress =>
        cases h
        exact .ipv6 (readIpv6_length haddress)
      · cases h
    · cases h
  · cases h

/-- The ASCII form of a name holds none of the marks around a host. -/
theorem disjoint_domainToAscii? {bytes : Text.Bytes} {name : String}
    (h : domainToAscii? bytes = some name) : hostMarks.Disjoint name.toList := by
  have hforbidden : ∀ c ∈ hostMarks, isForbiddenInDomain c = true :=
    List.forall_iff_forall_mem.1 (by decide)
  rw [domainToAscii?] at h
  obtain ⟨ascii, _, hname⟩ := Option.bind_eq_some_iff.1 h
  split at hname
  · cases hname
  · next hallowed =>
    cases hname
    intro c hmark hc
    rw [String.toList_ofList] at hc
    exact hallowed (List.any_eq_true.2 ⟨c, hc, hforbidden c hmark⟩)

/-- A host of a special scheme is regular. -/
theorem readHost_isRegular (h : readHost cs = .ok host) : host.IsRegular true := by
  unfold readHost at h
  split at h
  · next hbracketed =>
    rw [h] at hbracketed
    exact readBracketed_isRegular hbracketed
  · split at h
    · cases h
    · next name hname =>
      split at h
      · cases h
      · next hnonempty =>
        split at h
        · obtain ⟨address, _, rfl⟩ := map_eq_ok_iff.1 h
          exact .ipv4 rfl
        · next hnumber =>
          cases h
          exact .domain (mt String.isEmpty_iff.2 hnonempty) (disjoint_domainToAscii? hname)
            fun _ => Bool.eq_false_iff.2 hnumber

/-- A host of another scheme is regular if it is there. -/
theorem readOpaqueHost_isRegular (h : readOpaqueHost cs = .ok (some host)) :
    host.IsRegular false := by
  have hforbidden : ∀ c ∈ hostMarks, isEncodingChar c = false ∧ isForbiddenInHost c = true :=
    List.forall_iff_forall_mem.1 (by decide)
  unfold readOpaqueHost at h
  split at h
  · next result hbracketed =>
    obtain ⟨bracketed, hresult, heq⟩ := map_eq_ok_iff.1 h
    cases heq
    rw [hresult] at hbracketed
    exact readBracketed_isRegular hbracketed
  · split at h
    · cases h
    · next hallowed =>
      split at h
      · cases h
      · next hnonempty =>
        cases h
        refine .domain ?_ (disjoint_percentEncode fun c hmark => ?_) nofun
        · cases cs with
          | nil => exact absurd rfl hnonempty
          | cons c rest =>
            obtain ⟨d, after, hname, _⟩ := percentEncode_head isControl c rest
            rw [Ne, ← String.toList_eq_nil_iff, hname]
            exact List.cons_ne_nil d after
        · refine ⟨(hforbidden c hmark).1, .inr fun hc => hallowed ?_⟩
          exact List.any_eq_true.2 ⟨c, hc, (hforbidden c hmark).2⟩

/-! ## Authorities -/

variable {scheme : String}

/-- A host that was read with its port is regular. -/
theorem readServer_isRegular {host : Option Host} {port : Option Nat}
    (h : readServer scheme cs = .ok (host, port)) :
    ∀ name ∈ host, name.IsRegular (SchemeKind.of scheme).isSpecial := by
  unfold readServer at h
  obtain ⟨result, hresult, h⟩ := bind_eq_ok_iff.1 h
  have hhost : result = host := by
    split at h
    · cases h
      rfl
    · split at h
      · cases h
      · obtain ⟨port', _, heq⟩ := map_eq_ok_iff.1 h
        cases heq
        rfl
  subst hhost
  rintro name rfl
  split at hresult
  · next hspecial =>
    rw [hspecial]
    split at hresult
    · cases hresult
    · obtain ⟨name', hname, heq⟩ := map_eq_ok_iff.1 hresult
      cases heq
      exact readHost_isRegular hname
  · next hgeneral =>
    rw [Bool.eq_false_iff.2 hgeneral]
    exact readOpaqueHost_isRegular hresult

/-- The name and the password of a user hold no marks. -/
theorem disjoint_readUser (cs : List Char) :
    userMarks.Disjoint (readUser cs).1.toList ∧ userMarks.Disjoint (readUser cs).2.toList := by
  have hencoded : ∀ part, userMarks.Disjoint (percentEncode encodedInUser part).toList := by
    have hmarks : ∀ c ∈ userMarks, isEncodingChar c = false ∧ encodedInUser c = true :=
      List.forall_iff_forall_mem.1 (by decide)
    exact fun part => disjoint_percentEncode fun c hc => ⟨(hmarks c hc).1, .inl (hmarks c hc).2⟩
  unfold readUser
  split
  · exact ⟨hencoded _, hencoded _⟩
  · exact ⟨hencoded _, List.disjoint_nil_right _⟩

/-- An authority that was read is regular. -/
theorem readAuthority_isRegular {server : Authority} (h : readAuthority scheme cs = .ok server) :
    server.IsRegular (SchemeKind.of scheme).isSpecial := by
  unfold readAuthority at h
  split at h
  · obtain ⟨⟨host, port⟩, hserver, rfl⟩ := map_eq_ok_iff.1 h
    exact ⟨List.disjoint_nil_right _, List.disjoint_nil_right _, readServer_isRegular hserver⟩
  · next user rest _ =>
    have huser := disjoint_readUser user
    generalize readUser user = parts at h huser
    obtain ⟨⟨host, port⟩, hserver, h⟩ := bind_eq_ok_iff.1 h
    dsimp only at h
    split at h
    · cases h
    · cases h
      exact ⟨huser.1, huser.2, readServer_isRegular hserver⟩

end NatGateway.Url
