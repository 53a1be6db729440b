import Mathlib.Data.List.Infix
import NatGateway.Proofs.Description.Root
import NatGateway.Proofs.Url.Web

/-!
# References without a server

Where a reference leads that names neither a scheme with a server nor a root. It is taken from the
root of the server of its base. It keeps to that server unless it starts with a backslash, which
counts as a second slash: then it leads to the server that it names, whatever the base is.
-/

namespace NatGateway.Description

open NatGateway.Url (significantEnd)

/-- Whether a text is a reference that is taken from the root of a server: something is written that
does not start with a slash and does not name a scheme with a server. -/
structure IsUnrooted (raw : String) : Prop where
  nonempty : Text.trim raw ≠ ""
  serverless : ¬ "://".toList <:+: (Text.trim raw).toList
  rootless : (Text.trim raw).toList.head? ≠ some '/'

/-- A text begins with a slash exactly if its first character is one. -/
theorem beginsWith_slash_iff {text : String} :
    Text.beginsWith text "/" = true ↔ text.toList.head? = some '/' := by
  rw [Text.beginsWith_iff]
  cases text.toList with
  | nil => decide
  | cons c rest =>
    change ['/'] <+: c :: rest ↔ some c = some '/'
    rw [List.cons_prefix_cons, Option.some_inj, eq_comm]
    exact and_iff_left List.nil_prefix

/-- Such a text is resolved behind a slash. -/
theorem IsUnrooted.resolve?_eq {raw : String} (h : IsUnrooted raw) (base : Url) :
    Reference.resolve? base raw = (base.join ("/" ++ Text.trim raw)).toOption := by
  have htarget : Reference.target raw = "/" ++ Text.trim raw := by
    have hnone : ¬ (Text.occursIn "://" (Text.trim raw) = true ∨
        Text.beginsWith (Text.trim raw) "/" = true) := by
      rw [Text.occursIn_iff, beginsWith_slash_iff]
      exact not_or.2 ⟨h.serverless, h.rootless⟩
    rw [Reference.target, if_neg hnone]
  rw [Reference.resolve?_eq, if_neg (mt (Text.trim_eq_empty_iff raw).2 h.nonempty), htarget]

/-- A reference that is taken from the root of a server keeps to the server of its base and leads to
the same place on every server, unless it starts with a backslash. Behind a backslash it names the
server itself, as if it stood behind the scheme of the base. -/
theorem rebase_of_isUnrooted (reference : Reference) (h : IsUnrooted reference.raw) :
    ((Text.trim reference.raw).toList.head? ≠ some '\\' →
      ∃ place : Url, ∀ base : Url, base.IsWeb → (reference.rebase base).url =
        some { place with scheme := base.scheme, authority := base.authority }) ∧
    ((Text.trim reference.raw).toList.head? = some '\\' → ∀ base : Url, base.IsWeb →
      (reference.rebase base).url =
        (Url.ofText (base.scheme ++ ":/" ++ Text.trim reference.raw)).toOption) := by
  obtain ⟨c, rest, htext⟩ := List.exists_cons_of_ne_nil (mt String.toList_eq_nil_iff.1 h.nonempty)
  have hurl : ∀ base : Url, (reference.rebase base).url =
      (base.join ("/" ++ Text.trim reference.raw)).toOption := by
    intro base
    rw [Reference.rebase, h.resolve?_eq base]
  have hrootless := h.rootless
  rw [htext, List.head?_cons] at hrootless ⊢
  constructor
  · intro hplain
    have hblank : Text.isBlank c = false := by
      rw [Text.trim, String.toList_ofList] at htext
      exact Text.isBlank_of_trimmed htext
    have hslash : Url.isAnySlash c = false := by
      rw [Url.isAnySlash, Bool.or_eq_false_iff, beq_eq_false_iff_ne, beq_eq_false_iff_ne]
      exact ⟨mt (congrArg some) hrootless, mt (congrArg some) hplain⟩
    refine ⟨Url.withPath "http" none [] (significantEnd (Text.trim reference.raw).toList),
      fun base hbase => ?_⟩
    rw [hurl, hbase.join_place htext hblank hslash]
    rfl
  · rintro ⟨⟩ base hbase
    rw [hurl, hbase.join_server htext]

/-- A relative address with a colon, a step up and a backslash further on leads to one place on every
server. -/
theorem rebase_of_isUnrooted_relative :
    IsUnrooted " ctl:8/../a\\b?c#d " ∧ (Text.trim " ctl:8/../a\\b?c#d ").toList.head? ≠ some '\\' ∧
      ∃ place : Url, ∀ base : Url, base.IsWeb →
        ((Reference.ofText " ctl:8/../a\\b?c#d ").rebase base).url =
          some { place with scheme := base.scheme, authority := base.authority } := by
  have h : IsUnrooted " ctl:8/../a\\b?c#d " := ⟨by decide, by decide, by decide⟩
  have hplain : (Text.trim " ctl:8/../a\\b?c#d ").toList.head? ≠ some '\\' := by decide
  exact ⟨h, hplain, (rebase_of_isUnrooted (Reference.ofText " ctl:8/../a\\b?c#d ") h).1 hplain⟩

/-- A reference with neither a scheme nor a slash that leads away from the server of its base. -/
theorem rebase_leaves_server :
    IsUnrooted "\\203.0.113.9/ctl" ∧
      ∃ base, Url.ofText "http://192.168.1.1:5000/rootDesc.xml" = .ok base ∧ base.IsWeb ∧
        ∃ url, ((Reference.ofText "\\203.0.113.9/ctl").rebase base).url = some url ∧
          url.text = "http://203.0.113.9/ctl" ∧ url.authority ≠ base.authority := by
  have hbase : Url.ofText "http://192.168.1.1:5000/rootDesc.xml" = .ok ⟨"http",
      some ⟨"", "", some (.ipv4 (.ofOctets 192 168 1 1)), some 5000⟩, .segments ["rootDesc.xml"],
      none, none⟩ := by
    decide +kernel
  have hresolved : ((Reference.ofText "\\203.0.113.9/ctl").rebase ⟨"http",
      some ⟨"", "", some (.ipv4 (.ofOctets 192 168 1 1)), some 5000⟩, .segments ["rootDesc.xml"],
      none, none⟩).url = some ⟨"http", some ⟨"", "", some (.ipv4 (.ofOctets 203 0 113 9)), none⟩,
      .segments ["ctl"], none, none⟩ := by
    decide +kernel
  have hunrooted : IsUnrooted "\\203.0.113.9/ctl" := ⟨by decide, by decide, by decide⟩
  exact ⟨hunrooted, _, hbase, (Url.isWeb_iff_of_ofText hbase).2 (by decide), _, hresolved,
    by decide +kernel, by decide +kernel⟩

end NatGateway.Description
