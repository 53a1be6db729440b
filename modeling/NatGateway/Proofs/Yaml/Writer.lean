import NatGateway.Proofs.Yaml.Value
import NatGateway.Yaml.Writer

/-!
# Which values can be written

A value can be written as a document unless a tag stands right under another one in it, or a mapping has
nothing but one entry whose key consists of one entry as well. A tag right above such a mapping makes up for
that. Where a node is written, and what has been written before it, makes no other difference.
-/

namespace NatGateway.Yaml

open Value

variable {value key : Value} {items : List Value} {entries : List (Value × Value)} {tag : String}
  {underTag : Bool}

/-- Values that can be written, keys included, right under a tag or elsewhere. -/
inductive IsWritable : Bool → Value → Prop
  | leaf {underTag : Bool} {value : Value} (hsequence : ∀ items, value ≠ .sequence items)
      (hmapping : ∀ entries, value ≠ .mapping entries)
      (htagged : ∀ tag inner, value ≠ .tagged tag inner) : IsWritable underTag value
  | sequence {underTag : Bool} {items : List Value}
      (items_writable : ∀ item ∈ items, IsWritable false item) : IsWritable underTag (.sequence items)
  | mapping {underTag : Bool} {entries : List (Value × Value)}
      (keys : ∀ entry ∈ entries, IsWritable false entry.1)
      (values : ∀ entry ∈ entries, IsWritable false entry.2)
      (start : ∀ entry, entries = [entry] → entry.1.isSingle = true → underTag = true) :
      IsWritable underTag (.mapping entries)
  | tagged {tag : String} {inner : Value} (inner_writable : IsWritable true inner) :
      IsWritable false (.tagged tag inner)

/-- A sequence can be written if its items can. -/
theorem isWritable_sequence_iff :
    IsWritable underTag (.sequence items) ↔ ∀ item ∈ items, IsWritable false item := by
  constructor
  · intro h
    cases h with
    | leaf hsequence _ _ => exact absurd rfl (hsequence items)
    | sequence hitems => exact hitems
  · exact .sequence

/-- A mapping can be written if its keys and values can, and not just one entry would open it. -/
theorem isWritable_mapping_iff : IsWritable underTag (.mapping entries) ↔
    (∀ entry ∈ entries, IsWritable false entry.1 ∧ IsWritable false entry.2) ∧
      ∀ entry, entries = [entry] → entry.1.isSingle = true → underTag = true := by
  constructor
  · intro h
    cases h with
    | leaf _ hmapping _ => exact absurd rfl (hmapping entries)
    | mapping hkeys hvalues hstart =>
      exact ⟨fun entry hentry => ⟨hkeys entry hentry, hvalues entry hentry⟩, hstart⟩
  · rintro ⟨hentries, hstart⟩
    exact .mapping (fun entry hentry => (hentries entry hentry).1)
      (fun entry hentry => (hentries entry hentry).2) hstart

/-- A value with a tag can be written, not right under another tag, if it can be under its own. -/
theorem isWritable_tagged_iff :
    IsWritable underTag (.tagged tag value) ↔ underTag = false ∧ IsWritable true value := by
  constructor
  · intro h
    cases h with
    | leaf _ _ htagged => exact absurd rfl (htagged tag value)
    | tagged hinner => exact ⟨rfl, hinner⟩
  · rintro ⟨rfl, hinner⟩
    exact .tagged hinner

/-- Whether nodes with this value can be written, under a tag and elsewhere. -/
def WritesAs (value : Value) : Prop :=
  ∀ place underTag out, (writeNode place underTag out value).isSome = true ↔ IsWritable underTag value

/-- Items can be written if each of them can. -/
theorem isSome_writeItems_iff (h : ∀ item ∈ items, WritesAs item) (column : Nat) (out : List Char) :
    (writeItems column out items).isSome = true ↔ ∀ item ∈ items, IsWritable false item := by
  induction items generalizing out with
  | nil => simp [writeItems]
  | cons item rest ih =>
    rw [List.forall_mem_cons] at h
    rw [writeItems, List.forall_mem_cons,
      ← h.1 ⟨some column, false, true, false⟩ false ('-' :: out)]
    cases writeNode ⟨some column, false, true, false⟩ false ('-' :: out) item with
    | none => simp
    | some written => simp [ih h.2]

/-- A mapping without entries can be written. -/
theorem isWritable_mapping_nil : IsWritable underTag (.mapping []) := .mapping nofun nofun nofun

/-- A key that fits on one line can be written. -/
theorem isWritable_of_shortKey? {text : List Char} (h : shortKey? key = some text) :
    IsWritable false key := by
  cases key with
  | sequence items =>
    cases items with
    | nil => exact .sequence nofun
    | cons item rest => cases h
  | mapping entries =>
    cases entries with
    | nil => exact isWritable_mapping_nil
    | cons entry rest => cases h
  | tagged tag inner =>
    cases inner with
    | sequence items =>
      cases items with
      | nil => exact .tagged (.sequence nofun)
      | cons item rest => cases h
    | mapping entries =>
      cases entries with
      | nil => exact .tagged isWritable_mapping_nil
      | cons entry rest => cases h
    | tagged tag inner => cases h
    | _ => exact .tagged (.leaf nofun nofun nofun)
  | _ => exact .leaf nofun nofun nofun

/-- Entries can be written if the keys and values of each of them can. -/
theorem isSome_writeEntries_iff (h : ∀ entry ∈ entries, WritesAs entry.1 ∧ WritesAs entry.2)
    (column : Nat) (out : List Char) : (writeEntries column out entries).isSome = true ↔
      ∀ entry ∈ entries, IsWritable false entry.1 ∧ IsWritable false entry.2 := by
  induction entries generalizing out with
  | nil => simp [writeEntries]
  | cons entry rest ih =>
    obtain ⟨key, value⟩ := entry
    rw [List.forall_mem_cons] at h
    rw [writeEntries, List.forall_mem_cons]
    cases hshort : shortKey? key with
    | some text =>
      simp only []
      rw [← h.1.2 ⟨some column, true, false, false⟩ false (':' :: append text out)]
      cases writeNode ⟨some column, true, false, false⟩ false (':' :: append text out) value with
      | none => simp
      | some written => simp [ih h.2, isWritable_of_shortKey? hshort]
    | none =>
      simp only []
      rw [← h.1.1 ⟨some column, true, true, false⟩ false ('?' :: out)]
      cases writeNode ⟨some column, true, true, false⟩ false ('?' :: out) key with
      | none => simp
      | some written =>
        rw [← h.1.2 ⟨some column, true, true, false⟩ false (':' :: newLine column written),
          Option.bind_some]
        cases writeNode ⟨some column, true, true, false⟩ false (':' :: newLine column written)
          value with
        | none => simp
        | some written => simp [ih h.2]

/-- A node can be written if its value can. -/
theorem writesAs (value : Value) : WritesAs value := by
  induction value using Value.induct with
  | leaf value hsequence hmapping htagged =>
    intro place underTag out
    have hwrites : (writeNode place underTag out value).isSome = true := by
      cases value with
      | sequence items => exact absurd rfl (hsequence items)
      | mapping entries => exact absurd rfl (hmapping entries)
      | tagged tag inner => exact absurd rfl (htagged tag inner)
      | _ => rw [writeNode]; rfl
    exact iff_of_true hwrites (.leaf hsequence hmapping htagged)
  | sequence items ih =>
    intro place underTag out
    rw [isWritable_sequence_iff]
    cases items with
    | nil => simp [writeNode]
    | cons item rest =>
      rw [writeNode]
      exact isSome_writeItems_iff ih _ _
  | mapping entries ih =>
    intro place underTag out
    cases entries with
    | nil => exact iff_of_true (by rw [writeNode]; rfl) isWritable_mapping_nil
    | cons entry rest =>
      have hentries := isSome_writeEntries_iff ih place.entries (firstLine place place.entries out)
      rw [writeNode, isWritable_mapping_iff]
      split
      · next hsingle =>
        simp only [Bool.and_eq_true, Bool.not_eq_true', List.isEmpty_iff] at hsingle
        obtain ⟨⟨rfl, hkey⟩, rfl⟩ := hsingle
        refine iff_of_false Bool.false_ne_true fun h => ?_
        cases h.2 entry rfl hkey
      · next hother =>
        rw [hentries]
        refine (and_iff_left fun only honly hkey => ?_).symm
        obtain ⟨rfl, rfl⟩ := List.cons.inj honly
        simpa [hkey] using hother
  | tagged tag inner ih =>
    intro place underTag out
    rw [writeNode, isWritable_tagged_iff]
    cases underTag with
    | true => simp
    | false =>
      rw [if_neg Bool.false_ne_true, ih]
      simp

/-- A value has a text as a document exactly if it can be written. -/
theorem isSome_text?_iff : value.text?.isSome = true ↔ IsWritable false value := by
  rw [Value.text?, Option.isSome_map]
  exact writesAs value .root false []

end NatGateway.Yaml
