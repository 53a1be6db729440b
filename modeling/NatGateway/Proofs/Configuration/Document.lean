import NatGateway.Configuration.Document
import NatGateway.Proofs.Text.LowerCase
import NatGateway.Proofs.Yaml.Value

/-!
# Normal documents

A document is normal if its keys are distinct and in lower case wherever they are looked at.
Lowering its keys makes a document normal and leaves a normal one as it is. Of several entries whose
keys become the same the last one stays.
-/

namespace NatGateway.Configuration

open NatGateway.Yaml (Value Distinct)
open NatGateway.Yaml.Value

variable {entries lower upper : List (Value × Value)} {key value : Value} {name : String}

/-! ## Normal documents -/

/-- Documents whose mappings have distinct keys, and names only in lower case. What is under a tag
and what is in a key does not matter. -/
inductive IsNormal : Value → Prop
  | leaf {value : Value} (hsequence : ∀ items, value ≠ .sequence items)
      (hmapping : ∀ entries, value ≠ .mapping entries) : IsNormal value
  | sequence {items : List Value} (items_normal : ∀ item ∈ items, IsNormal item) :
      IsNormal (.sequence items)
  | mapping {entries : List (Value × Value)} (keys : ∀ entry ∈ entries, lowerKey entry.1 = entry.1)
      (distinct : Distinct entries) (values : ∀ entry ∈ entries, IsNormal entry.2) :
      IsNormal (.mapping entries)

/-- An empty mapping is normal. -/
theorem isNormal_empty : IsNormal (.mapping []) := .mapping nofun List.Pairwise.nil nofun

/-- The key of a name is in lower case. -/
@[simp] theorem lowerKey_keyOf : lowerKey (keyOf name) = keyOf name := by
  rw [keyOf, lowerKey, keyOf, Text.lower_lower]

/-- A key with its name in lower case stays as it is. -/
@[simp] theorem lowerKey_lowerKey : lowerKey (lowerKey key) = lowerKey key := by
  cases key with
  | string text => exact lowerKey_keyOf
  | _ => rfl

/-- Items are lowered one by one. -/
theorem lowerItems_eq_map (items : List Value) : lowerItems items = items.map lowerKeys := by
  induction items with
  | nil => rfl
  | cons item rest ih => rw [lowerItems, ih, List.map_cons]

/-- Distinct entries whose keys are in lower case keep their keys, and their values are lowered. -/
theorem lowerEntries_of_distinct (known : List (Value × Value))
    (hkeys : ∀ entry ∈ entries, lowerKey entry.1 = entry.1)
    (hdistinct : Distinct (known ++ entries)) :
    lowerEntries known entries = known ++ entries.map fun entry => (entry.1, lowerKeys entry.2) := by
  induction entries generalizing known with
  | nil => rw [lowerEntries, List.map_nil, List.append_nil]
  | cons entry rest ih =>
    obtain ⟨k, v⟩ := entry
    rw [List.forall_mem_cons] at hkeys
    have hfresh := (distinct_append_iff.1 hdistinct).2.2 (k, v) List.mem_cons_self
    rw [lowerEntries, hkeys.1, insert_of_lookup?_eq_none hfresh, ih _ hkeys.2, List.append_assoc]
    · rfl
    · rw [Distinct, List.append_assoc, List.map_append, List.map_append]
      rwa [Distinct, List.map_append] at hdistinct

/-- A normal document stays as it is when its keys are lowered. -/
theorem lowerKeys_of_isNormal (h : IsNormal value) : lowerKeys value = value := by
  induction h with
  | @leaf value hsequence hmapping =>
    cases value with
    | sequence items => exact absurd rfl (hsequence items)
    | mapping entries => exact absurd rfl (hmapping entries)
    | _ => rfl
  | @sequence items _ ih =>
    rw [lowerKeys, lowerItems_eq_map, List.map_congr_left ih, List.map_id']
  | @mapping entries hkeys hdistinct _ ih =>
    have hsame : entries.map (fun entry => (entry.1, lowerKeys entry.2)) = entries.map id :=
      List.map_congr_left fun entry hentry => by rw [ih entry hentry, id]
    rw [lowerKeys, lowerEntries_of_distinct [] hkeys hdistinct, hsame, List.map_id,
      List.nil_append]

/-- The keys of a normal mapping are in lower case. -/
theorem IsNormal.keys (h : IsNormal (.mapping entries)) :
    ∀ entry ∈ entries, lowerKey entry.1 = entry.1 := by
  cases h with
  | leaf _ hmapping => exact absurd rfl (hmapping entries)
  | mapping hkeys _ _ => exact hkeys

/-- The keys of a normal mapping are distinct. -/
theorem IsNormal.distinct (h : IsNormal (.mapping entries)) : Distinct entries := by
  cases h with
  | leaf _ hmapping => exact absurd rfl (hmapping entries)
  | mapping _ hdistinct _ => exact hdistinct

/-- The values of a normal mapping are normal. -/
theorem IsNormal.values (h : IsNormal (.mapping entries)) : ∀ entry ∈ entries, IsNormal entry.2 := by
  cases h with
  | leaf _ hmapping => exact absurd rfl (hmapping entries)
  | mapping _ _ hvalues => exact hvalues

/-- Putting a normal value under a key in lower case keeps a mapping normal. -/
theorem IsNormal.insert (h : IsNormal (.mapping entries)) (hkey : lowerKey key = key)
    (hvalue : IsNormal value) : IsNormal (.mapping (insert key value entries)) := by
  refine .mapping (fun entry hentry => ?_) (distinct_insert h.distinct) fun entry hentry => ?_
  · rcases mem_insert hentry with hold | ⟨_, heq | hmem⟩
    · exact h.keys entry hold
    · rw [heq, hkey]
    · obtain ⟨old, hold, heq⟩ := List.mem_map.1 hmem
      rw [← heq, h.keys old hold]
  · rcases mem_insert hentry with hold | ⟨heq, _⟩
    · exact h.values entry hold
    · rw [heq]
      exact hvalue

/-- Entries put behind normal ones with their keys in lower case make a normal mapping. -/
theorem isNormal_lowerEntries {known : List (Value × Value)} (hknown : IsNormal (.mapping known))
    (h : ∀ entry ∈ entries, IsNormal (lowerKeys entry.2)) :
    IsNormal (.mapping (lowerEntries known entries)) := by
  induction entries generalizing known with
  | nil => exact hknown
  | cons entry rest ih =>
    rw [List.forall_mem_cons] at h
    exact ih (hknown.insert lowerKey_lowerKey h.1) h.2

/-- A document whose keys have been lowered is normal. -/
theorem isNormal_lowerKeys (value : Value) : IsNormal (lowerKeys value) := by
  induction value using Value.induct with
  | leaf value hsequence hmapping htagged =>
    cases value with
    | sequence items => exact absurd rfl (hsequence items)
    | mapping entries => exact absurd rfl (hmapping entries)
    | _ => exact .leaf nofun nofun
  | sequence items ih =>
    rw [lowerKeys, lowerItems_eq_map]
    exact .sequence (List.forall_mem_map.2 ih)
  | mapping entries ih =>
    exact isNormal_lowerEntries isNormal_empty fun entry hentry => (ih entry hentry).2
  | tagged tag inner _ => exact .leaf nofun nofun

/-! ## The last entry with a name -/

section

variable {others known : List (Value × Value)}

/-- What the last of the entries with a name holds, where names are told apart in lower case only. -/
def latest? (name : String) : List (Value × Value) → Option Value
  | [] => none
  | (key, value) :: rest =>
      (latest? name rest).or (if (lowerKey key).same (keyOf name) then some value else none)

/-- A key is the one of a name in lower case if it is a name that is the same in lower case. -/
theorem lowerKey_eq_keyOf_iff :
    lowerKey key = keyOf name ↔ ∃ text, key = .string text ∧ Text.lower text = Text.lower name := by
  cases key with
  | string text =>
    rw [lowerKey, keyOf, keyOf, Value.string.injEq]
    constructor
    · exact fun h => ⟨text, rfl, h⟩
    · rintro ⟨_, hkey, h⟩
      rw [Value.string.inj hkey]
      exact h
  | _ => simp [lowerKey, keyOf]

/-- There is no last entry with a name if there is none at all. -/
theorem latest?_eq_none_iff :
    latest? name entries = none ↔ ∀ entry ∈ entries, lowerKey entry.1 ≠ keyOf name := by
  induction entries with
  | nil => simp [latest?]
  | cons entry rest ih =>
    rw [latest?, Option.or_eq_none_iff, ih, List.forall_mem_cons, and_comm]
    simp [keyOf]

/-- The last entry with a name is one with a text that is the same in lower case. -/
theorem mem_of_latest? (h : latest? name entries = some value) :
    ∃ text, (.string text, value) ∈ entries ∧ Text.lower text = Text.lower name := by
  induction entries with
  | nil => cases h
  | cons entry rest ih =>
    rw [latest?, Option.or_eq_some_iff] at h
    rcases h with hlater | ⟨_, hhere⟩
    · obtain ⟨text, hmem, htext⟩ := ih hlater
      exact ⟨text, List.mem_cons_of_mem _ hmem, htext⟩
    · rw [Option.ite_none_right_eq_some, keyOf, same_string_iff, ← keyOf] at hhere
      obtain ⟨hkey, hvalue⟩ := hhere
      obtain ⟨text, htext, hlower⟩ := lowerKey_eq_keyOf_iff.1 hkey
      refine ⟨text, List.mem_cons.2 (.inl ?_), hlower⟩
      rw [← htext, ← Option.some.inj hvalue]

/-- The last entry with a name is looked for from the back. -/
theorem latest?_append :
    latest? name (entries ++ others) = (latest? name others).or (latest? name entries) := by
  induction entries with
  | nil => simp [latest?]
  | cons entry rest ih => rw [List.cons_append, latest?, latest?, ih, Option.or_assoc]

/-- Among lowered entries the last one with a name is found, and otherwise what was there before. -/
theorem lookup?_lowerEntries : lookup? (keyOf name) (lowerEntries known entries) =
    ((latest? name entries).map lowerKeys).or (lookup? (keyOf name) known) := by
  induction entries generalizing known with
  | nil => rfl
  | cons entry rest ih =>
    obtain ⟨key, value⟩ := entry
    rw [lowerEntries, ih, latest?]
    by_cases hkey : lowerKey key = keyOf name
    · rw [hkey, lookup?_insert_self, if_pos (same_refl _)]
      cases latest? name rest <;> rfl
    · rw [keyOf, lookup?_string_insert_of_ne hkey, if_neg (mt same_string_iff.1 hkey), Option.or_none]

end

end NatGateway.Configuration
