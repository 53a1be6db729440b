import NatGateway.Configuration.Defaults
import NatGateway.Proofs.Configuration.Find
import NatGateway.Proofs.Yaml.Equality

/-!
# What merged documents hold

Laying one document over another is a recursion on the upper one that changes the lower one as it
goes. What comes out can be said path by path, where a path is any list of keys: along mappings of
the upper document its values win, except that two mappings which meet are merged in turn; where it
has nothing the lower document shows; and behind anything of it that is no mapping there is nothing
any more.
-/

namespace NatGateway.Configuration

open NatGateway.Yaml (Value Distinct HasUniqueKeys)
open NatGateway.Yaml.Value

variable {entries lower upper : List (Value × Value)} {document overlay value next key : Value}
  {path rest : List Value}

/-! ## Entries of merged mappings -/

/-- A mapping from names has no key that comes twice if the names are different and none comes twice in
the values. -/
theorem hasUniqueKeys_named {entries : List (String × Value)} (hnames : (entries.map Prod.fst).Nodup)
    (hvalues : ∀ entry ∈ entries, HasUniqueKeys entry.2) : HasUniqueKeys (named entries) := by
  refine .mapping ?_ ?_ (List.forall_mem_map.2 hvalues)
  · rw [Distinct, List.map_map, List.pairwise_map]
    refine (List.pairwise_map.1 hnames).imp fun {first second} hne => ?_
    simpa [same] using hne
  · exact List.forall_mem_map.2 fun entry _ => .leaf (by simp) (by simp) (by simp)

/-- The keys of the entries of a document have no key that comes twice if it has none. -/
theorem keys_entriesOf (h : HasUniqueKeys document) :
    ∀ entry ∈ entriesOf document, HasUniqueKeys entry.1 := by
  cases document with
  | mapping entries => exact h.keys
  | _ => exact nofun

/-- What stands under a key of a document has no key that comes twice if the document has none. -/
theorem hasUniqueKeys_under (h : HasUniqueKeys document) (key : Value) :
    HasUniqueKeys (under document key) := by
  rw [under]
  cases hlookup : lookup? key (entriesOf document) with
  | none => exact .leaf (by simp) (by simp) (by simp)
  | some value =>
    cases document with
    | mapping entries => exact h.of_lookup? hlookup
    | _ => cases hlookup

/-- An entry is laid over what stands under its key, and null stands for nothing. -/
theorem mergeEntries_cons : mergeEntries lower ((key, value) :: upper) =
    mergeEntries (insert key (merge ((lookup? key lower).getD .null) value) lower) upper := by
  rw [mergeEntries]
  cases lookup? key lower with
  | none => simp
  | some known => rfl

/-- What stands under a key of entries that have been laid over others: what the upper ones have, laid
over what the lower ones have, or what the lower ones have alone. -/
theorem lookup?_mergeEntries (hlower : ∀ entry ∈ lower, HasUniqueKeys entry.1)
    (hupper : ∀ entry ∈ upper, HasUniqueKeys entry.1) (hdistinct : Distinct upper) :
    lookup? key (mergeEntries lower upper) =
      (lookup? key upper).elim (lookup? key lower) fun value =>
        some (merge ((lookup? key lower).getD .null) value) := by
  induction upper generalizing lower with
  | nil => rfl
  | cons entry rest ih =>
    obtain ⟨k, u⟩ := entry
    obtain ⟨hk, hrest⟩ := List.forall_mem_cons.1 hupper
    obtain ⟨_, hdistinctRest⟩ := List.pairwise_cons.1 hdistinct
    have hkeys : ∀ entry ∈ insert k (merge ((lookup? k lower).getD .null) u) lower,
        HasUniqueKeys entry.1 := by
      intro entry hentry
      rcases mem_insert hentry with hold | ⟨_, heq | hmem⟩
      · exact hlower entry hold
      · rw [heq]
        exact hk
      · obtain ⟨known, hknown, heq⟩ := List.mem_map.1 hmem
        rw [← heq]
        exact hlower known hknown
    rw [mergeEntries_cons, ih hkeys hrest hdistinctRest, lookup?_insert hlower hk, lookup?]
    by_cases hsame : k.same key = true
    · -- The key does not come again, so what has been put in stays.
      rw [lookup?_eq_none_of_distinct hupper hdistinct hsame, lookup?_congr hk hsame]
      simp [hsame]
    · simp only [if_neg hsame]

/-- A mapping is laid over a document entry by entry. -/
theorem merge_mapping_entriesOf (hdistinct : Distinct upper) :
    merge document (.mapping upper) = .mapping (mergeEntries (entriesOf document) upper) := by
  cases document with
  | mapping entries => rfl
  | _ =>
    have hnone : mergeEntries [] upper = upper := by
      have h : mergeEntries ([] ++ []) upper = _ :=
        mergeEntries_append [] nofun List.Pairwise.nil hdistinct nofun
      rwa [extra_nil] at h
    exact congrArg Value.mapping hnone.symm

/-- Behind a key that the upper document has its value is laid over the lower one. -/
theorem heldAt?_merge_of_some (hdocument : HasUniqueKeys document)
    (hupper : HasUniqueKeys (.mapping upper)) (h : lookup? key upper = some next) :
    heldAt? (merge document (.mapping upper)) (key :: rest) =
      heldAt? (merge (under document key) next) rest := by
  rw [merge_mapping_entriesOf hupper.distinct, heldAt?_cons, entriesOf,
    lookup?_mergeEntries (keys_entriesOf hdocument) hupper.keys hupper.distinct, h]
  rfl

/-- Behind a key that the upper document does not have the lower one shows. -/
theorem heldAt?_merge_of_none (hdocument : HasUniqueKeys document)
    (hupper : HasUniqueKeys (.mapping upper)) (h : lookup? key upper = none) :
    heldAt? (merge document (.mapping upper)) (key :: rest) = heldAt? document (key :: rest) := by
  rw [merge_mapping_entriesOf hupper.distinct, heldAt?_cons, entriesOf,
    lookup?_mergeEntries (keys_entriesOf hdocument) hupper.keys hupper.distinct, h, heldAt?_cons]
  rfl

/-! ## Paths in merged documents -/

/-- Null stands for what is not there: a document holds behind a key and others what it has under that
key holds behind the others. -/
theorem heldAt?_under_getD :
    (heldAt? (under document key) rest).getD .null = (heldAt? document (key :: rest)).getD .null := by
  rw [heldAt?_cons, under]
  cases lookup? key (entriesOf document) with
  | some next => rfl
  | none => cases rest <;> rfl

/-- Behind keys on whose way the upper document has something that is no mapping nothing is held. -/
theorem heldAt?_merge_of_isCut (hdocument : HasUniqueKeys document)
    (hoverlay : HasUniqueKeys overlay) (h : IsCut overlay path) : heldAt? (merge document overlay) path = none := by
  induction path generalizing document overlay with
  | nil => exact absurd h not_isCut_nil
  | cons key rest ih =>
    obtain ⟨upper, rfl⟩ | hleaf := mapping_or_leaf overlay
    · obtain ⟨next, hnext, hcut⟩ := isCut_mapping_iff.1 h
      rw [heldAt?_merge_of_some hdocument hoverlay hnext]
      exact ih (hasUniqueKeys_under hdocument key) (hoverlay.of_lookup? hnext) hcut
    · rw [merge_leaf hleaf, heldAt?_cons, entriesOf_eq_nil hleaf]
      rfl

/-- Where the upper document holds a value, that is laid over the value of the lower one. -/
theorem heldAt?_merge_of_held (hdocument : HasUniqueKeys document)
    (hoverlay : HasUniqueKeys overlay) (h : heldAt? overlay path = some value) :
    heldAt? (merge document overlay) path =
      some (merge ((heldAt? document path).getD .null) value) := by
  induction path generalizing document overlay with
  | nil =>
    rw [heldAt?_nil, Option.some.injEq] at h
    simp [h]
  | cons key rest ih =>
    obtain ⟨upper, rfl⟩ | hleaf := mapping_or_leaf overlay
    · obtain ⟨next, hnext, hheld⟩ := Option.bind_eq_some_iff.1 h
      rw [heldAt?_merge_of_some hdocument hoverlay hnext,
        ih (hasUniqueKeys_under hdocument key) (hoverlay.of_lookup? hnext) hheld, heldAt?_under_getD]
    · rw [heldAt?_cons, entriesOf_eq_nil hleaf] at h
      cases h

/-- Where the upper document holds nothing, with nothing but mappings on the way, the lower one shows.
-/
theorem heldAt?_merge_of_not_held (hdocument : HasUniqueKeys document)
    (hoverlay : HasUniqueKeys overlay) (h : heldAt? overlay path = none) (hway : ¬ IsCut overlay path) :
    heldAt? (merge document overlay) path = heldAt? document path := by
  induction path generalizing document overlay with
  | nil =>
    rw [heldAt?_nil] at h
    cases h
  | cons key rest ih =>
    obtain ⟨upper, rfl⟩ | hleaf := mapping_or_leaf overlay
    · cases hlookup : lookup? key upper with
      | none => exact heldAt?_merge_of_none hdocument hoverlay hlookup
      | some next =>
        have hnext : heldAt? next rest = none := by
          rw [heldAt?_cons, entriesOf, hlookup] at h
          exact h
        have hopen : ¬ IsCut next rest := fun hcut => hway (isCut_mapping_iff.2 ⟨next, hlookup, hcut⟩)
        rw [heldAt?_merge_of_some hdocument hoverlay hlookup,
          ih (hasUniqueKeys_under hdocument key) (hoverlay.of_lookup? hlookup) hnext hopen,
          heldAt?_cons, under]
        cases lookup? key (entriesOf document) with
        | some known => rfl
        | none =>
          cases rest with
          | nil => simp at hnext
          | cons first rest => rfl
    · exact absurd (isCut_leaf hleaf) hway

/-! ## Merging again -/

/-- Entries that change nothing when they are laid over the values under their keys change nothing
when they are laid over all of them. -/
theorem mergeEntries_eq_self (h : ∀ entry ∈ upper, ∃ known,
    lookup? entry.1 lower = some known ∧ merge known entry.2 = known) :
    mergeEntries lower upper = lower := by
  induction upper with
  | nil => rfl
  | cons entry rest ih =>
    obtain ⟨key, value⟩ := entry
    obtain ⟨⟨known, hknown, hmerge⟩, hrest⟩ := List.forall_mem_cons.1 h
    rw [mergeEntries_cons, hknown, Option.getD_some, hmerge, insert_lookup? hknown]
    exact ih hrest

/-- A document is not changed by being laid over itself. -/
theorem merge_self (h : HasUniqueKeys document) : merge document document = document := by
  induction document using Value.induct with
  | leaf document _ hmapping _ => exact merge_leaf hmapping
  | sequence items _ => rfl
  | mapping entries ih =>
    rw [merge]
    apply congrArg Value.mapping
    apply mergeEntries_eq_self
    intro entry hentry
    exact ⟨entry.2, lookup?_of_mem h.distinct hentry, (ih entry hentry).2 (h.values entry hentry)⟩
  | tagged tag inner _ => rfl

/-- A document is not changed when another one is laid over it once more. -/
theorem merge_merge (hdocument : HasUniqueKeys document) (hoverlay : HasUniqueKeys overlay) :
    merge (merge document overlay) overlay = merge document overlay := by
  induction overlay using Value.induct generalizing document with
  | leaf overlay _ hmapping _ => rw [merge_leaf hmapping, merge_leaf hmapping]
  | sequence items _ => rfl
  | mapping upper ih =>
    have hmerged : merge document (.mapping upper) =
        .mapping (mergeEntries (entriesOf document) upper) :=
      merge_mapping_entriesOf hoverlay.distinct
    rw [hmerged, merge]
    apply congrArg Value.mapping
    apply mergeEntries_eq_self
    intro entry hentry
    refine ⟨merge (under document entry.1) entry.2, ?_, ?_⟩
    · rw [lookup?_mergeEntries (keys_entriesOf hdocument) hoverlay.keys hoverlay.distinct,
        lookup?_of_mem hoverlay.distinct hentry]
      rfl
    · exact (ih entry hentry).2 (hasUniqueKeys_under hdocument entry.1) (hoverlay.values entry hentry)
  | tagged tag inner _ => rfl

/-! ## The law of merging -/

/-- What a document holds that is laid over another one, path by path. Behind something of the upper
one that is no mapping there is nothing. A value of the upper one is there itself, unless it and what
the lower one holds in its place are mappings, which are merged. Where the upper one has nothing the
lower one shows. Names are looked up in the same way. Merging once more, and merging a document into
itself, changes nothing. -/
theorem heldAt?_merge (hdocument : HasUniqueKeys document) (hoverlay : HasUniqueKeys overlay) :
    (∀ path, IsCut overlay path → heldAt? (merge document overlay) path = none) ∧
    (∀ path value, heldAt? overlay path = some value →
      (∀ lower upper, heldAt? document path = some (.mapping lower) → value = .mapping upper →
        heldAt? (merge document overlay) path = some (merge (.mapping lower) (.mapping upper))) ∧
      ((¬ ∃ lower upper, heldAt? document path = some (.mapping lower) ∧ value = .mapping upper) →
        heldAt? (merge document overlay) path = some value)) ∧
    (∀ path, ¬ IsCut overlay path → heldAt? overlay path = none →
      heldAt? (merge document overlay) path = heldAt? document path) ∧
    (∀ names value, find (merge document overlay) names = .ok value ↔
      heldAt? (merge document overlay) (names.map keyOf) = some value) ∧
    merge (merge document overlay) overlay = merge document overlay ∧
    merge document document = document := by
  refine ⟨fun path => heldAt?_merge_of_isCut hdocument hoverlay, fun path value hvalue => ⟨?_, ?_⟩,
    fun path hway hnone => heldAt?_merge_of_not_held hdocument hoverlay hnone hway,
    fun names value => find_eq_ok_iff_heldAt?, merge_merge hdocument hoverlay, merge_self hdocument⟩
  · rintro lower upper hlower rfl
    rw [heldAt?_merge_of_held hdocument hoverlay hvalue, hlower, Option.getD_some]
  · intro hother
    rw [heldAt?_merge_of_held hdocument hoverlay hvalue]
    obtain ⟨upper, rfl⟩ | hleaf := mapping_or_leaf value
    · cases hlower : heldAt? document path with
      | none => simp
      | some known =>
        cases known with
        | mapping lower => exact absurd ⟨lower, upper, hlower, rfl⟩ hother
        | _ => rfl
    · rw [merge_leaf hleaf]

/-- Entries that are in the same place although the keys, which are mappings, list their entries in
another order. -/
theorem heldAt?_merge_turnedKey :
    let point := named [("x", integer 1), ("y", integer 2)]
    let turned := named [("y", integer 2), ("x", integer 1)]
    let document : Value := .mapping [(point, named [("p", integer 3), ("q", integer 4)])]
    let overlay : Value := .mapping [(turned, named [("q", integer 5)])]
    HasUniqueKeys document ∧ HasUniqueKeys overlay ∧
    heldAt? (merge document overlay) [point, .string "p"] = some (integer 3) ∧
    heldAt? (merge document overlay) [point, .string "q"] = some (integer 5) ∧
    heldAt? (merge document overlay) [point, .string "q", .string "r"] = none := by
  intro point turned document overlay
  have hinteger : ∀ n, HasUniqueKeys (integer n) := fun n => .leaf nofun nofun nofun
  have hpair : ∀ (first second : String) (m n : Nat), first ≠ second →
      HasUniqueKeys (named [(first, integer m), (second, integer n)]) := by
    intro first second m n hne
    exact hasUniqueKeys_named (by simpa using hne) (by simp [hinteger])
  have hdocument : HasUniqueKeys document :=
    .mapping (List.pairwise_singleton _ _) (List.forall_mem_singleton.2 (hpair "x" "y" 1 2 (by decide)))
      (List.forall_mem_singleton.2 (hpair "p" "q" 3 4 (by decide)))
  have hoverlay : HasUniqueKeys overlay :=
    .mapping (List.pairwise_singleton _ _) (List.forall_mem_singleton.2 (hpair "y" "x" 2 1 (by decide)))
      (List.forall_mem_singleton.2 (hasUniqueKeys_named (by simp) (by simp [hinteger])))
  obtain ⟨hcut, hheld, hshown, _⟩ := heldAt?_merge hdocument hoverlay
  refine ⟨hdocument, hoverlay, ?_, ?_, ?_⟩
  · have hnone : heldAt? overlay [point, .string "p"] = none := by decide +kernel
    have hway : ¬ IsCut overlay [point, .string "p"] := by
      intro hcut
      obtain ⟨next, hnext, hcut⟩ := isCut_mapping_iff.1 hcut
      have hoverlay : lookup? point [(turned, named [("q", integer 5)])] =
          some (named [("q", integer 5)]) := by decide +kernel
      rw [hoverlay, Option.some.injEq] at hnext
      subst hnext
      obtain ⟨_, hnone, _⟩ := isCut_mapping_iff.1 hcut
      cases hnone
    rw [hshown _ hway hnone]
    decide +kernel
  · have hvalue : heldAt? overlay [point, .string "q"] = some (integer 5) := by decide +kernel
    apply (hheld _ _ hvalue).2
    rintro ⟨_, _, _, h⟩
    cases h
  · apply hcut
    refine ⟨[point, .string "q"], integer 5, ⟨[.string "r"], rfl⟩, by simp, by decide +kernel, nofun⟩

end NatGateway.Configuration
