import NatGateway.Proofs.Configuration.Layers

/-!
# Updates of documents

An update either reaches its place, making the mappings it needs on the way, or is blocked by
something that is no mapping and changes nothing. A sequence of updates that all go below the top of
a mapping splits by the first names of their paths: every entry is updated by those updates that
start with its name, as if it stood alone, and the names that are new come behind the entries in the
order of their first update.

A sequence of updates may be repeated: when its outcome is lowered and laid over the document that
the updated one extended, the same sequence leads to the same outcome again, in whatever way its
updates overlap or block each other.
-/

namespace NatGateway.Configuration

open NatGateway.Yaml (Value Distinct)
open NatGateway.Yaml.Value

variable {entries : List (Value × Value)} {document value key : Value} {name : String}
  {path rest : List String}

/-! ## One update -/

/-- A document with a value at a path, or as it was if that is blocked. -/
def updated (document : Value) (path : List String) (value : Value) : Value :=
  match update document path value with
  | .ok document => document
  | .error _ => document

/-- An update of the whole document takes its place. -/
theorem updated_nil : updated document [] value = value := by
  cases document <;> rfl

/-- An update inside of something that is no mapping is blocked. -/
theorem updated_leaf (h : ∀ entries, document ≠ .mapping entries) (hpath : path ≠ []) :
    updated document path value = document := by
  cases path with
  | nil => exact absurd rfl hpath
  | cons name rest =>
    cases document with
    | mapping entries => exact absurd rfl (h entries)
    | _ => rfl

/-- Where there is nothing an update is not blocked. -/
theorem exists_update_empty (path : List String) (value : Value) :
    ∃ document, update (.mapping []) path value = .ok document := by
  induction path with
  | nil => exact ⟨value, rfl⟩
  | cons name rest ih =>
    obtain ⟨document, h⟩ := ih
    exact ⟨.mapping (insert (keyOf name) document []), by
      rw [update, lookup?, Option.getD_none, h]
      rfl⟩

/-- An update inside of a mapping is one of the entry with the first name. -/
theorem updated_mapping :
    updated (.mapping entries) (name :: rest) value =
      .mapping (insert (keyOf name)
        (updated ((lookup? (keyOf name) entries).getD (.mapping [])) rest value) entries) := by
  rw [updated, updated, update]
  cases hinner : update ((lookup? (keyOf name) entries).getD (.mapping [])) rest value with
  | ok inner => rfl
  | error error =>
    cases hlookup : lookup? (keyOf name) entries with
    | none =>
      rw [hlookup, Option.getD_none] at hinner
      obtain ⟨document, hdocument⟩ := exists_update_empty rest value
      rw [hdocument] at hinner
      cases hinner
    | some known => exact congrArg Value.mapping (insert_lookup? hlookup).symm

/-- An update keeps a property of empty mappings that the values of a mapping share with it, and that
a mapping keeps when a value with the property is put into it under a name. -/
theorem updated_induct {P : Value → Prop} (hempty : P (.mapping []))
    (hinside : ∀ {entries name inner}, P (.mapping entries) →
      lookup? (keyOf name) entries = some inner → P inner)
    (hinsert : ∀ {entries name inner}, P (.mapping entries) → P inner →
      P (.mapping (insert (keyOf name) inner entries)))
    (hdocument : P document) (hvalue : P value) : P (updated document path value) := by
  induction path generalizing document with
  | nil =>
    rw [updated_nil]
    exact hvalue
  | cons name rest ih =>
    obtain ⟨entries, rfl⟩ | hleaf := mapping_or_leaf document
    · rw [updated_mapping]
      refine hinsert hdocument (ih ?_)
      cases hlookup : lookup? (keyOf name) entries with
      | none => exact hempty
      | some inner => exact hinside hdocument hlookup
    · rw [updated_leaf hleaf (List.cons_ne_nil name rest)]
      exact hdocument

/-- An update with a normal value keeps a document normal. -/
theorem IsNormal.updated (h : IsNormal document) (hvalue : IsNormal value) :
    IsNormal (updated document path value) := by
  refine updated_induct isNormal_empty ?_ ?_ h hvalue
  · exact fun hentries hlookup => hentries.values _ (mem_of_lookup?_string hlookup)
  · exact fun hentries hinner => hentries.insert lowerKey_keyOf hinner

/-! ## Sequences of updates -/

/-- A value and the path that it is put at. -/
abbrev Update := List String × Value

/-- A document after updates, one after another. -/
def run (updates : List Update) (document : Value) : Value :=
  updates.foldl (fun document update => updated document update.1 update.2) document

/-- A sequence of updates keeps what each of them keeps. -/
theorem run_induct {P : Value → Prop} {updates : List Update}
    (hupdates : ∀ document, P document → ∀ update ∈ updates, P (updated document update.1 update.2))
    (hdocument : P document) : P (run updates document) := by
  induction updates generalizing document with
  | nil => exact hdocument
  | cons update rest ih =>
    refine ih (fun document h other hother => ?_) (hupdates document hdocument update List.mem_cons_self)
    exact hupdates document h other (List.mem_cons_of_mem _ hother)

/-- The updates that start with the name of a key, behind that name. -/
def within (key : Value) (updates : List Update) : List Update :=
  updates.filterMap fun update =>
    match update.1 with
    | [] => none
    | name :: rest => if keyOf name = key then some (rest, update.2) else none

/-- Updates of a whole document make no difference between documents. -/
theorem run_eq_of_mem {updates : List Update} (h : ([], value) ∈ updates) (document other : Value) :
    run updates document = run updates other := by
  induction updates generalizing document other with
  | nil => cases h
  | cons update rest ih =>
    rcases List.mem_cons.1 h with rfl | hmem
    · rw [run, run, List.foldl_cons, List.foldl_cons, updated_nil, updated_nil]
    · exact ih hmem _ _

/-- Updates inside of something that is no mapping are blocked. -/
theorem run_leaf {updates : List Update} (h : ∀ entries, document ≠ .mapping entries)
    (hupdates : ∀ update ∈ updates, update.1 ≠ []) : run updates document = document := by
  induction updates with
  | nil => rfl
  | cons update rest ih =>
    rw [List.forall_mem_cons] at hupdates
    rw [run, List.foldl_cons, updated_leaf h hupdates.1]
    exact ih hupdates.2

/-- The first update is among those inside its own entry. -/
theorem within_cons_self {updates : List Update} :
    within (keyOf name) ((name :: rest, value) :: updates) =
      (rest, value) :: within (keyOf name) updates :=
  List.filterMap_cons_some (if_pos rfl)

/-- The first update is not among those inside other entries. -/
theorem within_cons_of_ne {updates : List Update} (h : key ≠ keyOf name) :
    within key ((name :: rest, value) :: updates) = within key updates :=
  List.filterMap_cons_none (if_neg h.symm)

/-- Entries after updates below them: those that were there, each after the updates inside it, and
behind them new ones that are made by the updates inside them. -/
structure AreUpdated (updates : List Update) (before after : List (Value × Value)) : Prop where
  distinct : Distinct after
  found : ∀ key, within key updates ≠ [] → (lookup? key after).isSome = true
  split : ∃ new,
    after = before.map (fun entry => (entry.1, run (within entry.1 updates) entry.2)) ++ new ∧
    ∀ entry ∈ new, lookup? entry.1 before = none ∧ within entry.1 updates ≠ [] ∧
      entry.2 = run (within entry.1 updates) (.mapping [])

/-- An update in front of others is one of the entry that it is inside of. -/
theorem AreUpdated.cons {updates : List Update} {after : List (Value × Value)}
    (hdistinct : Distinct entries)
    (h : AreUpdated updates (insert (keyOf name)
      (updated ((lookup? (keyOf name) entries).getD (.mapping [])) rest value) entries) after) :
    AreUpdated ((name :: rest, value) :: updates) entries after := by
  obtain ⟨new, hafter, hnew⟩ := h.split
  have hother : ∀ entry ∈ new, entry.1 ≠ keyOf name := by
    intro entry hentry heq
    have hnone := (hnew entry hentry).1
    rw [heq, lookup?_insert_self] at hnone
    cases hnone
  have hnewOther : ∀ entry ∈ new, lookup? entry.1 entries = none ∧
      within entry.1 ((name :: rest, value) :: updates) ≠ [] ∧
      entry.2 = run (within entry.1 ((name :: rest, value) :: updates)) (.mapping []) := by
    intro entry hentry
    obtain ⟨hnone, hwithin, hvalue⟩ := hnew entry hentry
    rw [keyOf, lookup?_insert_of_ne (hother entry hentry)] at hnone
    rw [within_cons_of_ne (hother entry hentry)]
    exact ⟨hnone, hwithin, hvalue⟩
  refine ⟨h.distinct, fun key hkey => ?_, ?_⟩
  · by_cases hname : key = keyOf name
    · rw [hname, hafter, lookup?_append, keyOf,
        lookup?_map fun key value => run (within key updates) value, ← keyOf,
        lookup?_insert_self]
      rfl
    · rw [within_cons_of_ne hname] at hkey
      exact h.found key hkey
  · cases hlookup : lookup? (keyOf name) entries with
    | some known =>
      refine ⟨new, ?_, hnewOther⟩
      rw [hafter, hlookup, Option.getD_some]
      congr 1
      refine map_insert hdistinct hlookup ?_ fun entry _ hne => ?_
      · rw [← keyOf, within_cons_self]
        rfl
      · rw [within_cons_of_ne hne]
    | none =>
      refine ⟨(keyOf name, run (within (keyOf name) updates) (updated (.mapping []) rest value)) ::
        new, ?_, List.forall_mem_cons.2 ⟨⟨hlookup, ?_, ?_⟩, hnewOther⟩⟩
      · rw [hafter, hlookup, Option.getD_none, insert_of_lookup?_eq_none hlookup, List.map_append,
          List.append_assoc]
        congr 1
        refine List.map_congr_left fun entry hentry => ?_
        rw [within_cons_of_ne]
        intro heq
        have hne := lookup?_eq_none_iff.1 hlookup entry hentry
        rw [heq, same_refl] at hne
        cases hne
      · rw [within_cons_self]
        exact List.cons_ne_nil _ _
      · rw [within_cons_self]
        rfl

/-- Updates below the top of a mapping are updates inside its entries. -/
theorem run_mapping {updates : List Update} (hupdates : ∀ update ∈ updates, update.1 ≠ [])
    (hdistinct : Distinct entries) :
    ∃ after, run updates (.mapping entries) = .mapping after ∧ AreUpdated updates entries after := by
  induction updates generalizing entries with
  | nil =>
    refine ⟨entries, rfl, hdistinct, fun key h => absurd rfl h, [], ?_, nofun⟩
    exact (List.map_id entries).symm.trans (List.append_nil _).symm
  | cons update updates ih =>
    obtain ⟨path, value⟩ := update
    rw [List.forall_mem_cons] at hupdates
    cases path with
    | nil => exact absurd rfl hupdates.1
    | cons name rest =>
      obtain ⟨after, hrun, hafter⟩ := ih hupdates.2 (distinct_insert hdistinct)
      refine ⟨after, ?_, hafter.cons hdistinct⟩
      rw [run, List.foldl_cons, updated_mapping]
      exact hrun

/-! ## The same updates again -/

/-- The length of all paths of updates together. -/
def totalLength : List Update → Nat
  | [] => 0
  | update :: rest => update.1.length + totalLength rest

/-- The updates inside of an entry have shorter paths. -/
theorem totalLength_within_lt {updates : List Update} (hpaths : ∀ update ∈ updates, update.1 ≠ [])
    (hupdates : updates ≠ []) (key : Value) :
    totalLength (within key updates) < totalLength updates := by
  have hle : totalLength (within key updates) + updates.length ≤ totalLength updates := by
    clear hupdates
    induction updates with
    | nil => exact Nat.le_refl 0
    | cons update updates ih =>
      obtain ⟨path, value⟩ := update
      rw [List.forall_mem_cons] at hpaths
      have hrest := ih hpaths.2
      cases path with
      | nil => exact absurd rfl hpaths.1
      | cons name rest =>
        by_cases hkey : key = keyOf name
        · rw [hkey, within_cons_self, ← hkey]
          simp only [totalLength, List.length_cons] at hrest ⊢
          omega
        · rw [within_cons_of_ne hkey]
          simp only [totalLength, List.length_cons] at hrest ⊢
          omega
  have hpos : 0 < updates.length := List.length_pos_iff.2 hupdates
  omega

/-- Only names have updates inside. -/
theorem exists_name_of_within {updates : List Update} (h : within key updates ≠ []) :
    ∃ name, key = keyOf name := by
  obtain ⟨inner, hinner⟩ := List.exists_mem_of_ne_nil _ h
  obtain ⟨⟨path, value⟩, _, hupdate⟩ := List.mem_filterMap.1 hinner
  cases path with
  | nil => cases hupdate
  | cons name rest =>
    by_cases hkey : keyOf name = key
    · exact ⟨name, hkey.symm⟩
    · change (if keyOf name = key then some (rest, value) else none) = some inner at hupdate
      rw [if_neg hkey] at hupdate
      cases hupdate

/-- The keys of updated entries start with the keys that were there. -/
theorem AreUpdated.keys_prefix {updates : List Update} {after : List (Value × Value)}
    (h : AreUpdated updates entries after) : entries.map Prod.fst <+: after.map Prod.fst := by
  obtain ⟨new, rfl, _⟩ := h.split
  rw [List.map_append, List.map_map]
  exact List.prefix_append _ _

/-- The keys of updated entries are in lower case if they were. -/
theorem AreUpdated.lowered {updates : List Update} {after : List (Value × Value)}
    (h : AreUpdated updates entries after) (hkeys : ∀ entry ∈ entries, lowerKey entry.1 = entry.1) :
    ∀ entry ∈ after, lowerKey entry.1 = entry.1 := by
  obtain ⟨new, rfl, hnew⟩ := h.split
  intro entry hentry
  rcases List.mem_append.1 hentry with hbefore | hmem
  · obtain ⟨old, hold, rfl⟩ := List.mem_map.1 hbefore
    exact hkeys old hold
  · obtain ⟨name, hname⟩ := exists_name_of_within (hnew entry hmem).2.1
    rw [hname, lowerKey_keyOf]

/-- Updates whose names are all there already leave the keys as they are. -/
theorem run_mapping_of_found {updates : List Update} (hupdates : ∀ update ∈ updates, update.1 ≠ [])
    (hdistinct : Distinct entries)
    (hfound : ∀ key, within key updates ≠ [] → (lookup? key entries).isSome = true) :
    run updates (.mapping entries) =
      .mapping (entries.map fun entry => (entry.1, run (within entry.1 updates) entry.2)) := by
  obtain ⟨after, hrun, hafter⟩ := run_mapping hupdates hdistinct
  obtain ⟨new, hsplit, hnew⟩ := hafter.split
  have hnone : new = [] := by
    rw [List.eq_nil_iff_forall_not_mem]
    intro entry hentry
    obtain ⟨hmissing, hwithin, _⟩ := hnew entry hentry
    have hsome := hfound entry.1 hwithin
    rw [hmissing] at hsome
    cases hsome
  rw [hrun, hsplit, hnone, List.append_nil]

/-- A key that entries do not have is not in a document with whose keys they start. -/
theorem under_of_lookup?_eq_none (hkeys : (entriesOf document).map Prod.fst <+: entries.map Prod.fst)
    (h : lookup? key entries = none) : under document key = .null := by
  have hnone : lookup? key (entriesOf document) = none := by
    rw [lookup?_eq_none_iff]
    intro known hknown
    obtain ⟨entry, hentry, heq⟩ := List.mem_map.1 (hkeys.subset (List.mem_map_of_mem hknown))
    rw [← heq]
    exact lookup?_eq_none_iff.1 h entry hentry
  rw [under, hnone]
  rfl

/-- Updates of a document that extends another lead to the same outcome again when that is lowered
and laid over the other document first. -/
theorem run_merge_lowerKeys_run (updates : List Update) {document value : Value}
    (hnamed : IsNamed document) (hdocument : IsNormal document) (hvalue : IsNormal value)
    (h : Extends document value) :
    run updates (merge document (lowerKeys (run updates value))) = run updates value := by
  by_cases hroot : ∃ new, (([] : List String), new) ∈ updates
  · obtain ⟨new, hnew⟩ := hroot
    exact run_eq_of_mem hnew _ _
  have hpaths : ∀ update ∈ updates, update.1 ≠ [] := by
    rintro ⟨path, new⟩ hmem rfl
    exact hroot ⟨new, hmem⟩
  by_cases hupdates : updates = []
  · rw [hupdates, run, run, List.foldl_nil, List.foldl_nil, lowerKeys_of_isNormal hvalue,
      merge_of_extends hnamed hdocument hvalue h]
  cases h with
  | leaf hmapping =>
    rw [run_leaf hmapping hpaths, lowerKeys_of_isNormal hvalue, merge_leaf hmapping,
      run_leaf hmapping hpaths]
  | @mapping _ entries hkeys hvalues =>
    obtain ⟨after, hrun, hafter⟩ := run_mapping hpaths hvalue.distinct
    have hprefix := hkeys.trans hafter.keys_prefix
    have hagain : ∀ entry ∈ after, run (within entry.1 updates)
        (merge (under document entry.1) (lowerKeys entry.2)) = entry.2 := by
      obtain ⟨new, rfl, hnew⟩ := hafter.split
      intro entry hentry
      rcases List.mem_append.1 hentry with hbefore | hmem
      · obtain ⟨old, hold, rfl⟩ := List.mem_map.1 hbefore
        exact run_merge_lowerKeys_run (within old.1 updates) (hnamed.under old.1)
          (hdocument.under old.1) (hvalue.values old hold) (hvalues old hold)
      · obtain ⟨hnone, _, hentryValue⟩ := hnew entry hmem
        rw [under_of_lookup?_eq_none hkeys hnone, hentryValue]
        exact run_merge_lowerKeys_run (within entry.1 updates) (.leaf nofun) (.leaf nofun nofun)
          isNormal_empty (extends_null _)
    have hkeys' : (after.map fun entry =>
        (entry.1, merge (under document entry.1) (lowerKeys entry.2))).map Prod.fst =
          after.map Prod.fst := List.map_map
    rw [hrun, merge_lowerKeys_mapping hnamed hdocument (hafter.lowered hvalue.keys) hafter.distinct
      hprefix, run_mapping_of_found hpaths, List.map_map]
    · refine congrArg Value.mapping ((List.map_congr_left fun entry hentry => ?_).trans
        (List.map_id after))
      exact congrArg (Prod.mk entry.1) (hagain entry hentry)
    · rw [Distinct, hkeys']
      exact hafter.distinct
    · intro key hkey
      obtain ⟨name, rfl⟩ := exists_name_of_within hkey
      rw [keyOf, lookup?_map fun key value =>
        merge (under document key) (lowerKeys value), ← keyOf, Option.isSome_map]
      exact hafter.found _ hkey
termination_by totalLength updates
decreasing_by all_goals exact totalLength_within_lt hpaths hupdates _

end NatGateway.Configuration
