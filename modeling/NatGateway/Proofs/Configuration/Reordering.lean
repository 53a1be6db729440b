import NatGateway.Proofs.Configuration.Separate
import NatGateway.Proofs.Yaml.Writer

/-!
# Updates in another order

Updates at paths apart lead to the same document in every order, up to the order in which its
mappings list their entries. That order is no part of what a mapping is: documents that differ in
nothing else are equal as values, hold the same at every path, fail at the same names, and can be
written both or neither.
-/

namespace NatGateway.Configuration

open NatGateway.Yaml (Value Distinct IsWritable isWritable_mapping_iff)
open NatGateway.Yaml.Value

variable {entries others before after : List (Value × Value)} {document value other key : Value}
  {name : String} {path : List String} {updates reordered : List Update}

/-! ## Entries in another order -/

/-- Values that differ at most in the order of the entries of mappings. -/
inductive Reordered : Value → Value → Prop
  | refl (value : Value) : Reordered value value
  | mapping {entries others : List (Value × Value)}
      (keys : (entries.map Prod.fst).Perm (others.map Prod.fst))
      (values : ∀ entry ∈ entries, ∀ other ∈ others, entry.1 = other.1 → Reordered entry.2 other.2) :
      Reordered (.mapping entries) (.mapping others)

/-- Reordered values are equal. -/
theorem Reordered.same (h : Reordered value other) : value.same other = true := by
  induction h with
  | refl value => exact same_refl value
  | @mapping entries others keys _ ih =>
    have hlength : entries.length = others.length := by
      simpa only [List.length_map] using keys.length_eq
    rw [Value.same, hlength, beq_self_eq_true, Bool.true_and, entriesIn_iff]
    intro entry hentry
    obtain ⟨other, hother, hkey⟩ := List.mem_map.1 (keys.subset (List.mem_map_of_mem hentry))
    refine ⟨other, hother, ?_, ih entry hentry other hother hkey.symm⟩
    rw [hkey, same_refl]

/-- What stands in reordered mappings under a name: reordered values, or nothing in either. -/
theorem Reordered.lookup? (name : String)
    (keys : (entries.map Prod.fst).Perm (others.map Prod.fst))
    (values : ∀ entry ∈ entries, ∀ other ∈ others, entry.1 = other.1 → Reordered entry.2 other.2) :
    (lookup? (.string name) entries = none ∧ lookup? (.string name) others = none) ∨
      ∃ value other, lookup? (.string name) entries = some value ∧
        lookup? (.string name) others = some other ∧ Reordered value other := by
  cases hentries : Value.lookup? (.string name) entries with
  | none =>
    refine .inl ⟨rfl, lookup?_string_eq_none_iff.2 ?_⟩
    rw [← keys.mem_iff]
    exact lookup?_string_eq_none_iff.1 hentries
  | some value =>
    cases hothers : Value.lookup? (.string name) others with
    | none =>
      rw [lookup?_string_eq_none_iff, ← keys.mem_iff, ← lookup?_string_eq_none_iff, hentries] at hothers
      cases hothers
    | some other =>
      refine .inr ⟨value, other, rfl, rfl, ?_⟩
      exact values _ (mem_of_lookup?_string hentries) _ (mem_of_lookup?_string hothers) rfl

/-- Whether two outcomes are the same answer: equal values, or the same failure. -/
def SameAnswer : Except ConfigurationError Value → Except ConfigurationError Value → Prop
  | .ok value, .ok other => value.same other = true
  | .error error, .error other => error = other
  | _, _ => False

/-- Answers stay the same behind a name. -/
theorem SameAnswer.mapError {first second : Except ConfigurationError Value}
    {change : ConfigurationError → ConfigurationError} (h : SameAnswer first second) :
    SameAnswer (first.mapError change) (second.mapError change) := by
  cases first with
  | ok value =>
    cases second with
    | ok other => exact h
    | error error => exact h
  | error error =>
    cases second with
    | ok other => exact h
    | error other => exact congrArg change h

/-- Reordered documents give the same answer at every path. -/
theorem Reordered.find (h : Reordered document other) (path : List String) :
    SameAnswer (find document path) (find other path) := by
  induction path generalizing document other with
  | nil =>
    rw [find_nil, find_nil]
    exact h.same
  | cons name rest ih =>
    cases h with
    | refl =>
      cases Configuration.find document (name :: rest) with
      | ok value => exact same_refl value
      | error error => rfl
    | mapping keys values =>
      rcases Reordered.lookup? (Text.lower name) keys values with
        ⟨hentries, hothers⟩ | ⟨value, other, hentries, hothers, hvalue⟩
      · rw [find_mapping_of_none hentries, find_mapping_of_none hothers]
        rfl
      · rw [find_mapping_of_some hentries, find_mapping_of_some hothers]
        exact (ih hvalue).mapError

/-- Reordered values can be written if one of them can. -/
theorem Reordered.isWritable {underTag : Bool} (h : Reordered value other)
    (hvalue : IsWritable underTag value) : IsWritable underTag other := by
  induction h generalizing underTag with
  | refl value => exact hvalue
  | @mapping entries others keys _ ih =>
    rw [isWritable_mapping_iff] at hvalue ⊢
    obtain ⟨hentries, hstart⟩ := hvalue
    constructor
    · intro other hother
      obtain ⟨entry, hentry, hkey⟩ :=
        List.mem_map.1 (keys.symm.subset (List.mem_map_of_mem hother))
      refine ⟨hkey ▸ (hentries entry hentry).1, ?_⟩
      exact ih entry hentry other hother hkey (hentries entry hentry).2
    · rintro only rfl hsingle
      -- One entry has no other order.
      obtain ⟨entry, rfl, hkey⟩ := List.map_eq_singleton_iff.1 (List.perm_singleton.1 keys)
      exact hstart entry rfl (hkey ▸ hsingle)

/-! ## Updates inside of entries -/

/-- The value of an updated entry: what was there, or an empty mapping, after the updates inside. -/
theorem AreUpdated.value_eq (h : AreUpdated updates before after) (hdistinct : Distinct before)
    {entry : Value × Value} (hentry : entry ∈ after) :
    entry.2 = run (within entry.1 updates) ((lookup? entry.1 before).getD (.mapping [])) := by
  obtain ⟨new, rfl, hnew⟩ := h.split
  rcases List.mem_append.1 hentry with hbefore | hmem
  · obtain ⟨old, hold, rfl⟩ := List.mem_map.1 hbefore
    rw [lookup?_of_mem hdistinct hold, Option.getD_some]
  · obtain ⟨hnone, _, hvalue⟩ := hnew entry hmem
    rw [hnone, Option.getD_none, hvalue]

/-- The keys of updated entries: those that were there, and those of which something is updated. -/
theorem AreUpdated.mem_keys_iff (h : AreUpdated updates before after) :
    key ∈ after.map Prod.fst ↔ key ∈ before.map Prod.fst ∨ within key updates ≠ [] := by
  constructor
  · intro hkey
    obtain ⟨new, rfl, hnew⟩ := h.split
    obtain ⟨entry, hentry, rfl⟩ := List.mem_map.1 hkey
    rcases List.mem_append.1 hentry with hbefore | hmem
    · obtain ⟨old, hold, rfl⟩ := List.mem_map.1 hbefore
      exact .inl (List.mem_map.2 ⟨old, hold, rfl⟩)
    · exact .inr (hnew entry hmem).2.1
  · rintro (hbefore | hwithin)
    · exact h.keys_prefix.subset hbefore
    · obtain ⟨name, rfl⟩ := exists_name_of_within hwithin
      obtain ⟨value, hvalue⟩ := Option.isSome_iff_exists.1 (h.found _ hwithin)
      exact List.mem_map_of_mem (mem_of_lookup?_string hvalue)

/-- Updates at paths apart are at paths apart inside of every entry. -/
theorem AreApart.within (h : AreApart updates) (key : Value) : AreApart (within key updates) := by
  rw [AreApart, Configuration.within, List.pairwise_filterMap]
  refine h.imp fun {first second} hapart inner hinner other hother => ?_
  obtain ⟨path, value⟩ := first
  obtain ⟨steps, new⟩ := second
  obtain ⟨name, rest, rfl⟩ := List.exists_cons_of_ne_nil hapart.ne_nil
  obtain ⟨step, steps, rfl⟩ := List.exists_cons_of_ne_nil hapart.symm.ne_nil
  simp only [Option.ite_none_right_eq_some, Option.some.injEq] at hinner hother
  obtain ⟨hname, rfl⟩ := hinner
  obtain ⟨hstep, rfl⟩ := hother
  exact (apart_cons_iff.1 hapart).resolve_left (not_not_intro (hname.trans hstep.symm))

/-- An update of the whole document is apart from no other. -/
theorem AreApart.eq_singleton (h : AreApart updates) (hmem : ([], value) ∈ updates) :
    updates = [([], value)] := by
  obtain ⟨front, back, rfl⟩ := List.append_of_mem hmem
  obtain ⟨_, hback, hfront⟩ := List.pairwise_append.1 h
  have hfrontNil : front = [] := by
    rw [List.eq_nil_iff_forall_not_mem]
    exact fun update hupdate =>
      (hfront update hupdate _ List.mem_cons_self).symm.ne_nil rfl
  have hbackNil : back = [] := by
    rw [List.eq_nil_iff_forall_not_mem]
    exact fun update hupdate => ((List.pairwise_cons.1 hback).1 update hupdate).ne_nil rfl
  rw [hfrontNil, hbackNil, List.nil_append]

/-! ## Updates in another order -/

/-- Updates at paths apart lead to the same document in every order, up to the order of entries. -/
theorem run_reordered {updates reordered : List Update} {document : Value}
    (hperm : updates.Perm reordered) (hapart : AreApart updates) (hdocument : IsNormal document) :
    Reordered (run updates document) (run reordered document) := by
  by_cases hroot : ∃ new, (([] : List String), new) ∈ updates
  · obtain ⟨new, hnew⟩ := hroot
    rw [hapart.eq_singleton hnew] at hperm ⊢
    rw [List.singleton_perm.1 hperm]
    exact .refl _
  by_cases hupdates : updates = []
  · rw [hupdates] at hperm ⊢
    rw [hperm.nil_eq]
    exact .refl _
  have hpaths : ∀ update ∈ updates, update.1 ≠ [] := by
    rintro ⟨path, new⟩ hmem rfl
    exact hroot ⟨new, hmem⟩
  have hpaths' : ∀ update ∈ reordered, update.1 ≠ [] := fun update hmem =>
    hpaths update (hperm.mem_iff.2 hmem)
  obtain ⟨entries, rfl⟩ | hleaf := mapping_or_leaf document
  · obtain ⟨after, hrun, hafter⟩ := run_mapping hpaths hdocument.distinct
    obtain ⟨after', hrun', hafter'⟩ := run_mapping hpaths' hdocument.distinct
    have hwithin : ∀ key, (within key updates).Perm (within key reordered) :=
      fun key => hperm.filterMap _
    rw [hrun, hrun']
    apply Reordered.mapping
    · refine (List.perm_ext_iff_of_nodup hafter.distinct.nodup hafter'.distinct.nodup).2 fun key => ?_
      have hsame : within key updates = [] ↔ within key reordered = [] := by
        rw [← List.length_eq_zero_iff, (hwithin key).length_eq, List.length_eq_zero_iff]
      rw [hafter.mem_keys_iff, hafter'.mem_keys_iff, Ne, Ne, hsame]
    · intro entry hentry other hother hkey
      rw [hafter.value_eq hdocument.distinct hentry, hafter'.value_eq hdocument.distinct hother, ← hkey]
      apply run_reordered (hwithin entry.1) (hapart.within entry.1)
      cases hlookup : lookup? entry.1 entries with
      | none => exact isNormal_empty
      | some known =>
        obtain ⟨k, hmem, _⟩ := exists_mem_of_lookup? hlookup
        exact hdocument.values _ hmem
  · rw [run_leaf hleaf hpaths, run_leaf hleaf hpaths']
    exact .refl _
termination_by totalLength updates
decreasing_by exact totalLength_within_lt hpaths hupdates _

end NatGateway.Configuration
