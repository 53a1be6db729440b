import NatGateway.Proofs.Configuration.Find
import NatGateway.Proofs.Configuration.Updates

/-!
# Updates at paths apart

Two paths are apart if neither of them starts with the other, where names are told apart in lower
case only. An update is found at its own path unless something that is no mapping stands on the way
there. At paths apart from it a document reads as before: the same values are found, and what failed
fails. Only mappings that the update has made on its way can make a difference, since behind them a
name is missed further down the path.
-/

namespace NatGateway.Configuration

open NatGateway.Yaml (Value)
open NatGateway.Yaml.Value

variable {entries others : List (Value × Value)} {document after value found next : Value}
  {name step : String} {path other rest : List String}

/-! ## Paths apart -/

/-- A path with its names as they are told apart. -/
def lowered (path : List String) : List String := path.map Text.lower

/-- Whether neither of two paths starts with the other. -/
def Apart (path other : List String) : Prop :=
  ¬ lowered path <+: lowered other ∧ ¬ lowered other <+: lowered path

instance (path other : List String) : Decidable (Apart path other) :=
  inferInstanceAs (Decidable (_ ∧ _))

/-- Paths apart are apart the other way round. -/
theorem Apart.symm (h : Apart path other) : Apart other path := ⟨h.2, h.1⟩

/-- No path is apart from the empty one. -/
theorem Apart.ne_nil (h : Apart path other) : path ≠ [] := by
  rintro rfl
  exact h.1 List.nil_prefix

/-- Names have the same key if they are the same in lower case. -/
theorem keyOf_eq_iff : keyOf name = keyOf step ↔ Text.lower name = Text.lower step := by
  rw [keyOf, keyOf, Value.string.injEq]

/-- Paths are apart if their first names are different, or if they are apart behind the same one. -/
theorem apart_cons_iff :
    Apart (name :: path) (step :: other) ↔ keyOf name ≠ keyOf step ∨ Apart path other := by
  simp only [Apart, lowered, List.map_cons, List.cons_prefix_cons, Ne, keyOf_eq_iff]
  by_cases h : Text.lower name = Text.lower step
  · simp [h]
  · simp [h, Ne.symm h]

/-- The keys of names are their texts in lower case. -/
theorem map_keyOf : path.map keyOf = (lowered path).map .string := by
  rw [lowered, List.map_map]
  rfl

/-- A value is found at a path in whatever letters that is written. -/
theorem find_congr (h : lowered path = lowered other) :
    find document path = .ok value ↔ find document other = .ok value := by
  rw [find_eq_ok_iff_heldAt?, find_eq_ok_iff_heldAt?, map_keyOf, map_keyOf, h]

/-! ## Outcomes that stay -/

/-- Whether an outcome reads as one before: it is the same value or the same failure, or both times
something is missing and the later one gets at least as far. -/
def ReadsAs (before after : Except ConfigurationError Value) : Prop :=
  after = before ∨ ∃ shown further, before = .error (.missing shown) ∧
    after = .error (.missing further) ∧ shown <+: further

variable {before middle last : Except ConfigurationError Value}

/-- Every outcome reads as itself. -/
theorem ReadsAs.refl (outcome : Except ConfigurationError Value) : ReadsAs outcome outcome := .inl rfl

/-- An outcome that reads as another one reads as what that reads as. -/
theorem ReadsAs.trans (hfirst : ReadsAs before middle) (hsecond : ReadsAs middle last) :
    ReadsAs before last := by
  rcases hfirst with rfl | ⟨shown, further, rfl, rfl, hprefix⟩
  · exact hsecond
  · rcases hsecond with rfl | ⟨_, furthest, hsame, rfl, hfurther⟩
    · exact .inr ⟨shown, further, rfl, rfl, hprefix⟩
    · cases hsame
      exact .inr ⟨shown, furthest, rfl, rfl, hprefix.trans hfurther⟩

/-- The same values are found in outcomes of which one reads as the other. -/
theorem ReadsAs.ok_iff (h : ReadsAs before last) : last = .ok value ↔ before = .ok value := by
  rcases h with rfl | ⟨shown, further, rfl, rfl, _⟩
  · rfl
  · exact iff_of_false nofun nofun

/-- Behind a name outcomes read as they do by themselves. -/
theorem ReadsAs.inside (h : ReadsAs before last) (name : String) :
    ReadsAs (before.mapError (·.inside name)) (last.mapError (·.inside name)) := by
  rcases h with rfl | ⟨shown, further, rfl, rfl, hprefix⟩
  · exact .refl _
  · exact .inr ⟨name :: shown, name :: further, rfl, rfl, List.cons_prefix_cons.2 ⟨rfl, hprefix⟩⟩

/-! ## What is in the way -/

/-- Whether a document holds something that is no mapping on the way along a path. -/
def IsBlocked (document : Value) (path : List String) : Prop :=
  ∃ front given, front <+: path ∧ front ≠ path ∧ find document front = .ok given ∧
    ∀ entries, given ≠ .mapping entries

/-- Something is in the way along a path if it stands on the way along the keys of its names. -/
theorem isBlocked_iff_isCut : IsBlocked document path ↔ IsCut document (path.map keyOf) := by
  constructor
  · rintro ⟨front, given, hprefix, hne, hfind, hleaf⟩
    refine ⟨front.map keyOf, given, hprefix.map keyOf, fun heq => hne ?_,
      find_eq_ok_iff_heldAt?.1 hfind, hleaf⟩
    have hlength := congrArg List.length heq
    rw [List.length_map, List.length_map] at hlength
    exact hprefix.eq_of_length hlength
  · rintro ⟨keys, given, hprefix, hne, hheld, hleaf⟩
    obtain ⟨front, hfront, rfl⟩ := List.prefix_map_iff.1 hprefix
    exact ⟨front, given, hfront, fun heq => hne (congrArg _ heq), find_eq_ok_iff_heldAt?.2 hheld, hleaf⟩

/-- Nothing is in the way along the empty path. -/
theorem not_isBlocked_nil : ¬ IsBlocked document [] :=
  mt isBlocked_iff_isCut.1 not_isCut_nil

/-- What is no mapping is in the way. -/
theorem isBlocked_leaf (h : ∀ entries, document ≠ .mapping entries) :
    IsBlocked document (name :: rest) :=
  isBlocked_iff_isCut.2 (isCut_leaf h)

/-- In a mapping something is in the way if it is in the entry with the first name. -/
theorem isBlocked_mapping_iff : IsBlocked (.mapping entries) (name :: rest) ↔
    ∃ next, lookup? (keyOf name) entries = some next ∧ IsBlocked next rest := by
  simp only [isBlocked_iff_isCut, List.map_cons, isCut_mapping_iff]

/-- Nothing is in the way in an empty mapping. -/
theorem not_isBlocked_empty : ¬ IsBlocked (.mapping []) path := by
  cases path with
  | nil => exact not_isBlocked_nil
  | cons name rest => simp [isBlocked_mapping_iff, lookup?]

/-- Nothing is in the way along a path at which a value is found. -/
theorem not_isBlocked_of_find (h : find document path = .ok value) : ¬ IsBlocked document path := by
  rintro ⟨front, given, ⟨rest, rfl⟩, hne, hfind, hleaf⟩
  cases rest with
  | nil => exact hne (List.append_nil front).symm
  | cons name rest =>
    rw [find_append hfind, find_leaf hleaf] at h
    cases h

/-! ## One update -/

/-- A value takes the place of a whole document. -/
theorem update_nil : update document [] value = .ok value := by
  cases document <;> rfl

/-- A document can be updated at a path if nothing is in the way. -/
theorem exists_update_iff :
    (∃ after, update document path value = .ok after) ↔ ¬ IsBlocked document path := by
  induction path generalizing document with
  | nil => exact iff_of_true ⟨value, update_nil⟩ not_isBlocked_nil
  | cons name rest ih =>
    obtain ⟨entries, rfl⟩ | hleaf := mapping_or_leaf document
    · rw [update, exists_map_eq_ok_iff, ih, isBlocked_mapping_iff]
      cases lookup? (keyOf name) entries with
      | none => simp [not_isBlocked_empty]
      | some next => simp
    · refine iff_of_false ?_ (not_not_intro (isBlocked_leaf hleaf))
      rintro ⟨after, hafter⟩
      cases document with
      | mapping entries => exact hleaf entries rfl
      | _ => cases hafter

/-- What a document is updated to is the updated document. -/
theorem updated_of_update (h : update document path value = .ok after) :
    updated document path value = after := by
  rw [updated, h]

/-- An update that something is in the way of changes nothing. -/
theorem updated_of_isBlocked (h : IsBlocked document path) : updated document path value = document := by
  rw [updated]
  cases hupdate : update document path value with
  | ok after => exact absurd h (exists_update_iff.1 ⟨after, hupdate⟩)
  | error error => rfl

/-- An update is found at its path. -/
theorem find_of_update (h : update document path value = .ok after) :
    find after path = .ok value := by
  induction path generalizing document after with
  | nil =>
    rw [update_nil, Except.ok.injEq] at h
    rw [h, find_nil]
  | cons name rest ih =>
    obtain ⟨entries, rfl⟩ | hleaf := mapping_or_leaf document
    · rw [update, map_eq_ok_iff] at h
      obtain ⟨inner, hinner, rfl⟩ := h
      rw [find_mapping_of_some lookup?_insert_self, mapError_eq_ok_iff]
      exact ih hinner
    · exact absurd (isBlocked_leaf hleaf) (exists_update_iff.1 ⟨after, h⟩)

/-- Mappings that have the same under a name hold the same behind it. -/
theorem find_mapping_congr (h : lookup? (keyOf name) entries = lookup? (keyOf name) others) :
    find (.mapping entries) (name :: rest) = find (.mapping others) (name :: rest) := by
  rw [find, find, findFrom, findFrom, h]

/-- An update inside of one entry leaves the entries with other names as they are. -/
theorem lookup?_insert_keyOf_of_ne (h : keyOf name ≠ keyOf step) :
    lookup? (keyOf name) (insert (keyOf step) value entries) = lookup? (keyOf name) entries :=
  lookup?_insert_of_ne h

/-- At a path apart from an update the document reads as before. -/
theorem readsAs_updated (h : Apart path other) :
    ReadsAs (find document path) (find (updated document other value) path) := by
  induction path generalizing document other with
  | nil => exact absurd rfl h.ne_nil
  | cons name rest ih =>
    obtain ⟨step, steps, rfl⟩ := List.exists_cons_of_ne_nil h.symm.ne_nil
    obtain ⟨entries, rfl⟩ | hleaf := mapping_or_leaf document
    · rw [updated_mapping]
      rcases apart_cons_iff.1 h with hname | hrest
      · rw [find_mapping_congr (lookup?_insert_keyOf_of_ne hname)]
        exact .refl _
      by_cases hname : keyOf name = keyOf step
      · rw [← hname, find_mapping_of_some lookup?_insert_self]
        cases hlookup : lookup? (keyOf name) entries with
        | some next =>
          rw [find_mapping_of_some hlookup]
          exact (ih hrest).inside name
        | none =>
          -- The entry is new, and misses what it does not get from the update.
          obtain ⟨next, others, rfl⟩ := List.exists_cons_of_ne_nil hrest.ne_nil
          have hnew : ReadsAs (find (.mapping []) (next :: others))
              (find (updated (.mapping []) steps value) (next :: others)) := ih hrest
          rw [find_mapping_of_none hlookup]
          rw [find_mapping_of_none rfl] at hnew
          rcases hnew with hsame | ⟨_, further, _, hfurther, _⟩
          · rw [Option.getD_none, hsame]
            exact .inr ⟨[name], [name, next], rfl, rfl, List.prefix_append [name] [next]⟩
          · rw [Option.getD_none, hfurther]
            exact .inr ⟨[name], name :: further, rfl, rfl, List.prefix_append [name] further⟩
      · rw [find_mapping_congr (lookup?_insert_keyOf_of_ne hname)]
        exact .refl _
    · rw [updated_leaf hleaf (List.cons_ne_nil step steps)]
      exact .refl _

/-- An update does not get in the way along a path apart from its own, and takes nothing out of it. -/
theorem isBlocked_updated_iff (h : Apart path other) :
    IsBlocked (updated document other value) path ↔ IsBlocked document path := by
  induction path generalizing document other with
  | nil => exact absurd rfl h.ne_nil
  | cons name rest ih =>
    obtain ⟨step, steps, rfl⟩ := List.exists_cons_of_ne_nil h.symm.ne_nil
    obtain ⟨entries, rfl⟩ | hleaf := mapping_or_leaf document
    · rw [updated_mapping, isBlocked_mapping_iff, isBlocked_mapping_iff]
      by_cases hname : keyOf name = keyOf step
      · have hrest : Apart rest steps := (apart_cons_iff.1 h).resolve_left (not_not_intro hname)
        rw [← hname, lookup?_insert_self]
        simp only [Option.some.injEq, exists_eq_left', ih hrest]
        cases lookup? (keyOf name) entries with
        | none => simp [not_isBlocked_empty]
        | some next => simp
      · rw [lookup?_insert_keyOf_of_ne hname]
    · rw [updated_leaf hleaf (List.cons_ne_nil step steps)]

/-! ## Sequences of updates -/

/-- Whether the paths of updates are pairwise apart. -/
def AreApart (updates : List Update) : Prop :=
  updates.Pairwise fun first second => Apart first.1 second.1

instance (updates : List Update) : Decidable (AreApart updates) :=
  inferInstanceAs (Decidable (List.Pairwise _ updates))

/-- At a path apart from all updates the document reads as before. -/
theorem readsAs_run {updates : List Update} (h : ∀ update ∈ updates, Apart path update.1) :
    ReadsAs (find document path) (find (run updates document) path) := by
  induction updates generalizing document with
  | nil => exact .refl _
  | cons update updates ih =>
    rw [List.forall_mem_cons] at h
    exact (readsAs_updated h.1).trans (ih h.2)

/-- Updates at paths apart from another one do not get in its way, and take nothing out of it. -/
theorem isBlocked_run_iff {updates : List Update} (h : ∀ update ∈ updates, Apart path update.1) :
    IsBlocked (run updates document) path ↔ IsBlocked document path := by
  induction updates generalizing document with
  | nil => rfl
  | cons update updates ih =>
    rw [List.forall_mem_cons] at h
    exact (ih h.2).trans (isBlocked_updated_iff h.1)

/-- Of updates at paths apart each one is found that nothing was in the way of. -/
theorem find_run_of_mem {updates : List Update} (hapart : AreApart updates)
    (hmem : (path, value) ∈ updates) (hfree : ¬ IsBlocked document path) :
    find (run updates document) path = .ok value := by
  induction updates generalizing document with
  | nil => cases hmem
  | cons update updates ih =>
    obtain ⟨hfirst, hrest⟩ := List.pairwise_cons.1 hapart
    rcases List.mem_cons.1 hmem with rfl | hmem
    · obtain ⟨after, hafter⟩ := exists_update_iff.2 hfree
      have hfound : find (updated document path value) path = .ok value := by
        rw [updated_of_update hafter]
        exact find_of_update hafter
      exact (readsAs_run hfirst).ok_iff.2 hfound
    · apply ih hrest hmem
      rw [isBlocked_updated_iff (hfirst _ hmem).symm]
      exact hfree

end NatGateway.Configuration
