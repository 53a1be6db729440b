import NatGateway.Proofs.Configuration.Document

/-!
# Documents laid over others

Laying a document over one whose keys are names gives the entries of the lower one, each with what
the upper one has for it, and behind them the entries that only the upper one has. What comes out
extends the lower document: its mappings start with the keys of the lower one. A normal document
that extends another is not changed by being laid over it.
-/

namespace NatGateway.Configuration

open NatGateway.Yaml (Value Distinct)
open NatGateway.Yaml.Value

variable {entries lower upper rest : List (Value × Value)} {document other key value known : Value}
  {name : String}

/-! ## Documents of names -/

/-- Whether the keys of entries are names. -/
def AreNames (entries : List (Value × Value)) : Prop :=
  ∀ key ∈ entries.map Prod.fst, ∃ name, key = .string name

/-- Documents all of whose keys are names. -/
inductive IsNamed : Value → Prop
  | leaf {value : Value} (hmapping : ∀ entries, value ≠ .mapping entries) : IsNamed value
  | mapping {entries : List (Value × Value)} (keys : AreNames entries)
      (values : ∀ entry ∈ entries, IsNamed entry.2) : IsNamed (.mapping entries)

/-- The entries of a mapping; none of anything else. -/
def entriesOf : Value → List (Value × Value)
  | .mapping entries => entries
  | _ => []

/-- What is no mapping has no entries. -/
theorem entriesOf_eq_nil (h : ∀ entries, document ≠ .mapping entries) : entriesOf document = [] := by
  cases document with
  | mapping entries => exact absurd rfl (h entries)
  | _ => rfl

/-- The keys of a document of names are names. -/
theorem IsNamed.keys (h : IsNamed document) : AreNames (entriesOf document) := by
  cases h with
  | leaf hmapping =>
    rw [entriesOf_eq_nil hmapping]
    exact nofun
  | mapping hkeys _ => exact hkeys

/-- The values in a document of names are documents of names. -/
theorem IsNamed.values (h : IsNamed document) : ∀ entry ∈ entriesOf document, IsNamed entry.2 := by
  cases h with
  | leaf hmapping =>
    rw [entriesOf_eq_nil hmapping]
    exact nofun
  | mapping _ hvalues => exact hvalues

/-- The keys of a normal document are distinct. -/
theorem IsNormal.distinct_entriesOf (h : IsNormal document) : Distinct (entriesOf document) := by
  cases document with
  | mapping entries => exact h.distinct
  | _ => exact List.Pairwise.nil

/-- The values of a normal document are normal. -/
theorem IsNormal.values_entriesOf (h : IsNormal document) :
    ∀ entry ∈ entriesOf document, IsNormal entry.2 := by
  cases document with
  | mapping entries => exact h.values
  | _ => exact nofun

/-- The keys of a normal document of names are keys of names. -/
theorem IsNormal.exists_keyOf (h : IsNormal document) (hnamed : IsNamed document)
    {entry : Value × Value} (hentry : entry ∈ entriesOf document) : ∃ name, entry.1 = keyOf name := by
  obtain ⟨name, hname⟩ := hnamed.keys entry.1 (List.mem_map_of_mem hentry)
  cases document with
  | mapping entries =>
    have hkey := h.keys entry hentry
    rw [hname] at hkey
    exact ⟨name, hname.trans hkey.symm⟩
  | _ => cases hentry

/-- Only names are found among entries whose keys are names. -/
theorem AreNames.exists_name (h : AreNames lower) (hlookup : lookup? key lower = some value) :
    ∃ name, key = .string name := by
  obtain ⟨k, hmem, hk⟩ := exists_mem_of_lookup? hlookup
  obtain ⟨name, rfl⟩ := h k (List.mem_map_of_mem hmem)
  exact ⟨name, string_same_iff.1 hk⟩

/-! ## Entries laid over others -/

/-- Entries with what others have for them laid over their values. -/
def overlaid (lower upper : List (Value × Value)) : List (Value × Value) :=
  lower.map fun entry => (entry.1, (lookup? entry.1 upper).elim entry.2 (merge entry.2))

/-- The entries whose keys others do not have. -/
def extra (lower upper : List (Value × Value)) : List (Value × Value) :=
  upper.filter fun entry => (lookup? entry.1 lower).isNone

/-- An upper entry is laid over the lower one with its name. -/
theorem overlaid_cons_of_known (hlower : Distinct lower)
    (h : lookup? (.string name) lower = some known) (hrest : lookup? (.string name) rest = none) :
    overlaid lower ((.string name, value) :: rest) =
      overlaid (insert (.string name) (merge known value) lower) rest := by
  refine (map_insert hlower h ?_ fun entry _ hne => ?_).symm
  · rw [hrest, lookup?, if_pos (same_refl _)]
    rfl
  · rw [lookup?, if_neg (mt string_same_iff.1 hne)]

/-- An upper entry whose key no lower one has is laid over none. -/
theorem overlaid_cons_of_new (hnames : AreNames lower) (h : lookup? key lower = none) :
    overlaid lower ((key, value) :: rest) = overlaid lower rest := by
  refine List.map_congr_left fun entry hentry => ?_
  obtain ⟨name, hname⟩ := hnames entry.1 (List.mem_map_of_mem hentry)
  have hne : ¬ key.same entry.1 = true := by
    rw [hname, same_string_iff, ← string_same_iff, ← hname, lookup?_eq_none_iff.1 h entry hentry]
    exact Bool.false_ne_true
  rw [lookup?, if_neg hne]

/-- An entry is not extra if the others have its key. -/
theorem extra_cons_of_known (h : (lookup? key lower).isSome = true) :
    extra lower ((key, value) :: rest) = extra lower rest := by
  refine List.filter_cons_of_neg ?_
  rw [← Option.not_isSome, h]
  exact Bool.false_ne_true

/-- An entry is extra if the others do not have its key. -/
theorem extra_cons_of_new (h : lookup? key lower = none) :
    extra lower ((key, value) :: rest) = (key, value) :: extra lower rest := by
  refine List.filter_cons_of_pos ?_
  rw [h]
  rfl

/-- Which entries are extra does not depend on the values of the others. -/
theorem extra_insert (h : (lookup? (.string name) lower).isSome = true) :
    extra (insert (.string name) value lower) upper = extra lower upper := by
  refine List.filter_congr fun entry _ => ?_
  by_cases hkey : entry.1 = .string name
  · rw [hkey, lookup?_insert_self, Option.isNone_some, ← Option.not_isSome, h]
    rfl
  · rw [lookup?_insert_of_ne hkey]

/-- Entries that are laid one after another over entries whose keys are names, behind which those
stand that have been added before: each of them is laid over the one with its name, or added. -/
theorem mergeEntries_append (added : List (Value × Value)) (hnames : AreNames lower)
    (hlower : Distinct lower) (hupper : Distinct (added ++ upper))
    (hadded : ∀ entry ∈ added, lookup? entry.1 lower = none) :
    mergeEntries (lower ++ added) upper =
      overlaid lower upper ++ (added ++ extra lower upper) := by
  induction upper generalizing lower added with
  | nil => simp [mergeEntries, overlaid, extra, lookup?]
  | cons entry rest ih =>
    obtain ⟨k, u⟩ := entry
    obtain ⟨haddedDistinct, hupperDistinct, hbetween⟩ := distinct_append_iff.1 hupper
    obtain ⟨hlater, hrest⟩ := List.pairwise_cons.1 hupperDistinct
    rw [mergeEntries]
    cases hlookup : lookup? k lower with
    | some d =>
      obtain ⟨name, rfl⟩ := hnames.exists_name hlookup
      have hsome : (lookup? (.string name) lower).isSome = true := by rw [hlookup]; rfl
      have hfresh : lookup? (.string name) rest = none := by
        rw [lookup?_eq_none_iff]
        intro later hmem
        rw [Bool.eq_false_iff, Ne, same_string_iff, ← string_same_iff,
          hlater later.1 (List.mem_map_of_mem hmem)]
        exact Bool.false_ne_true
      rw [lookup?_append, hlookup, Option.some_or, insert_append hsome,
        overlaid_cons_of_known hlower hlookup hfresh, extra_cons_of_known hsome, ← extra_insert hsome]
      refine ih _ ?_ (distinct_insert hlower) ?_ ?_
      · rw [AreNames, keys_insert_of_isSome hsome]
        exact hnames
      · exact distinct_append_iff.2 ⟨haddedDistinct, hrest, fun later hmem =>
          hbetween later (List.mem_cons_of_mem _ hmem)⟩
      · intro entry hentry
        rw [lookup?_insert_of_ne, hadded entry hentry]
        intro heq
        rw [← heq, hadded entry hentry] at hlookup
        cases hlookup
    | none =>
      have hfresh : lookup? k added = none := hbetween (k, u) List.mem_cons_self
      have hnew : lookup? k (lower ++ added) = none := by rw [lookup?_append, hlookup, hfresh]; rfl
      rw [hnew, insert_of_lookup?_eq_none hnew, List.append_assoc,
        overlaid_cons_of_new hnames hlookup, extra_cons_of_new hlookup, ih _ hnames hlower]
      · simp
      · rw [List.append_assoc]
        exact hupper
      · intro entry hentry
        rcases List.mem_append.1 hentry with hold | hnew
        · exact hadded entry hold
        · rw [List.mem_singleton.1 hnew, hlookup]

/-- Behind no entries all are extra. -/
theorem extra_nil : extra [] upper = upper := List.filter_eq_self.2 fun _ _ => rfl

/-- A mapping laid over a document of names. -/
theorem merge_mapping (hnames : AreNames (entriesOf document))
    (hlower : Distinct (entriesOf document)) (hupper : Distinct upper) :
    merge document (.mapping upper) =
      .mapping (overlaid (entriesOf document) upper ++ extra (entriesOf document) upper) := by
  have hentries : mergeEntries (entriesOf document) upper =
      overlaid (entriesOf document) upper ++ extra (entriesOf document) upper := by
    have h := mergeEntries_append [] hnames hlower hupper nofun
    rwa [List.append_nil, List.nil_append] at h
  cases document with
  | mapping entries => rw [merge, ← hentries, entriesOf]
  | _ => exact congrArg Value.mapping extra_nil.symm

/-- What is no mapping takes the place of what it is laid over. -/
theorem merge_leaf (h : ∀ entries, value ≠ .mapping entries) : merge document value = value := by
  cases value with
  | mapping entries => exact absurd rfl (h entries)
  | _ => rfl

/-- What is laid over null takes its place. -/
@[simp] theorem merge_null : merge .null value = value := by
  cases value <;> rfl

/-- A name is found among extra entries if no other entry has it. -/
theorem lookup?_extra (h : lookup? (.string name) lower = none) :
    lookup? (.string name) (extra lower upper) = lookup? (.string name) upper := by
  induction upper with
  | nil => rfl
  | cons entry rest ih =>
    obtain ⟨k, v⟩ := entry
    by_cases hk : k = .string name
    · rw [extra_cons_of_new (by rw [hk, h]), hk, lookup?, lookup?, if_pos (same_refl _),
        if_pos (same_refl _)]
    · have hother : ¬ k.same (.string name) = true := mt same_string_iff.1 hk
      rw [lookup?, if_neg hother, ← ih]
      cases hknown : lookup? k lower with
      | none => rw [extra_cons_of_new hknown, lookup?, if_neg hother]
      | some known => rw [extra_cons_of_known (by rw [hknown]; rfl)]

/-- What a name stands for in entries laid over others that have it too. -/
theorem lookup?_laid_of_some (h : lookup? (.string name) upper = some value) :
    lookup? (.string name) (overlaid lower upper ++ extra lower upper) =
      some (merge ((lookup? (.string name) lower).getD .null) value) := by
  rw [lookup?_append, overlaid, lookup?_map fun key value =>
    (lookup? key upper).elim value (merge value)]
  cases hlower : lookup? (.string name) lower with
  | none =>
    rw [Option.map_none, Option.none_or, lookup?_extra hlower, h, Option.getD_none, merge_null]
  | some known => rw [Option.map_some, Option.some_or, h, Option.elim_some, Option.getD_some]

/-- What a name stands for in entries laid over others, if they do not have it themselves. -/
theorem lookup?_laid_of_none (h : lookup? (.string name) upper = none) :
    lookup? (.string name) (overlaid lower upper ++ extra lower upper) =
      lookup? (.string name) lower := by
  rw [lookup?_append, overlaid, lookup?_map fun key value =>
    (lookup? key upper).elim value (merge value)]
  cases hlower : lookup? (.string name) lower with
  | none => rw [Option.map_none, Option.none_or, lookup?_extra hlower, h]
  | some known => rw [Option.map_some, Option.some_or, h, Option.elim_none]

/-! ## Documents that extend others -/

/-- What a mapping has under a key, and null if there is nothing. -/
def under (document key : Value) : Value := (lookup? key (entriesOf document)).getD .null

/-- What a normal document has under a key is normal. -/
theorem IsNormal.under (h : IsNormal document) (key : Value) : IsNormal (under document key) := by
  rw [Configuration.under]
  cases hlookup : lookup? key (entriesOf document) with
  | none => exact .leaf nofun nofun
  | some value =>
    obtain ⟨k, hmem, _⟩ := exists_mem_of_lookup? hlookup
    exact h.values_entriesOf _ hmem

/-- What a document of names has under a key is a document of names. -/
theorem IsNamed.under (h : IsNamed document) (key : Value) : IsNamed (under document key) := by
  rw [Configuration.under]
  cases hlookup : lookup? key (entriesOf document) with
  | none => exact .leaf nofun
  | some value =>
    obtain ⟨k, hmem, _⟩ := exists_mem_of_lookup? hlookup
    exact h.values _ hmem

/-- Documents whose mappings start with the keys of the mappings of another, at every depth. -/
inductive Extends : Value → Value → Prop
  | leaf {document value : Value} (hmapping : ∀ entries, value ≠ .mapping entries) :
      Extends document value
  | mapping {document : Value} {entries : List (Value × Value)}
      (keys : (entriesOf document).map Prod.fst <+: entries.map Prod.fst)
      (values : ∀ entry ∈ entries, Extends (under document entry.1) entry.2) :
      Extends document (.mapping entries)

/-- Every document extends null. -/
theorem extends_null (value : Value) : Extends .null value := by
  induction value using Value.induct with
  | leaf value _ hmapping _ => exact .leaf hmapping
  | sequence items _ => exact .leaf nofun
  | mapping entries ih => exact .mapping List.nil_prefix fun entry hentry => (ih entry hentry).2
  | tagged tag inner _ => exact .leaf nofun

/-- A normal document extends itself. -/
theorem extends_refl (h : IsNormal value) : Extends value value := by
  induction value using Value.induct with
  | leaf value _ hmapping _ => exact .leaf hmapping
  | sequence items _ => exact .leaf nofun
  | mapping entries ih =>
    refine .mapping (List.prefix_refl _) fun entry hentry => ?_
    rw [under, entriesOf, lookup?_of_mem h.distinct hentry]
    exact (ih entry hentry).2 (h.values entry hentry)
  | tagged tag inner _ => exact .leaf nofun

/-- A normal document laid over a document of names extends it. -/
theorem extends_merge (hnamed : IsNamed document) (hdocument : IsNormal document)
    (hvalue : IsNormal value) : Extends document (merge document value) := by
  induction value using Value.induct generalizing document with
  | leaf value _ hmapping _ =>
    rw [merge_leaf hmapping]
    exact .leaf hmapping
  | sequence items _ => exact .leaf nofun
  | mapping upper ih =>
    rw [merge_mapping hnamed.keys hdocument.distinct_entriesOf hvalue.distinct]
    refine .mapping ?_ fun entry hentry => ?_
    · rw [List.map_append, overlaid, List.map_map]
      exact List.prefix_append _ _
    · rcases List.mem_append.1 hentry with hover | hextra
      · obtain ⟨known, hknown, rfl⟩ := List.mem_map.1 hover
        have hnormal := hdocument.values_entriesOf known hknown
        rw [under, lookup?_of_mem hdocument.distinct_entriesOf hknown, Option.getD_some]
        cases hlookup : lookup? known.1 upper with
        | none => exact extends_refl hnormal
        | some value =>
          obtain ⟨name, hname⟩ := hnamed.keys known.1 (List.mem_map_of_mem hknown)
          rw [hname] at hlookup
          have hmem := mem_of_lookup?_string hlookup
          exact (ih _ hmem).2 (hnamed.values known hknown) hnormal (hvalue.values _ hmem)
      · rw [under, Option.isNone_iff_eq_none.1 (List.mem_filter.1 hextra).2]
        exact extends_null entry.2
  | tagged tag inner _ => exact .leaf nofun

/-- Changes of entries with the same keys come to the same if they do for every two entries with the
same key. -/
theorem map_eq_map_of_keys {α : Type} {change change' : Value × Value → α}
    (hkeys : lower.map Prod.fst = upper.map Prod.fst)
    (h : ∀ a ∈ lower, ∀ b ∈ upper, a.1 = b.1 → change a = change' b) :
    lower.map change = upper.map change' := by
  induction lower generalizing upper with
  | nil =>
    cases upper with
    | nil => rfl
    | cons b rest => cases hkeys
  | cons a rest ih =>
    cases upper with
    | nil => cases hkeys
    | cons b others =>
      rw [List.map_cons, List.map_cons, List.cons.injEq] at hkeys
      rw [List.map_cons, List.map_cons, h a List.mem_cons_self b List.mem_cons_self hkeys.1,
        ih hkeys.2 fun a ha b hb => h a (List.mem_cons_of_mem _ ha) b (List.mem_cons_of_mem _ hb)]

/-- Entries laid over entries with whose keys they start keep their keys and their order. -/
theorem laid_of_keys_prefix (hupper : Distinct upper)
    (hkeys : lower.map Prod.fst <+: upper.map Prod.fst) :
    overlaid lower upper ++ extra lower upper =
      upper.map fun entry => (entry.1, merge ((lookup? entry.1 lower).getD .null) entry.2) := by
  obtain ⟨others, hothers⟩ := hkeys
  obtain ⟨front, back, rfl, hfront, rfl⟩ := List.map_eq_append_iff.1 hothers.symm
  have hlower : Distinct lower := by
    rw [Distinct, ← hothers, List.pairwise_append] at hupper
    exact hupper.1
  have hback : ∀ entry ∈ back, lookup? entry.1 lower = none := by
    rw [Distinct, ← hothers, List.pairwise_append] at hupper
    exact fun entry hentry => lookup?_eq_none_iff.2 fun known hknown =>
      hupper.2.2 known.1 (List.mem_map_of_mem hknown) entry.1 (List.mem_map_of_mem hentry)
  rw [List.map_append]
  congr 1
  · refine map_eq_map_of_keys hfront.symm fun known hknown entry hentry heq => ?_
    rw [heq, lookup?_of_mem hupper (List.mem_append_left _ hentry), ← heq,
      lookup?_of_mem hlower hknown]
    rfl
  · have hdropped : extra lower front = [] := by
      refine List.filter_eq_nil_iff.2 fun entry hentry => ?_
      have hmem : entry.1 ∈ lower.map Prod.fst := hfront ▸ List.mem_map_of_mem hentry
      obtain ⟨known, hknown, heq⟩ := List.mem_map.1 hmem
      rw [← heq, lookup?_of_mem hlower hknown]
      exact Bool.false_ne_true
    have hkept : extra lower back = back.map id := by
      rw [List.map_id]
      exact List.filter_eq_self.2 fun entry hentry => by rw [hback entry hentry]; rfl
    rw [extra, List.filter_append, ← extra, ← extra, hdropped, hkept, List.nil_append]
    refine List.map_congr_left fun entry hentry => ?_
    rw [hback entry hentry, Option.getD_none, merge_null, id]

/-- Entries with distinct keys in lower case, which start with the keys of a document, are lowered
and laid over it value by value. -/
theorem merge_lowerKeys_mapping (hnamed : IsNamed document) (hdocument : IsNormal document)
    (hlowered : ∀ entry ∈ entries, lowerKey entry.1 = entry.1) (hdistinct : Distinct entries)
    (hkeys : (entriesOf document).map Prod.fst <+: entries.map Prod.fst) :
    merge document (lowerKeys (.mapping entries)) =
      .mapping (entries.map fun entry =>
        (entry.1, merge (under document entry.1) (lowerKeys entry.2))) := by
  have hsame : (entries.map fun entry => (entry.1, lowerKeys entry.2)).map Prod.fst =
      entries.map Prod.fst := List.map_map
  have hdistinct' : Distinct (entries.map fun entry => (entry.1, lowerKeys entry.2)) := by
    rw [Distinct, hsame]
    exact hdistinct
  rw [lowerKeys, lowerEntries_of_distinct [] hlowered hdistinct, List.nil_append,
    merge_mapping hnamed.keys hdocument.distinct_entriesOf hdistinct',
    laid_of_keys_prefix hdistinct' (hsame ▸ hkeys), List.map_map]
  rfl

/-- A normal document that extends another is not changed by being laid over it. -/
theorem merge_of_extends (hnamed : IsNamed document) (hdocument : IsNormal document)
    (hvalue : IsNormal value) (h : Extends document value) : merge document value = value := by
  induction h with
  | leaf hmapping => exact merge_leaf hmapping
  | @mapping document entries hkeys _ ih =>
    have hsame : entries.map (fun entry => (entry.1, merge (under document entry.1) entry.2)) =
        entries.map id := List.map_congr_left fun entry hentry => by
      rw [ih entry hentry (hnamed.under entry.1) (hdocument.under entry.1)
        (hvalue.values entry hentry), id]
    rw [merge_mapping hnamed.keys hdocument.distinct_entriesOf hvalue.distinct,
      laid_of_keys_prefix hvalue.distinct hkeys]
    exact (congrArg Value.mapping hsame).trans (congrArg Value.mapping (List.map_id entries))

/-! ## What layers have in common -/

/-- Entries laid over distinct ones give distinct ones. -/
theorem distinct_mergeEntries (h : Distinct lower) : Distinct (mergeEntries lower upper) := by
  induction upper generalizing lower with
  | nil => exact h
  | cons entry rest ih => exact ih (distinct_insert h)

/-- What holds of the keys and values of entries and of those laid over them holds of what comes
out, if laying the values over others keeps it. -/
theorem forall_mergeEntries {P Q : Value → Prop} (hlower : ∀ entry ∈ lower, P entry.1 ∧ Q entry.2)
    (hupper : ∀ entry ∈ upper, P entry.1 ∧ Q entry.2)
    (hmerge : ∀ entry ∈ upper, ∀ known, Q known → Q (merge known entry.2)) :
    ∀ entry ∈ mergeEntries lower upper, P entry.1 ∧ Q entry.2 := by
  induction upper generalizing lower with
  | nil => exact hlower
  | cons entry rest ih =>
    obtain ⟨key, value⟩ := entry
    rw [List.forall_mem_cons] at hupper hmerge
    refine ih (fun entry hentry => ?_) hupper.2 hmerge.2
    rcases mem_insert hentry with hold | ⟨hvalue, hkey⟩
    · exact hlower entry hold
    refine ⟨?_, ?_⟩
    · rcases hkey with heq | hmem
      · rw [heq]
        exact hupper.1.1
      · obtain ⟨old, hold, heq⟩ := List.mem_map.1 hmem
        rw [← heq]
        exact (hlower old hold).1
    · rw [hvalue]
      split
      · next known hknown =>
        obtain ⟨k, hmem, _⟩ := exists_mem_of_lookup? hknown
        exact hmerge.1 known (hlower _ hmem).2
      · exact hupper.1.2

/-- Laying a normal document over another one gives a normal one. -/
theorem IsNormal.merge (hdocument : IsNormal document) (hvalue : IsNormal value) :
    IsNormal (merge document value) := by
  induction value using Value.induct generalizing document with
  | leaf value _ hmapping _ =>
    rw [merge_leaf hmapping]
    exact hvalue
  | sequence items _ => exact hvalue
  | mapping upper ih =>
    cases document with
    | mapping lower =>
      have hall := forall_mergeEntries (P := fun key => lowerKey key = key)
        (fun entry hentry => ⟨hdocument.keys entry hentry, hdocument.values entry hentry⟩)
        (fun entry hentry => ⟨hvalue.keys entry hentry, hvalue.values entry hentry⟩)
        fun entry hentry known hknown => (ih entry hentry).2 hknown (hvalue.values entry hentry)
      exact .mapping (fun entry hentry => (hall entry hentry).1)
        (distinct_mergeEntries hdocument.distinct) fun entry hentry => (hall entry hentry).2
    | _ => exact hvalue
  | tagged tag inner _ => exact hvalue

end NatGateway.Configuration
