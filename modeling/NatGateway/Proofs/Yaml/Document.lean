import NatGateway.Proofs.Yaml.Value
import NatGateway.Yaml.Document

/-!
# Values that are read

The value of a document has no two entries with the same key in any of its mappings. A mapping is
read entry by entry, and given up as soon as a key comes again; an alias stands for a node that is
read in the same way.
-/

namespace NatGateway.Yaml

open NatGateway.Text (Bytes)

variable {α β : Type} {P : α → Prop} {Q : β → Prop} {entries known : List (Value × Value)}
  {value : Value} {plain : Bool} {text : String}

/-! ## Distinct keys -/

/-- Values whose mappings have distinct keys, in all values of their entries. -/
inductive HasDistinctKeys : Value → Prop
  | leaf {value : Value} (hmapping : ∀ entries, value ≠ .mapping entries) : HasDistinctKeys value
  | mapping {entries : List (Value × Value)} (distinct : Distinct entries)
      (values : ∀ entry ∈ entries, HasDistinctKeys entry.2) : HasDistinctKeys (.mapping entries)

/-- The keys of a mapping that has distinct keys are distinct. -/
theorem HasDistinctKeys.distinct (h : HasDistinctKeys (.mapping entries)) : Distinct entries := by
  cases h with
  | leaf hmapping => exact absurd rfl (hmapping entries)
  | mapping hdistinct _ => exact hdistinct

/-- The values in a mapping that has distinct keys have distinct keys. -/
theorem HasDistinctKeys.values (h : HasDistinctKeys (.mapping entries)) :
    ∀ entry ∈ entries, HasDistinctKeys entry.2 := by
  cases h with
  | leaf hmapping => exact absurd rfl (hmapping entries)
  | mapping _ hvalues => exact hvalues

/-- Entries that can be put into a mapping have distinct keys, and are what was put in. -/
theorem distinctEntries_eq_some (h : distinctEntries entries = some known) :
    Distinct known ∧ ∀ entry ∈ known, entry ∈ entries := by
  suffices hfold : ∀ before, Distinct before →
      entries.foldlM (fun known entry =>
        if (Value.lookup? entry.1 known).isSome then none else some (known ++ [entry])) before =
          some known →
        Distinct known ∧ ∀ entry ∈ known, entry ∈ before ++ entries from
    hfold [] List.Pairwise.nil h
  clear h
  induction entries with
  | nil =>
    rintro before hbefore h
    cases h
    exact ⟨hbefore, fun entry hentry => List.mem_append_left _ hentry⟩
  | cons entry rest ih =>
    intro before hbefore h
    rw [List.foldlM_cons] at h
    cases hlookup : Value.lookup? entry.1 before with
    | some other => simp [hlookup] at h
    | none =>
      have hadded : Distinct (before ++ [entry]) :=
        Value.distinct_append_iff.2 ⟨hbefore, List.pairwise_singleton _ _,
          List.forall_mem_singleton.2 hlookup⟩
      simp only [hlookup] at h
      have hrest := ih _ hadded h
      rwa [List.append_assoc] at hrest

/-! ## What readers give -/

/-- Whether every value that a reader gives has a property. -/
def Yields (reader : Composing α) (P : α → Prop) : Prop :=
  ∀ before value after, reader before = some (value, after) → P value

/-- A reader that does nothing gives its value. -/
theorem yields_pure {value : α} (h : P value) : Yields (pure value) P := by
  rintro before _ _ hread
  cases hread
  exact h

/-- A reader that fails gives nothing. -/
theorem yields_failure : Yields (failure : Composing α) P := nofun

/-- Two readers after one another give what the second one does with a value of the first. -/
theorem Yields.bind {reader : Composing α} {next : α → Composing β} (hreader : Yields reader P)
    (hnext : ∀ value, P value → Yields (next value) Q) : Yields (reader >>= next) Q := by
  intro before value after hread
  obtain ⟨⟨middle, state⟩, hfirst, hsecond⟩ := Option.bind_eq_some_iff.1 hread
  exact hnext middle (hreader before middle state hfirst) state value after hsecond

/-- What a reader gives in any case it gives after another one. -/
theorem yields_bind {reader : Composing α} {next : α → Composing β}
    (hnext : ∀ value, Yields (next value) Q) : Yields (reader >>= next) Q :=
  Yields.bind (P := fun _ => True) (fun _ _ _ _ => trivial) fun value _ => hnext value

/-- A value that is there or not is given if it is there. -/
theorem yields_lift {given : Option α} (h : ∀ value, given = some value → P value) :
    Yields (given : Composing α) P := by
  intro before value after hread
  obtain ⟨found, hfound, hpair⟩ := Option.bind_eq_some_iff.1 hread
  cases hpair
  exact h value hfound

/-- A list is read item by item. -/
theorem yields_mapM {items : List β} {reader : β → Composing α}
    (h : ∀ item ∈ items, Yields (reader item) P) :
    Yields (items.mapM reader) fun values => ∀ value ∈ values, P value := by
  induction items with
  | nil =>
    rw [List.mapM_nil]
    exact yields_pure nofun
  | cons item rest ih =>
    rw [List.forall_mem_cons] at h
    rw [List.mapM_cons]
    refine h.1.bind fun value hvalue => (ih h.2).bind fun values hvalues => ?_
    exact yields_pure (List.forall_mem_cons.2 ⟨hvalue, hvalues⟩)

/-! ## Nodes -/

/-- An integer is no mapping. -/
theorem integerText?_ne_mapping (entries : List (Value × Value)) :
    integerText? text ≠ some (some (.mapping entries)) := by
  intro h
  rw [integerText?] at h
  split at h
  · cases h
  · split at h <;> cases h

/-- A plain scalar is no mapping. -/
theorem resolve?_ne_mapping (h : resolve? text = some value) (entries : List (Value × Value)) :
    value ≠ .mapping entries := by
  rintro rfl
  rw [resolve?] at h
  split at h
  · cases h
  · split at h
    · cases h
    · next hinteger =>
      rw [h] at hinteger
      exact integerText?_ne_mapping entries hinteger
    · split at h
      · cases h
      · split at h <;> cases h

/-- A scalar is no mapping. -/
theorem scalarValue_ne_mapping (h : scalarValue plain text = some value)
    (entries : List (Value × Value)) : value ≠ .mapping entries := by
  rw [scalarValue] at h
  split at h
  · exact resolve?_ne_mapping h entries
  · cases h
    exact nofun

/-- A scalar under a tag is no mapping. -/
theorem scalarUnder?_ne_mapping {tag : Bytes} (h : scalarUnder? tag plain text = some value)
    (entries : List (Value × Value)) : value ≠ .mapping entries := by
  rintro rfl
  rw [scalarUnder?] at h
  split at h
  · obtain ⟨_, _, hvalue⟩ := Option.map_eq_some_iff.1 h
    cases hvalue
  · split at h
    · rw [Option.join_eq_some_iff] at h
      exact integerText?_ne_mapping entries h
    · split at h
      · obtain ⟨_, _, hvalue⟩ := Option.map_eq_some_iff.1 h
        cases hvalue
      · split at h
        · split at h <;> cases h
        · split at h
          · exact resolve?_ne_mapping h entries rfl
          · cases h

/-- A value with distinct keys has them under a tag too. -/
theorem HasDistinctKeys.withTag (h : HasDistinctKeys value) (name : Option String) :
    HasDistinctKeys (withTag name value) := by
  cases name with
  | none => exact h
  | some name => exact .leaf nofun

/-- The value of a scalar node has distinct keys. -/
theorem yields_scalarNode (underTag : Bool) (properties : Properties) :
    Yields (scalarNode underTag properties plain text) HasDistinctKeys := by
  rw [scalarNode]
  refine yields_bind fun _ => ?_
  have hgiven : ∀ {given : Option Value},
      (∀ value, given = some value → ∀ entries, value ≠ .mapping entries) →
        Yields (given >>= fun value => pure (withTag (ownName underTag properties) value) :
          Composing Value) HasDistinctKeys := fun hleaf =>
    (yields_lift hleaf).bind fun value hvalue => yields_pure ((HasDistinctKeys.leaf hvalue).withTag _)
  split
  · exact hgiven fun value hvalue => scalarValue_ne_mapping hvalue
  · split
    · exact hgiven fun value hvalue => scalarUnder?_ne_mapping hvalue
    · exact hgiven fun value hvalue => scalarValue_ne_mapping hvalue

/-- The value of a node has distinct keys. -/
theorem yields_value (aliases : Aliases) (depth : Nat) (underTag : Bool) (node : Node) :
    Yields (aliases.value depth underTag node) HasDistinctKeys := by
  induction depth generalizing underTag node with
  | zero =>
    rw [Aliases.value]
    refine yields_bind fun target => ?_
    cases target with
    | scalar properties plain text => exact yields_scalarNode _ properties
    | _ => exact yields_failure
  | succ depth ih =>
    rw [Aliases.value]
    refine yields_bind fun target => ?_
    cases target with
    | scalar properties plain text => exact yields_scalarNode _ properties
    | sequence properties items =>
      refine yields_bind fun _ => yields_bind fun values => ?_
      have hvalue : HasDistinctKeys (.sequence values) := .leaf nofun
      exact yields_pure (hvalue.withTag _)
    | mapping properties entries =>
      refine yields_bind fun _ => ?_
      have hentries : ∀ entry ∈ entries, Yields (do
          let key ← aliases.value depth
            ((underTag && !node.isAlias) || (ownName (underTag && !node.isAlias) properties).isSome)
            entry.1
          return (key, ← aliases.value depth false entry.2)) fun read => HasDistinctKeys read.2 := by
        intro entry _
        refine yields_bind fun key => (ih false entry.2).bind fun value hvalue => ?_
        exact yields_pure hvalue
      refine (yields_mapM hentries).bind fun values hvalues => ?_
      refine (yields_lift fun known hknown => distinctEntries_eq_some hknown).bind fun known hknown => ?_
      have hvalue : HasDistinctKeys (.mapping known) :=
        .mapping hknown.1 fun entry hentry => hvalues entry (hknown.2 entry hentry)
      exact yields_pure (hvalue.withTag _)
    | _ => exact yields_failure

/-- The value of a document has distinct keys. -/
theorem hasDistinctKeys_of_value? {bytes : Bytes} (h : value? bytes = some value) :
    HasDistinctKeys value := by
  obtain ⟨cs, _, hnode⟩ := Option.bind_eq_some_iff.1 h
  obtain ⟨node, _, hvalue⟩ := Option.bind_eq_some_iff.1 hnode
  cases node with
  | none =>
    cases hvalue
    exact .leaf nofun
  | some node =>
    obtain ⟨⟨read, after⟩, hread, rfl⟩ := Option.map_eq_some_iff.1 hvalue
    exact yields_value _ greatestDepth false node 0 read after hread

end NatGateway.Yaml
