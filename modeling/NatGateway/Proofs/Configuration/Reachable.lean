import NatGateway.Proofs.Configuration.Persistence
import NatGateway.Proofs.Configuration.Variables
import NatGateway.Proofs.Yaml.Document

/-!
# What can be reached

Names are lowered when a path is followed, so an entry behind a chain of keys is found only if the
keys are in lower case. The keys of the merged document are, and so are those that an update makes
on its way; the keys inside of a value that is put somewhere stay as they are. A document keeps its
keys in lower case as long as all values do that are put into it, by variables or by changes.
-/

namespace NatGateway.Configuration

open NatGateway.Text (utf8Bytes)
open NatGateway.Yaml (Value Distinct HasDistinctKeys)
open NatGateway.Yaml.Value

variable {entries : List (Value × Value)} {document after value inner middle : Value}
  {key given : String} {keys path front back : List String} {updates : List Update}

/-! ## Stored entries -/

/-- What mappings in each other store behind keys that are texts, which count as they are written. -/
inductive Stores : Value → List String → Value → Prop
  | here (value : Value) : Stores value [] value
  | inside {entries : List (Value × Value)} {key : String} {inner value : Value}
      {keys : List String} (mem : (.string key, inner) ∈ entries) (stored : Stores inner keys value) :
      Stores (.mapping entries) (key :: keys) value

/-- Whether all keys are in lower case behind which a document stores something. -/
def IsLowered (document : Value) : Prop :=
  ∀ keys value, Stores document keys value → lowered keys = keys

/-- What is stored in a mapping is stored in one of its entries. -/
theorem stores_mapping_iff : Stores (.mapping entries) (key :: keys) value ↔
    ∃ inner, (.string key, inner) ∈ entries ∧ Stores inner keys value := by
  constructor
  · rintro (_ | ⟨hmem, hstored⟩)
    exact ⟨_, hmem, hstored⟩
  · rintro ⟨inner, hmem, hstored⟩
    exact .inside hmem hstored

/-- What is stored further down is stored behind both chains of keys. -/
theorem Stores.append (h : Stores document front middle) (hback : Stores middle back value) :
    Stores document (front ++ back) value := by
  induction h with
  | here _ => exact hback
  | inside hmem _ ih => exact .inside hmem (ih hback)

/-- What is found at a path is stored behind its names in lower case. -/
theorem stores_of_find (h : find document path = .ok value) : Stores document (lowered path) value := by
  induction path generalizing document with
  | nil =>
    rw [find_nil, Except.ok.injEq] at h
    rw [h]
    exact .here value
  | cons name rest ih =>
    obtain ⟨next, hnext, hvalue⟩ := find_cons_eq_ok_iff.1 h
    cases document with
    | mapping entries => exact .inside (mem_of_lookup?_string hnext) (ih hvalue)
    | _ => cases hnext

/-- Among distinct keys a value is found at a path if it is stored behind its names in lower case. -/
theorem find_eq_ok_iff_stores (h : HasDistinctKeys document) :
    find document path = .ok value ↔ Stores document (lowered path) value := by
  refine ⟨stores_of_find, fun hstored => ?_⟩
  induction path generalizing document with
  | nil =>
    cases hstored
    exact find_nil
  | cons name rest ih =>
    cases document with
    | mapping entries =>
      obtain ⟨inner, hmem, hinner⟩ := stores_mapping_iff.1 hstored
      exact find_cons_eq_ok_iff.2
        ⟨inner, lookup?_of_mem h.distinct hmem, ih (h.values _ hmem) hinner⟩
    | _ => cases hstored

/-! ## Keys in lower case -/

/-- What is no mapping stores nothing behind keys. -/
theorem isLowered_leaf (h : ∀ entries, document ≠ .mapping entries) : IsLowered document := by
  rintro _ _ (_ | @⟨entries, _, _, _, _, _, _⟩)
  · rfl
  · exact absurd rfl (h entries)

/-- A mapping has its keys in lower case if those that are texts are, and the keys in their values.
-/
theorem isLowered_mapping_iff : IsLowered (.mapping entries) ↔
    ∀ key inner, (.string key, inner) ∈ entries → Text.lower key = key ∧ IsLowered inner := by
  constructor
  · intro h key inner hmem
    refine ⟨(List.cons.inj (h [key] inner (.inside hmem (.here inner)))).1, fun keys value hstored => ?_⟩
    exact (List.cons.inj (h (key :: keys) value (.inside hmem hstored))).2
  · rintro h _ _ (_ | @⟨_, key, inner, _, keys, hmem, hstored⟩)
    · rfl
    · obtain ⟨hkey, hinner⟩ := h key inner hmem
      rw [lowered, List.map_cons, hkey, ← lowered, hinner keys _ hstored]

/-- A normal document has its keys in lower case. -/
theorem IsNormal.isLowered (h : IsNormal document) : IsLowered document := by
  induction h with
  | leaf _ hmapping => exact isLowered_leaf hmapping
  | sequence _ _ => exact isLowered_leaf nofun
  | mapping hkeys _ _ ih =>
    refine isLowered_mapping_iff.2 fun key inner hmem => ⟨?_, ih _ hmem⟩
    exact Value.string.inj (hkeys _ hmem)

/-- A normal document has distinct keys. -/
theorem IsNormal.hasDistinctKeys (h : IsNormal document) : HasDistinctKeys document := by
  induction h with
  | leaf _ hmapping => exact .leaf hmapping
  | sequence _ _ => exact .leaf nofun
  | mapping _ hdistinct _ ih => exact .mapping hdistinct ih

/-! ## Updates -/

/-- An update with distinct keys keeps the keys of a document distinct. -/
theorem hasDistinctKeys_updated (h : HasDistinctKeys document) (hvalue : HasDistinctKeys value) :
    HasDistinctKeys (updated document path value) := by
  refine updated_induct (.mapping List.Pairwise.nil nofun) ?_ ?_ h hvalue
  · exact fun hentries hlookup => hentries.values _ (mem_of_lookup?_string hlookup)
  · intro entries name inner hentries hinner
    refine .mapping (distinct_insert hentries.distinct) fun entry hentry => ?_
    rcases mem_insert hentry with hold | ⟨hnew, _⟩
    · exact hentries.values entry hold
    · exact hnew ▸ hinner

/-- An update with keys in lower case keeps the keys of a document in lower case. -/
theorem IsLowered.updated (h : IsLowered document) (hvalue : IsLowered value) :
    IsLowered (updated document path value) := by
  refine updated_induct (isLowered_mapping_iff.2 nofun) ?_ ?_ h hvalue
  · exact fun hentries hlookup =>
      (isLowered_mapping_iff.1 hentries _ _ (mem_of_lookup?_string hlookup)).2
  · intro entries name inner hentries hinner
    rw [isLowered_mapping_iff] at hentries ⊢
    intro key other hmem
    rcases mem_insert hmem with hold | ⟨rfl, hkey | hkey⟩
    · exact hentries key other hold
    · exact ⟨(Value.string.inj hkey) ▸ Text.lower_lower name, hinner⟩
    · obtain ⟨⟨_, known⟩, hknown, rfl⟩ := List.mem_map.1 hkey
      exact ⟨(hentries key known hknown).1, hinner⟩

/-- An update keeps the keys of a document in lower case only if those of the value are. -/
theorem isLowered_of_update_iff (h : IsLowered document)
    (hupdate : update document path value = .ok after) : IsLowered after ↔ IsLowered value := by
  constructor
  · intro hafter keys inner hstored
    have hinner := hafter _ _ ((stores_of_find (find_of_update hupdate)).append hstored)
    rw [lowered, List.map_append, ← lowered, ← lowered] at hinner
    exact List.append_inj_right hinner (by simp [lowered])
  · intro hvalue
    rw [← updated_of_update hupdate]
    exact h.updated hvalue

/-- Updates with distinct keys keep the keys of a document distinct. -/
theorem hasDistinctKeys_run (h : HasDistinctKeys document)
    (hvalues : ∀ update ∈ updates, HasDistinctKeys update.2) : HasDistinctKeys (run updates document) :=
  run_induct (fun _ hdocument update hupdate =>
    hasDistinctKeys_updated hdocument (hvalues update hupdate)) h

/-- Updates with keys in lower case keep the keys of a document in lower case. -/
theorem IsLowered.run (h : IsLowered document) (hvalues : ∀ update ∈ updates, IsLowered update.2) :
    IsLowered (run updates document) :=
  run_induct (fun _ hdocument update hupdate => hdocument.updated (hvalues update hupdate)) h

/-! ## Loaded and changed configurations -/

variable {format : Format} {system opened : System} {configuration : Configuration}
  {environment : List (String × String)} {store : Store}

/-- After values have been put at paths the document is the one before with the updates run on it. -/
theorem document_of_putAll {store final : Store}
    (h : (putAll format updates).runFrom store = (.ok (), final)) :
    final.configuration.document = run updates store.configuration.document := by
  induction updates generalizing store with
  | nil =>
    cases h
    rfl
  | cons update rest ih =>
    obtain ⟨next, hput, hrest⟩ := forM_cons_eq_ok_iff.1 h
    obtain ⟨document, hupdate, hconfiguration, _⟩ := put_eq_ok_iff.1 hput
    rw [ih hrest, hconfiguration, run, run, List.foldl_cons, updated_of_update hupdate]

/-- The values that variables give have distinct keys. -/
theorem hasDistinctKeys_of_mem_updatesOf {update : Update}
    (h : update ∈ updatesOf yaml environment) : HasDistinctKeys update.2 := by
  obtain ⟨entry, _, hentry⟩ := List.mem_filterMap.1 h
  obtain ⟨path, _, rfl⟩ := Option.map_eq_some_iff.1 hentry
  change HasDistinctKeys (variableValue yaml entry.2)
  rw [variableValue]
  cases hread : yaml.read (utf8Bytes entry.2) with
  | none => exact .leaf nofun
  | some value => exact Yaml.hasDistinctKeys_of_value? hread

/-- A value that can be put into a loaded configuration is found there. -/
theorem exists_put_hostSystem (hupdate : (update hostDocument path value).toOption.isSome)
    (hwritable : (yaml.write (updated hostDocument path value)).isSome) : ∃ opened store,
      (load yaml "cfg").runFrom hostSystem = (.ok ⟨"cfg", hostDocument⟩, opened) ∧
      (Store.put yaml path value).runFrom ⟨opened, ⟨"cfg", hostDocument⟩⟩ = (.ok (), store) ∧
      find store.configuration.document path = .ok value := by
  obtain ⟨document, hdocument⟩ := Option.isSome_iff_exists.1 hupdate
  rw [toOption_eq_some_iff] at hdocument
  obtain ⟨text, hwrite⟩ := Option.isSome_iff_exists.1 hwritable
  rw [updated_of_update hdocument] at hwrite
  obtain ⟨opened, _, hload, hopened⟩ := exists_load_hostSystem
  obtain ⟨store, hput, hstore, _⟩ : ∃ store,
      (Store.put yaml path value).runFrom ⟨opened, ⟨"cfg", hostDocument⟩⟩ = (.ok (), store) ∧
        store.configuration = ⟨"cfg", document⟩ ∧
        Stored store.system store.configuration.folder ["cfg"] (utf8Bytes text) :=
    Stored.exists_put hopened hdocument hwrite
  refine ⟨opened, store, hload, hput, ?_⟩
  rw [hstore]
  exact find_of_update hdocument

/-- In a loaded configuration, after any number of values have been put into it, a path leads to what
is stored behind its names in lower case. If all values that variables and changes have put there
have their keys in lower case, then so has the document, and everything that it stores behind keys is
found behind just these keys. One more value keeps it so only if its keys are in lower case too. -/
theorem find_iff_stores_putAll
    (hload : (load yaml given).runFrom system = (.ok configuration, opened))
    (hvalues : ∀ update ∈ updates, HasDistinctKeys update.2)
    (hputs : (putAll yaml updates).runFrom ⟨opened, configuration⟩ = (.ok (), store)) :
    (∀ keys value, find store.configuration.document keys = .ok value ↔
      Stores store.configuration.document (lowered keys) value) ∧
    ((∀ update ∈ updatesOf yaml system.environment ++ updates, IsLowered update.2) →
      IsLowered store.configuration.document ∧
      (∀ keys value, Stores store.configuration.document keys value →
        find store.configuration.document keys = .ok value) ∧
      ∀ path value last, (Store.put yaml path value).runFrom store = (.ok (), last) →
        (IsLowered last.configuration.document ↔ IsLowered value)) := by
  obtain ⟨merged, hmerged, hdocument⟩ := exists_isMerged hload
  have hrun : store.configuration.document =
      run updates (run (updatesOf yaml system.environment) merged) := by
    rw [← hdocument]
    exact document_of_putAll hputs
  have hdistinct : HasDistinctKeys store.configuration.document := by
    rw [hrun]
    refine hasDistinctKeys_run (hasDistinctKeys_run hmerged.isNormal.hasDistinctKeys ?_) hvalues
    exact fun update hupdate => hasDistinctKeys_of_mem_updatesOf hupdate
  refine ⟨fun keys value => find_eq_ok_iff_stores hdistinct, fun hlowered => ?_⟩
  have hdocumentLowered : IsLowered store.configuration.document := by
    rw [List.forall_mem_append] at hlowered
    rw [hrun]
    exact (hmerged.isNormal.isLowered.run hlowered.1).run hlowered.2
  refine ⟨hdocumentLowered, fun keys value hstored => ?_, fun path value last hput => ?_⟩
  · rw [find_eq_ok_iff_stores hdistinct, hdocumentLowered keys value hstored]
    exact hstored
  · obtain ⟨document, hupdate, hconfiguration, _⟩ := put_eq_ok_iff.1 hput
    rw [hconfiguration]
    exact isLowered_of_update_iff hdocumentLowered hupdate

/-- A mapping with a key in lower case that is put into a configuration is found by its key. -/
theorem find_iff_stores_putAll_lower :
    let updates : List Update := [(["NAT", "Extra"], .mapping [(.string "ttl", integer 5)])]
    ∃ configuration opened store, (load yaml "cfg").runFrom hostSystem = (.ok configuration, opened) ∧
      (putAll yaml updates).runFrom ⟨opened, configuration⟩ = (.ok (), store) ∧
      IsLowered store.configuration.document ∧
      find store.configuration.document ["nat", "extra", "ttl"] = .ok (integer 5) := by
  intro updates
  have hnormal : IsNormal (.mapping [(.string "ttl", integer 5)]) := by
    refine .mapping ?_ (List.pairwise_singleton _ _) ?_
    · exact List.forall_mem_singleton.2 (by decide +kernel)
    · exact List.forall_mem_singleton.2 (.leaf nofun nofun)
  obtain ⟨opened, store, hload, hput, hplace⟩ := @exists_put_hostSystem
    (.mapping [(.string "ttl", integer 5)]) ["NAT", "Extra"] (by decide +kernel) (by decide +kernel)
  have hputs : (putAll yaml updates).runFrom ⟨opened, ⟨"cfg", hostDocument⟩⟩ = (.ok (), store) :=
    bind_runFrom_eq_ok_iff.2 ⟨(), store, hput, rfl⟩
  obtain ⟨_, hlowered⟩ := find_iff_stores_putAll hload
    (List.forall_mem_singleton.2 hnormal.hasDistinctKeys) hputs
  obtain ⟨hdocument, hfound, _⟩ := hlowered (List.forall_mem_singleton.2 hnormal.isLowered)
  refine ⟨_, opened, store, hload, hputs, hdocument, hfound _ _ ?_⟩
  have hstores := stores_of_find hplace
  have hpath : lowered ["NAT", "Extra"] = ["nat", "extra"] := by decide +kernel
  rw [hpath] at hstores
  exact hstores.append (.inside List.mem_cons_self (.here (integer 5)))

/-- A mapping with a key in capitals is stored behind that key, where nothing finds it. -/
theorem stores_put_capital : ∃ opened store,
    (load yaml "cfg").runFrom hostSystem = (.ok ⟨"cfg", hostDocument⟩, opened) ∧
    (Store.put yaml ["nat", "extra"] (.mapping [(.string "TTL", integer 5)])).runFrom
      ⟨opened, ⟨"cfg", hostDocument⟩⟩ = (.ok (), store) ∧
    Stores store.configuration.document ["nat", "extra", "TTL"] (integer 5) ∧
    find store.configuration.document ["nat", "extra", "TTL"] =
      .error (.missing ["nat", "extra", "TTL"]) := by
  obtain ⟨opened, store, hload, hput, hplace⟩ := @exists_put_hostSystem
    (.mapping [(.string "TTL", integer 5)]) ["nat", "extra"] (by decide +kernel) (by decide +kernel)
  refine ⟨opened, store, hload, hput, ?_, ?_⟩
  · have hstores := stores_of_find hplace
    have hpath : lowered ["nat", "extra"] = ["nat", "extra"] := by decide +kernel
    rw [hpath] at hstores
    exact hstores.append (.inside List.mem_cons_self (.here (integer 5)))
  · have hnone : lookup? (keyOf "TTL") [(.string "TTL", integer 5)] = none := by decide +kernel
    change find store.configuration.document (["nat", "extra"] ++ ["TTL"]) = _
    rw [find_append hplace, find_mapping_of_none hnone]
    rfl

end NatGateway.Configuration
