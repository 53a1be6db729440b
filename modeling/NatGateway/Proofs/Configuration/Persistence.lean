import Mathlib.Data.List.Basic
import NatGateway.Proofs.Configuration.Changes
import NatGateway.Proofs.Configuration.Find
import NatGateway.Proofs.Yaml.Writer

/-!
# What stays of changes

A configuration that has been changed is loaded again with the document that it had, laid over the
defaults. On all paths where the document misses none of the defaults that makes no difference;
where it does, the defaults come back.
-/

namespace NatGateway.Configuration

open NatGateway.Text (Bytes utf8Bytes)
open NatGateway.Yaml (Value Distinct IsWritable isWritable_mapping_iff)
open NatGateway.Yaml.Value

variable {document live value known : Value} {lower upper : List (Value × Value)}
  {name given : String} {path rest : List String} {environment : List (String × String)} {store : Store}

/-! ## A document laid over the defaults -/

/-- Whether a document misses no value of another one at a path or below it. -/
def Covers (live document : Value) (path : List String) : Prop :=
  ∀ rest value, find document (path ++ rest) = .ok value → ¬ Misses live (path ++ rest)

/-- Whether two outcomes are the same value, up to the order of entries, or both failures. -/
def SameOutcome : Except ConfigurationError Value → Except ConfigurationError Value → Prop
  | .ok value, .ok other => value.same other = true
  | .error _, .error _ => True
  | _, _ => False

/-- Outcomes stay the same when their failures are changed. -/
theorem SameOutcome.mapError {first second : Except ConfigurationError Value}
    {change : ConfigurationError → ConfigurationError} (h : SameOutcome first second) :
    SameOutcome (first.mapError change) (second.mapError change) := by
  cases first <;> cases second <;> exact h

/-- What covers a document at a path covers what is under the first name at the rest. -/
theorem Covers.inside (h : Covers (.mapping upper) document (name :: path))
    (hlookup : lookup? (keyOf name) upper = some value) :
    Covers value (under document (keyOf name)) path := by
  intro rest found hfound hmisses
  have hrest : path ++ rest ≠ [] := by
    intro hnil
    rw [hnil] at hmisses
    exact not_misses_nil hmisses
  exact h rest found (find_of_find_under hfound hrest) ((misses_iff_of_some hlookup).2 hmisses)

/-- A default that a document misses is found when the document is laid over the defaults. -/
theorem find_merge_of_misses (hnamed : IsNamed document) (hdocument : IsNormal document)
    (hlive : IsNormal live) (hfind : find document path = .ok value) (hmisses : Misses live path) :
    find (merge document live) path = .ok value := by
  induction path generalizing document live with
  | nil => exact absurd hmisses not_misses_nil
  | cons name rest ih =>
    cases live with
    | mapping upper =>
      cases hlookup : lookup? (keyOf name) upper with
      | none => exact (find_merge_of_none hnamed hdocument hlive.distinct hlookup).2 hfind
      | some inner =>
        rw [find_merge_of_some hnamed hdocument hlive.distinct hlookup, mapError_eq_ok_iff]
        exact ih (hnamed.under _) (hdocument.under _)
          (hlive.values _ (mem_of_lookup?_string hlookup)) (find_under hfind)
          ((misses_iff_of_some hlookup).1 hmisses)
    | _ => exact absurd hmisses (not_misses_leaf nofun)

/-- Entries that have all the keys of others are as many when they are laid over those. -/
theorem length_laid (hnames : AreNames lower) (hlower : Distinct lower) (hupper : Distinct upper)
    (hfound : ∀ entry ∈ lower, (lookup? entry.1 upper).isSome = true) :
    (overlaid lower upper ++ extra lower upper).length = upper.length := by
  let kept := upper.filter fun entry => (lookup? entry.1 lower).isSome
  have hkeys : (kept.map Prod.fst).Perm (lower.map Prod.fst) := by
    have hkept : Distinct kept := List.Pairwise.sublist (List.filter_sublist.map Prod.fst) hupper
    refine (List.perm_ext_iff_of_nodup hkept.nodup hlower.nodup).2 fun key => ?_
    constructor
    · intro hkey
      obtain ⟨entry, hentry, rfl⟩ := List.mem_map.1 hkey
      obtain ⟨known, hknown⟩ := Option.isSome_iff_exists.1 (List.mem_filter.1 hentry).2
      obtain ⟨name, hname⟩ := hnames.exists_name hknown
      rw [hname] at hknown ⊢
      exact List.mem_map_of_mem (mem_of_lookup?_string hknown)
    · intro hkey
      obtain ⟨entry, hentry, rfl⟩ := List.mem_map.1 hkey
      obtain ⟨name, hname⟩ := hnames entry.1 hkey
      obtain ⟨value, hvalue⟩ := Option.isSome_iff_exists.1 (hfound entry hentry)
      have hlookup := lookup?_of_mem hlower hentry
      rw [hname] at hvalue hlookup ⊢
      refine List.mem_map_of_mem (List.mem_filter.2 ⟨mem_of_lookup?_string hvalue, ?_⟩)
      rw [hlookup]
      rfl
  have hlength : kept.length = lower.length := by
    simpa only [List.length_map] using hkeys.length_eq
  have hextra : extra lower upper = upper.filter fun entry => !(lookup? entry.1 lower).isSome :=
    List.filter_congr fun entry _ => (Option.not_isSome _).symm
  rw [List.length_append, overlaid, List.length_map, ← hlength, hextra]
  exact (List.length_eq_length_filter_add fun entry : Value × Value =>
    (lookup? entry.1 lower).isSome).symm

/-- What covers a document has the names that are found in it. -/
theorem Covers.exists_value (h : Covers (.mapping upper) document [])
    (hknown : lookup? (keyOf name) (entriesOf document) = some known) :
    ∃ value, lookup? (keyOf name) upper = some value := by
  cases hlookup : lookup? (keyOf name) upper with
  | none =>
    have hfind : find document [name] = .ok known := find_cons_eq_ok_iff.2 ⟨known, hknown, find_nil⟩
    exact absurd (misses_of_none hlookup) (h [name] known hfind)
  | some value => exact ⟨value, rfl⟩

/-- What covers a document covers it at every path. -/
theorem Covers.at (h : Covers live document []) (path : List String) : Covers live document path :=
  fun rest value hvalue => h (path ++ rest) value hvalue

/-- A document that misses no default is the same when it is laid over them, up to the order of its
entries. -/
theorem same_merge (hnamed : IsNamed document) (hdocument : IsNormal document) (hlive : IsNormal live)
    (hcovers : Covers live document []) : live.same (merge document live) = true := by
  induction live using Value.induct generalizing document with
  | leaf live _ hmapping _ =>
    rw [merge_leaf hmapping]
    exact same_refl live
  | sequence items _ => exact same_refl _
  | tagged tag inner _ => exact same_refl _
  | mapping upper ih =>
    rw [merge_mapping hnamed.keys hdocument.distinct_entriesOf hlive.distinct, same, Bool.and_eq_true,
      beq_iff_eq, entriesIn_iff]
    constructor
    · refine (length_laid hnamed.keys hdocument.distinct_entriesOf hlive.distinct ?_).symm
      intro entry hentry
      obtain ⟨name, hname⟩ := hdocument.exists_keyOf hnamed hentry
      have hknown := lookup?_of_mem hdocument.distinct_entriesOf hentry
      rw [hname] at hknown ⊢
      obtain ⟨value, hvalue⟩ := hcovers.exists_value hknown
      rw [hvalue]
      rfl
    · intro entry hentry
      cases hlookup : lookup? entry.1 (entriesOf document) with
      | none =>
        refine ⟨entry, List.mem_append_right _ (List.mem_filter.2 ⟨hentry, ?_⟩), same_refl _,
          same_refl _⟩
        rw [hlookup]
        rfl
      | some known =>
        obtain ⟨name, hname⟩ := hnamed.keys.exists_name hlookup
        have hkey := hlive.keys entry hentry
        have hvalue := lookup?_of_mem hlive.distinct hentry
        rw [hname] at hkey hvalue
        rw [← hkey] at hvalue
        have hinside := (hcovers.at [name]).inside hvalue
        have hsame := (ih entry hentry).2 (hnamed.under _) (hdocument.under _)
          (hlive.values entry hentry) hinside
        refine ⟨_, mem_of_lookup?_string (lookup?_laid_of_some hvalue), ?_, hsame⟩
        rw [hname, ← hkey]
        exact same_refl _

/-- At a path at which and below which a document misses no default the outcome is the same when it
is laid over them. -/
theorem sameOutcome_merge (hnamed : IsNamed document) (hdocument : IsNormal document)
    (hlive : IsNormal live) (hcovers : Covers live document path) :
    SameOutcome (find live path) (find (merge document live) path) := by
  induction path generalizing document live with
  | nil =>
    rw [find_nil, find_nil]
    exact same_merge hnamed hdocument hlive hcovers
  | cons name rest ih =>
    obtain ⟨upper, rfl⟩ | hleaf := mapping_or_leaf live
    · cases hlookup : lookup? (keyOf name) upper with
      | none =>
        rw [find_mapping_of_none hlookup]
        cases hmerged : find (merge document (.mapping upper)) (name :: rest) with
        | error error => trivial
        | ok found =>
          rw [find_merge_of_none hnamed hdocument hlive.distinct hlookup] at hmerged
          have hcovered := hcovers [] found
          rw [List.append_nil] at hcovered
          exact absurd (misses_of_none hlookup) (hcovered hmerged)
      | some inner =>
        rw [find_mapping_of_some hlookup, find_merge_of_some hnamed hdocument hlive.distinct hlookup]
        exact SameOutcome.mapError (ih (hnamed.under _) (hdocument.under _)
          (hlive.values _ (mem_of_lookup?_string hlookup)) (hcovers.inside hlookup))
    · rw [merge_leaf hleaf, find_leaf hleaf]
      trivial

/-! ## Loading again -/

/-- Laying a document that can be written over one of names gives one that can be written. -/
theorem isWritable_merge (hnamed : IsNamed document) (hdocument : IsNormal document)
    (hwritable : IsWritable false document) (hlive : IsNormal live) (hvalue : IsWritable false live) :
    IsWritable false (merge document live) := by
  induction live using Value.induct generalizing document with
  | leaf value _ hmapping _ =>
    rw [merge_leaf hmapping]
    exact hvalue
  | sequence items _ => exact hvalue
  | mapping upper ih =>
    cases document with
    | mapping lower =>
      rw [merge_mapping hnamed.keys hdocument.distinct_entriesOf hlive.distinct]
      rw [isWritable_mapping_iff] at hwritable hvalue ⊢
      constructor
      · intro entry hentry
        rcases List.mem_append.1 hentry with hlaid | hextra
        · obtain ⟨known, hknown, rfl⟩ := List.mem_map.1 hlaid
          refine ⟨(hwritable.1 known hknown).1, ?_⟩
          cases hlookup : lookup? known.1 upper with
          | none => exact (hwritable.1 known hknown).2
          | some value =>
            obtain ⟨key, hmem, _⟩ := exists_mem_of_lookup? hlookup
            exact (ih (key, value) hmem).2 (hnamed.values known hknown)
              (hdocument.values_entriesOf known hknown) (hwritable.1 known hknown).2
              (hlive.values _ hmem) (hvalue.1 _ hmem).2
        · exact hvalue.1 entry (List.mem_filter.1 hextra).1
      · intro only honly hsingle
        cases lower with
        | nil =>
          rw [entriesOf, extra_nil] at honly
          exact hvalue.2 only honly hsingle
        | cons known rest =>
          -- The one entry has the key of a known one, which is a name.
          obtain ⟨name, hname⟩ := hnamed.keys known.1 List.mem_cons_self
          obtain ⟨rfl, _⟩ := List.cons.inj honly
          change known.1.isSingle = true at hsingle
          rw [hname] at hsingle
          cases hsingle
    | _ => exact hvalue
  | tagged tag inner _ => exact hvalue

/-- The defaults can be written. -/
theorem isWritable_defaults : IsWritable false defaults :=
  Yaml.isSome_text?_iff.1 (by decide +kernel)

/-- A live configuration is loaded again as its document laid over the defaults. -/
theorem IsLive.load {other : String} (h : IsLive yaml given environment store)
    (henvironment : HasNoSettings environment)
    (hread : ∀ text, yaml.write store.configuration.document = some text →
      yaml.read (utf8Bytes text) = some store.configuration.document)
    (hother : other = given ∨ other = store.configuration.folder) :
    ∃ after, (load yaml other).runFrom store.system =
      (.ok ⟨store.configuration.folder, merge defaults store.configuration.document⟩, after) := by
  obtain ⟨location, text, hwrite, hstored⟩ := h.stored
  have hchosen : chosenFolder store.system other = store.configuration.folder := by
    rcases hother with rfl | rfl
    · exact h.chosen
    · exact chosenFolder_of_find? hstored.folder
  have hwritable : IsWritable false store.configuration.document :=
    Yaml.isSome_text?_iff.1 (Option.isSome_iff_exists.2 ⟨text, hwrite⟩)
  obtain ⟨merged, hmerged⟩ := Option.isSome_iff_exists.1
    (Yaml.isSome_text?_iff.2 (isWritable_merge isNamed_defaults isNormal_defaults isWritable_defaults
      h.normal hwritable))
  have hloaded := loaded_eq_merge (h.environment_eq ▸ henvironment) (hread text hwrite)
  rw [lowerKeys_of_isNormal h.normal] at hloaded
  obtain ⟨after, hload, _⟩ := hstored.load hchosen hloaded hmerged
  exact ⟨after, hload⟩

/-- After normal values have been put into it a configuration is loaded again as its document laid
over the defaults. What it gave at a path it gives again, unless the defaults have a value there or
below that the document misses; and such a default is found again. -/
theorem load_putAll {system opened : System} {configuration : Configuration} {other : String}
    {updates : List Update} (hload : (load yaml given).runFrom system = (.ok configuration, opened))
    (henvironment : HasNoSettings system.environment)
    (hvalues : ∀ update ∈ updates, IsNormal update.2)
    (hputs : (putAll yaml updates).runFrom ⟨opened, configuration⟩ = (.ok (), store))
    (hread : ∀ text, yaml.write store.configuration.document = some text →
      yaml.read (utf8Bytes text) = some store.configuration.document)
    (hother : other = given ∨ other = configuration.folder) :
    ∃ again after, (load yaml other).runFrom store.system = (.ok again, after) ∧
      again.folder = configuration.folder ∧
      again.document = merge defaults store.configuration.document ∧
      (∀ path, Covers store.configuration.document defaults path →
        SameOutcome (find store.configuration.document path) (find again.document path)) ∧
      ∀ path value, find defaults path = .ok value → Misses store.configuration.document path →
        find again.document path = .ok value := by
  obtain ⟨hlive, hfolder⟩ := (isLive_of_load hload henvironment).putAll hvalues hputs
  obtain ⟨after, hagain⟩ := hlive.load henvironment hread (hfolder ▸ hother)
  refine ⟨_, after, hagain, hfolder, rfl, ?_, ?_⟩
  · intro path hcovers
    exact sameOutcome_merge isNamed_defaults isNormal_defaults hlive.normal hcovers
  · intro path value hvalue hmisses
    exact find_merge_of_misses isNamed_defaults isNormal_defaults hlive.normal hvalue hmisses

/-- A system with a file that sets a single value. -/
def hostSystem : System where
  current := []
  environment := []
  entries := [(["cfg"], .folder), (["cfg", "config.yaml"], .file (utf8Bytes "host: 1\n"))]

/-- The document that is loaded there. -/
def hostDocument : Value := merge defaults (.mapping [(.string "host", integer 1)])

/-- A file that sets a single value is loaded with the defaults beside it. -/
theorem exists_load_hostSystem : ∃ loaded text,
    (load yaml "cfg").runFrom hostSystem = (.ok ⟨"cfg", hostDocument⟩, loaded) ∧
      Stored loaded "cfg" ["cfg"] (utf8Bytes text) := by
  have hstored : Stored hostSystem "cfg" ["cfg"] (utf8Bytes "host: 1\n") := by
    constructor <;> decide +kernel
  have hloaded : loaded yaml (some (utf8Bytes "host: 1\n")) hostSystem.environment =
      .ok hostDocument :=
    toOption_eq_some_iff.1 (by decide +kernel)
  obtain ⟨text, hwrite⟩ : ∃ text, yaml.write hostDocument = some text :=
    Option.isSome_iff_exists.1 (by decide +kernel)
  obtain ⟨loaded, hload, hafter⟩ := hstored.load (chosenFolder_of_find? hstored.folder) hloaded hwrite
  exact ⟨loaded, text, hload, hafter⟩

/-- A configuration that is emptied and given one setting has all of the defaults beside it when it
is loaded again. -/
theorem load_putAll_emptied :
    let updates : List Update := [([], .mapping []), (["A"], integer 2)]
    ∃ configuration opened store again after,
      (load yaml "cfg").runFrom hostSystem = (.ok configuration, opened) ∧
      (putAll yaml updates).runFrom ⟨opened, configuration⟩ = (.ok (), store) ∧
      (load yaml "cfg").runFrom store.system = (.ok again, after) ∧
      SameOutcome (find store.configuration.document ["a"]) (find again.document ["a"]) ∧
      find again.document ["nat", "multicast_ttl"] = .ok (integer 2) := by
  intro updates
  let final : Value := .mapping [(.string "a", integer 2)]
  obtain ⟨opened, _, hload, hafter⟩ := exists_load_hostSystem
  obtain ⟨middle, hfirst, hmiddle, hstoredMiddle⟩ : ∃ middle,
      (Store.put yaml [] (.mapping [])).runFrom ⟨opened, ⟨"cfg", hostDocument⟩⟩ = (.ok (), middle) ∧
        middle.configuration = ⟨"cfg", .mapping []⟩ ∧
        Stored middle.system middle.configuration.folder ["cfg"] (utf8Bytes "\x7b\x7d\n") :=
    Stored.exists_put hafter rfl (by decide +kernel)
  have hupdate : update middle.configuration.document ["A"] (integer 2) = .ok final := by
    rw [hmiddle]
    exact toOption_eq_some_iff.1 (by decide +kernel)
  have hfinal : yaml.write final = some "a: 2\n" := by decide +kernel
  obtain ⟨store, hsecond, hstore, _⟩ := hstoredMiddle.exists_put hupdate hfinal
  have hputs : (putAll yaml updates).runFrom ⟨opened, ⟨"cfg", hostDocument⟩⟩ = (.ok (), store) :=
    bind_runFrom_eq_ok_iff.2 ⟨(), middle, hfirst,
      bind_runFrom_eq_ok_iff.2 ⟨(), store, hsecond, rfl⟩⟩
  have hdocument : store.configuration.document = final := by rw [hstore]
  have hread : ∀ text, yaml.write store.configuration.document = some text →
      yaml.read (utf8Bytes text) = some store.configuration.document := by
    intro text htext
    rw [hdocument] at htext ⊢
    cases hfinal.symm.trans htext
    decide +kernel
  have hvalues : ∀ update ∈ updates, IsNormal update.2 :=
    List.forall_mem_cons.2 ⟨isNormal_empty, List.forall_mem_singleton.2 (.leaf nofun nofun)⟩
  have hunset : lookup? (keyOf "a") (entriesOf defaults) = none := by decide +kernel
  have hcovers : Covers store.configuration.document defaults ["a"] := by
    intro rest value hvalue
    obtain ⟨next, hnext, _⟩ := find_cons_eq_ok_iff.1 hvalue
    rw [hunset] at hnext
    cases hnext
  have hmisses : Misses store.configuration.document ["nat", "multicast_ttl"] := by
    rw [hdocument]
    exact misses_of_none (by decide +kernel)
  have hdefault : find defaults ["nat", "multicast_ttl"] = .ok (integer 2) :=
    toOption_eq_some_iff.1 (by decide +kernel)
  obtain ⟨again, after, hagain, _, _, hsame, hback⟩ :=
    load_putAll hload nofun hvalues hputs hread (.inl rfl)
  exact ⟨_, opened, store, again, after, hload, hputs, hagain, hsame _ hcovers,
    hback _ _ hdefault hmisses⟩

/-- A section that has been emptied is empty, and its defaults are back when the configuration is
loaded again. -/
theorem load_put_emptied_section :
    ∃ configuration opened store again after,
      (load yaml "cfg").runFrom hostSystem = (.ok configuration, opened) ∧
      (Store.put yaml ["nat"] (.mapping [])).runFrom ⟨opened, configuration⟩ = (.ok (), store) ∧
      (load yaml "cfg").runFrom store.system = (.ok again, after) ∧
      (∀ text, yaml.write store.configuration.document = some text →
        yaml.read (utf8Bytes text) = some store.configuration.document) ∧
      find store.configuration.document ["nat", "multicast_ttl"] =
        .error (.missing ["nat", "multicast_ttl"]) ∧
      find again.document ["nat", "multicast_ttl"] = .ok (integer 2) := by
  let emptied : Value := .mapping [(.string "host", integer 1), (.string "nat", .mapping [])]
  obtain ⟨opened, _, hload, hafter⟩ := exists_load_hostSystem
  have hupdate : update hostDocument ["nat"] (.mapping []) = .ok emptied :=
    toOption_eq_some_iff.1 (by decide +kernel)
  have hemptied : yaml.write emptied = some "host: 1\nnat: \x7b\x7d\n" := by decide +kernel
  obtain ⟨store, hput, hstore, _⟩ : ∃ store,
      (Store.put yaml ["nat"] (.mapping [])).runFrom ⟨opened, ⟨"cfg", hostDocument⟩⟩ =
          (.ok (), store) ∧
        store.configuration = ⟨"cfg", emptied⟩ ∧
        Stored store.system store.configuration.folder ["cfg"] _ :=
    Stored.exists_put hafter hupdate hemptied
  have hread : ∀ text, yaml.write store.configuration.document = some text →
      yaml.read (utf8Bytes text) = some store.configuration.document := by
    intro text htext
    rw [hstore] at htext ⊢
    cases hemptied.symm.trans htext
    decide +kernel
  obtain ⟨hlive, _⟩ := (isLive_of_load hload nofun).put isNormal_empty hput
  obtain ⟨after, hagain⟩ := hlive.load nofun hread (.inl rfl)
  refine ⟨_, opened, store, _, after, hload, hput, hagain, hread, ?_, ?_⟩
  · have hsection : lookup? (keyOf "nat")
        [(.string "host", integer 1), (.string "nat", .mapping [])] = some (.mapping []) := by
      decide +kernel
    rw [hstore, find_mapping_of_some hsection, find_mapping_of_none rfl]
    rfl
  · rw [hstore]
    exact toOption_eq_some_iff.1 (by decide +kernel)

end NatGateway.Configuration
