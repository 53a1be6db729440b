import NatGateway.Proofs.Configuration.Loading
import NatGateway.Proofs.Configuration.Updates
import NatGateway.Proofs.Result

/-!
# Loading again

A configuration that is loaded saves what it has loaded, and the next one starts from that. Its
document is lowered, laid over the defaults and put under the same variables again, and comes out as
it was: what the variables did the first time they do once more, whether they overlap, reset one
another or are blocked.
-/

namespace NatGateway.Configuration

open NatGateway.Text (Bytes utf8Bytes)
open NatGateway.Yaml (Value)

variable {format : Format} {system after : System} {configuration : Configuration}
  {given other : String} {document : Value} {content : Bytes}
  {environment : List (String × String)}

/-! ## The defaults -/

/-- A mapping from names is a document of names if its values are. -/
theorem isNamed_named {entries : List (String × Value)} (h : ∀ entry ∈ entries, IsNamed entry.2) :
    IsNamed (named entries) := by
  refine .mapping ?_ (List.forall_mem_map.2 h)
  intro key hkey
  rw [List.map_map] at hkey
  obtain ⟨entry, _, rfl⟩ := List.mem_map.1 hkey
  exact ⟨entry.1, rfl⟩

/-- The defaults have names as keys. -/
theorem isNamed_defaults : IsNamed defaults := by
  have hinteger : ∀ value, IsNamed (integer value) := fun value => .leaf nofun
  refine isNamed_named ?_
  simp only [List.forall_mem_cons]
  refine ⟨isNamed_named ?_, isNamed_named ?_, nofun⟩
  · simp only [List.forall_mem_cons]
    refine ⟨isNamed_named ?_, nofun⟩
    simp only [List.forall_mem_cons]
    exact ⟨.leaf nofun, .leaf nofun, nofun⟩
  · simp only [List.forall_mem_cons, hinteger, true_and]
    exact ⟨.leaf nofun, nofun⟩

/-- The keys of the defaults are in lower case. -/
theorem lowerKeys_defaults : lowerKeys defaults = defaults := by
  decide +kernel

/-- The defaults are normal. -/
theorem isNormal_defaults : IsNormal defaults := by
  rw [← lowerKeys_defaults]
  exact isNormal_lowerKeys defaults

/-! ## Variables -/

/-- The updates that variables stand for. -/
def updatesOf (format : Format) (environment : List (String × String)) : List Update :=
  environment.filterMap fun given =>
    (variablePath? given.1).map fun path => (path, variableValue format given.2)

/-- Whether none of the variables changes a setting. -/
def HasNoSettings (environment : List (String × String)) : Prop :=
  ∀ entry ∈ environment, variablePath? entry.1 = none

/-- Variables that change no settings stand for no updates. -/
theorem updatesOf_eq_nil (h : HasNoSettings environment) : updatesOf format environment = [] :=
  List.filterMap_eq_nil_iff.2 fun entry hentry => by rw [h entry hentry]; rfl

/-- Laying variables over a document is to run the updates that they stand for. -/
theorem withVariables_eq_run (format : Format) (document : Value)
    (environment : List (String × String)) :
    withVariables format document environment = run (updatesOf format environment) document := by
  induction environment generalizing document with
  | nil => rfl
  | cons given rest ih =>
    rw [withVariables, List.foldl_cons, ← withVariables, ih, withVariable]
    cases hpath : variablePath? given.1 with
    | none => rw [updatesOf, updatesOf, List.filterMap_cons_none (by rw [hpath]; rfl)]
    | some path =>
      rw [updatesOf, updatesOf, List.filterMap_cons_some (by rw [hpath]; rfl), run, run,
        List.foldl_cons]
      rfl

/-! ## Loading -/

/-- The document of a file is laid over the defaults and put under the variables. -/
theorem loaded_of_some {file : Option Bytes} {external : Value}
    (h : file.elim (some defaults) format.read = some external) :
    loaded format file environment =
      .ok (run (updatesOf format environment) (merge defaults (lowerKeys external))) := by
  rw [← withVariables_eq_run]
  cases file with
  | none =>
    cases h
    simp only [loaded, lowerKeys_defaults]
  | some content =>
    rw [Option.elim_some] at h
    simp only [loaded, h, lowerKeys_defaults]

/-- A document is loaded from a file that can be read, or from the defaults if there is none. -/
theorem loaded_eq_ok_iff {file : Option Bytes} : loaded format file environment = .ok document ↔
    ∃ external, file.elim (some defaults) format.read = some external ∧
      document = run (updatesOf format environment) (merge defaults (lowerKeys external)) := by
  constructor
  · intro h
    cases hexternal : file.elim (some defaults) format.read with
    | none =>
      cases file with
      | none => cases hexternal
      | some content =>
        rw [Option.elim_some] at hexternal
        simp [loaded, hexternal] at h
    | some external =>
      rw [loaded_of_some hexternal, Except.ok.injEq] at h
      exact ⟨external, rfl, h.symm⟩
  · rintro ⟨external, hexternal, rfl⟩
    exact loaded_of_some hexternal

/-- Under variables that change no settings the document of a file is what it gives, laid over the
defaults. -/
theorem loaded_eq_merge {external : Value} (henvironment : HasNoSettings environment)
    (hread : format.read content = some external) :
    loaded format (some content) environment = .ok (merge defaults (lowerKeys external)) := by
  have hloaded : loaded format (some content) environment = _ := loaded_of_some hread
  rw [hloaded, updatesOf_eq_nil henvironment]
  rfl

/-- A document that has been loaded, written and read is loaded as it was. -/
theorem loaded_again {file : Option Bytes} (h : loaded format file environment = .ok document)
    (hread : format.read content = some document) :
    loaded format (some content) environment = .ok document := by
  obtain ⟨external, _, hdocument⟩ := loaded_eq_ok_iff.1 h
  refine loaded_eq_ok_iff.2 ⟨document, hread, ?_⟩
  have hmerged := isNormal_defaults.merge (isNormal_lowerKeys external)
  have hextends := extends_merge isNamed_defaults isNormal_defaults (isNormal_lowerKeys external)
  rw [hdocument]
  exact (run_merge_lowerKeys_run _ isNamed_defaults isNormal_defaults hmerged hextends).symm

/-- A configuration that has been loaded is loaded again as it was, with the same folder given or
the one that was chosen, and its file stays as it is. -/
theorem load_load (h : (load format given).runFrom system = (.ok configuration, after))
    (hread : ∀ text, format.write configuration.document = some text →
      format.read (utf8Bytes text) = some configuration.document)
    (hother : other = given ∨ other = configuration.folder) :
    ∃ again, (load format other).runFrom after = (.ok configuration, again) ∧
      ∃ content, after.content? (System.join configuration.folder fileName) = some content ∧
        again.content? (System.join configuration.folder fileName) = some content := by
  have hafter := isLoaded_of_load h
  obtain ⟨file, hloaded, _⟩ := hafter.source
  obtain ⟨location, text, hwrite, hstored⟩ := hafter.stored
  have hfolder : chosenFolder after other = configuration.folder := by
    rcases hother with rfl | rfl
    · exact hafter.chosen
    · exact chosenFolder_of_find? hstored.folder
  obtain ⟨again, hagain, hstoredAgain⟩ := hstored.load hfolder
    (hafter.environment ▸ loaded_again hloaded (hread text hwrite)) hwrite
  exact ⟨again, hagain, utf8Bytes text, hstored.content?, hstoredAgain.content?⟩

/-- A file beside variables of which one changes a setting, the next one resets what it is in, and
the last one is blocked by that. -/
theorem load_load_blocked :
    let system : System := {
      current := []
      environment := [("PMONAT_CONFIG__HOST__LOGGER", "1"), ("PMONAT_CONFIG__HOST", "2"),
        ("PMONAT_CONFIG__NAT", "3"), ("PMONAT_CONFIG__Host__Logger", "4")]
      entries := [(["cfg"], .folder), (["cfg", "config.yaml"], .file (utf8Bytes "A: 5\n"))] }
    let document : Value := .mapping
      [(.string "host", integer 2), (.string "nat", integer 3), (.string "a", integer 5)]
    ∃ after again, (load yaml "cfg").runFrom system = (.ok ⟨"cfg", document⟩, after) ∧
      (load yaml "cfg").runFrom after = (.ok ⟨"cfg", document⟩, again) ∧
      again.content? (System.join "cfg" fileName) = after.content? (System.join "cfg" fileName) := by
  intro system document
  have hstored : Stored system "cfg" ["cfg"] (utf8Bytes "A: 5\n") := by
    constructor <;> decide +kernel
  have hwrite : yaml.write document = some "host: 2\nnat: 3\na: 5\n" := by decide +kernel
  have hchosen : chosenFolder system "cfg" = "cfg" := rfl
  have hloaded : loaded yaml (some (utf8Bytes "A: 5\n")) system.environment = .ok document :=
    toOption_eq_some_iff.1 (by decide +kernel)
  obtain ⟨after, hload, _⟩ := hstored.load hchosen hloaded hwrite
  have hread : ∀ text, yaml.write document = some text →
      yaml.read (utf8Bytes text) = some document := by
    intro text htext
    cases hwrite.symm.trans htext
    decide +kernel
  obtain ⟨again, hagain, content, hafter, hcontent⟩ := load_load hload hread (.inl rfl)
  exact ⟨after, again, hload, hagain, hcontent.trans hafter.symm⟩

end NatGateway.Configuration
