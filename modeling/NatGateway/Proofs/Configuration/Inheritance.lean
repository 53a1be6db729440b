import NatGateway.Proofs.Configuration.Find
import NatGateway.Proofs.Configuration.Reloading

/-!
# Defaults that a file leaves alone

A default is found under its path when a file gives nothing in its place: nothing at the path, and
before it nothing but mappings. That takes a file whose document is a mapping. A document of any
other kind, which an empty file has too, takes the place of all of the defaults.
-/

namespace NatGateway.Configuration

open NatGateway.Text (Bytes utf8Bytes)
open NatGateway.Yaml (Value)
open NatGateway.Yaml.Value

variable {format : Format} {system after : System} {configuration : Configuration}
  {given name : String} {document external value : Value} {entries known : List (Value × Value)}
  {path rest : List String}

/-! ## What a file gives -/

/-- What a document gives at a path, on which names are told apart in lower case only. There can be
several values with the same path, of which the last one counts. -/
inductive Gives : Value → List String → Value → Prop
  | here (value : Value) : Gives value [] value
  | inside {entries : List (Value × Value)} {key name : String} {rest : List String}
      {inner value : Value} (entry : (.string key, inner) ∈ entries)
      (key_eq : Text.lower key = Text.lower name) (value_given : Gives inner rest value) :
      Gives (.mapping entries) (name :: rest) value

/-- Whether a document leaves a path alone: it gives nothing there, and nothing on the way there but
mappings. -/
def LeavesAlone (external : Value) (path : List String) : Prop :=
  ∀ front given, front ≠ [] → front <+: path → Gives external front given →
    front ≠ path ∧ ∃ entries, given = .mapping entries

/-- A mapping leaves a path alone if every entry with the first name is a mapping that leaves the
rest alone. -/
theorem leavesAlone_cons_iff : LeavesAlone (.mapping entries) (name :: rest) ↔
    ∀ key inner, (.string key, inner) ∈ entries → Text.lower key = Text.lower name →
      rest ≠ [] ∧ (∃ entries, inner = .mapping entries) ∧ LeavesAlone inner rest := by
  constructor
  · intro h key inner hmem hkey
    have hinside : ∀ front value, Gives inner front value →
        Gives (.mapping entries) (name :: front) value :=
      fun front value hvalue => .inside hmem hkey hvalue
    obtain ⟨hne, hmapping⟩ := h [name] inner (List.cons_ne_nil _ _) (List.prefix_append [name] rest)
      (hinside [] inner (.here inner))
    refine ⟨fun hrest => hne (hrest ▸ rfl), hmapping, fun front value hfront hprefix hvalue => ?_⟩
    obtain ⟨hother, hvalueMapping⟩ := h (name :: front) value (List.cons_ne_nil _ _)
      (List.cons_prefix_cons.2 ⟨rfl, hprefix⟩) (hinside front value hvalue)
    exact ⟨fun heq => hother (congrArg _ heq), hvalueMapping⟩
  · intro h front value hfront hprefix hvalue
    cases hvalue with
    | here => exact absurd rfl hfront
    | @inside _ key step front inner _ hmem hkey hvalue =>
      obtain ⟨rfl, hfrontPrefix⟩ := List.cons_prefix_cons.1 hprefix
      obtain ⟨hrest, hmapping, hinner⟩ := h key inner hmem hkey
      by_cases hnil : front = []
      · subst hnil
        cases hvalue
        exact ⟨fun heq => hrest (List.cons.inj heq).2.symm, hmapping⟩
      · obtain ⟨hne, hvalueMapping⟩ := hinner front value hnil hfrontPrefix hvalue
        exact ⟨fun heq => hne (List.cons.inj heq).2, hvalueMapping⟩

/-- What is found under a name in entries that have been lowered was given under it. -/
theorem given_of_lookup?_lowerEntries
    (h : lookup? (keyOf name) (lowerEntries known entries) = some value) :
    lookup? (keyOf name) known = some value ∨ ∃ key inner, (.string key, inner) ∈ entries ∧
      Text.lower key = Text.lower name ∧ lowerKeys inner = value := by
  rw [lookup?_lowerEntries, Option.or_eq_some_iff, Option.map_eq_some_iff] at h
  rcases h with ⟨inner, hlatest, hvalue⟩ | ⟨_, hknown⟩
  · obtain ⟨key, hmem, hkey⟩ := mem_of_latest? hlatest
    exact .inr ⟨key, inner, hmem, hkey, hvalue⟩
  · exact .inl hknown

/-! ## Defaults under a file -/

/-- What a document holds at a path that a mapping laid over it leaves alone stays there. -/
theorem find_merge_of_leavesAlone (hnamed : IsNamed document) (hdocument : IsNormal document)
    (hfind : find document path = .ok value) (hpath : path ≠ [])
    (halone : LeavesAlone (.mapping entries) path) :
    find (merge document (lowerKeys (.mapping entries))) path = .ok value := by
  induction path generalizing document entries with
  | nil => exact absurd rfl hpath
  | cons name rest ih =>
    have hdistinct := (isNormal_lowerKeys (.mapping entries)).distinct
    rw [lowerKeys]
    cases hgiven : lookup? (keyOf name) (lowerEntries [] entries) with
    | none => exact (find_merge_of_none hnamed hdocument hdistinct hgiven).2 hfind
    | some given =>
      obtain hnone | ⟨key, inner, hmem, hkey, rfl⟩ := given_of_lookup?_lowerEntries hgiven
      · cases hnone
      obtain ⟨hrest, ⟨within, rfl⟩, hinner⟩ := leavesAlone_cons_iff.1 halone key inner hmem hkey
      rw [find_merge_of_some hnamed hdocument hdistinct hgiven, mapError_eq_ok_iff]
      exact ih (hnamed.under _) (hdocument.under _) (find_under hfind) hrest hinner

/-- A default at a path that a file leaves alone is found there after loading, exactly if the
document of the file is a mapping. -/
theorem find_default_iff {content : Bytes}
    (h : (load format given).runFrom system = (.ok configuration, after))
    (henvironment : HasNoSettings system.environment)
    (hcontent : system.content? (System.join configuration.folder fileName) = some content)
    (hread : format.read content = some external)
    (hdefault : find defaults path = .ok value) (hleaf : ∀ entries, value ≠ .mapping entries)
    (halone : LeavesAlone external path) :
    find configuration.document path = .ok value ↔ ∃ entries, external = .mapping entries := by
  obtain ⟨file, hloaded, hfile⟩ := (isLoaded_of_load h).source
  rw [hfile content hcontent, loaded_eq_merge henvironment hread, Except.ok.injEq] at hloaded
  rw [← hloaded]
  have hpath : path ≠ [] := by
    rintro rfl
    rw [find_nil, Except.ok.injEq] at hdefault
    exact hleaf _ hdefault.symm
  constructor
  · intro hfind
    cases external with
    | mapping entries => exact ⟨entries, rfl⟩
    | _ =>
      obtain ⟨name, rest, rfl⟩ := List.exists_cons_of_ne_nil hpath
      cases hfind
  · rintro ⟨entries, rfl⟩
    exact find_merge_of_leavesAlone isNamed_defaults isNormal_defaults hdefault hpath halone

/-- A file that sets one of two settings of a section leaves the other one as it is. -/
theorem find_default_enableConsole :
    let content := utf8Bytes "Host:\n  Logger:\n    min_level: DEBUG\n"
    let system : System := {
      current := []
      environment := [("PMONAT_CONFIG", "cfg")]
      entries := [(["cfg"], .folder), (["cfg", "config.yaml"], .file content)] }
    ∃ configuration after, (load yaml "").runFrom system = (.ok configuration, after) ∧
      find configuration.document ["host", "LOGGER", "enable_console"] = .ok (.bool true) := by
  intro content system
  let external : Value := .mapping [(.string "Host", .mapping [(.string "Logger",
    .mapping [(.string "min_level", .string "DEBUG")])])]
  have hread : yaml.read content = some external := by decide +kernel
  have hstored : Stored system "cfg" ["cfg"] content := by
    constructor <;> decide +kernel
  have henvironment : HasNoSettings system.environment := by
    refine List.forall_mem_singleton.2 ?_
    decide +kernel
  obtain ⟨text, hwrite⟩ : ∃ text, yaml.write (merge defaults (lowerKeys external)) = some text :=
    Option.isSome_iff_exists.1 (by decide +kernel)
  have hchosen : chosenFolder system "" = "cfg" := by decide +kernel
  obtain ⟨after, hload, _⟩ := hstored.load hchosen (loaded_eq_merge henvironment hread) hwrite
  have halone : LeavesAlone external ["host", "LOGGER", "enable_console"] := by
    refine leavesAlone_cons_iff.2 fun key inner hmem _ => ?_
    cases List.mem_singleton.1 hmem
    refine ⟨List.cons_ne_nil _ _, ⟨_, rfl⟩, leavesAlone_cons_iff.2 fun key inner hmem _ => ?_⟩
    cases List.mem_singleton.1 hmem
    refine ⟨List.cons_ne_nil _ _, ⟨_, rfl⟩, leavesAlone_cons_iff.2 fun key inner hmem hkey => ?_⟩
    cases List.mem_singleton.1 hmem
    exact absurd hkey (by decide +kernel)
  have hdefault : find defaults ["host", "LOGGER", "enable_console"] = .ok (.bool true) :=
    toOption_eq_some_iff.1 (by decide +kernel)
  exact ⟨_, after, hload, (find_default_iff hload henvironment hstored.content? hread hdefault nofun
    halone).2 ⟨_, rfl⟩⟩

/-- An empty file gives nothing at all, but its document takes the place of all defaults. -/
theorem find_default_emptyFile :
    let system : System := {
      current := []
      environment := []
      entries := [(["cfg"], .folder), (["cfg", "config.yaml"], .file [])] }
    ∃ after, (load yaml "cfg").runFrom system = (.ok ⟨"cfg", .null⟩, after) ∧
      (∀ front given, front ≠ [] → ¬ Gives .null front given) ∧
      yaml.read [] = some .null ∧
      find defaults ["nat", "multicast_ttl"] = .ok (integer 2) ∧
      find .null ["nat", "multicast_ttl"] = .error (.notMapping []) := by
  intro system
  have hstored : Stored system "cfg" ["cfg"] [] := by
    constructor <;> decide +kernel
  have hloaded : loaded yaml (some []) system.environment = .ok .null :=
    toOption_eq_some_iff.1 (by decide +kernel)
  have hwrite : yaml.write .null = some "null\n" := by decide +kernel
  obtain ⟨after, hload, _⟩ := hstored.load (chosenFolder_of_find? hstored.folder) hloaded hwrite
  refine ⟨after, hload, ?_, by decide +kernel, rfl, rfl⟩
  rintro front given hfront ⟨⟩
  exact hfront rfl

end NatGateway.Configuration
