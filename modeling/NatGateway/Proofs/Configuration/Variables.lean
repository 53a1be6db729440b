import NatGateway.Proofs.Configuration.Reloading
import NatGateway.Proofs.Configuration.Reordering
import NatGateway.Proofs.Text.Cut

/-!
# Variables in any order

Variables whose paths are apart may be met in any order: the same configuration is loaded, up to the
order of entries. Each of them is found at its path, unless something that is no mapping is in the
way there, and at the paths apart from all of them the document reads as if there were none.

What a system does with its files does not depend on its variables. So the folder is prepared as
before when they are met in another order, and the same file is read there.
-/

namespace NatGateway.Configuration

open NatGateway.Text (Bytes utf8Bytes)
open NatGateway.Yaml (Value)

variable {system after : System} {environment others : List (String × String)}
  {folder given name remainder : String} {location : Location} {rest : List String}

/-! ## Names of variables -/

/-- The path that the rest of the name of a variable spells, behind what such names begin with. -/
def pathOf (remainder : String) : List String := (splitPairs remainder.toList).map String.ofList

/-- A beginning that is there is dropped. -/
theorem dropAll_append {start cs : List Char} (h : start ≠ []) (fuel : Nat) :
    dropAll start (fuel + 1) (start ++ cs) = dropAll start fuel cs := by
  have hstart : start.isPrefixOf (start ++ cs) = true :=
    List.isPrefixOf_iff_prefix.2 (List.prefix_append start cs)
  simp [dropAll, hstart, h]

/-- Without the beginning nothing is dropped. -/
theorem dropAll_of_not_isPrefixOf {start cs : List Char} (h : start.isPrefixOf cs = false)
    (fuel : Nat) : dropAll start fuel cs = cs := by
  cases fuel with
  | zero => rfl
  | succ fuel => simp [dropAll, h]

/-- A variable changes the setting that the rest of its name spells. -/
theorem variablePath?_append (h : Text.beginsWith remainder settingVariable = false) :
    variablePath? (settingVariable ++ remainder) = some (pathOf remainder) := by
  have hbegins : Text.beginsWith (settingVariable ++ remainder) settingVariable = true := by
    rw [Text.beginsWith_iff, String.toList_append]
    exact List.prefix_append _ _
  have hstart : settingVariable.toList ≠ [] := by decide
  obtain ⟨fuel, hfuel⟩ : ∃ fuel, (settingVariable.toList ++ remainder.toList).length = fuel + 1 :=
    Nat.exists_eq_succ_of_ne_zero (by simp [settingVariable])
  rw [variablePath?, hbegins, String.toList_append]
  simp only [Bool.not_true, Bool.false_eq_true, if_false, hfuel]
  rw [dropAll_append hstart, dropAll_of_not_isPrefixOf h]
  rfl

/-! ## Loading under other variables -/

/-- The variables that choose the folder have the same values. -/
def ChooseAlike (environment others : List (String × String)) : Prop :=
  others.lookup folderVariable = environment.lookup folderVariable ∧
    others.lookup "HOME" = environment.lookup "HOME"

/-- The same folder is chosen. -/
theorem chosenFolder_under (h : ChooseAlike system.environment others) (given : String) :
    chosenFolder (system.under others) given = chosenFolder system given := by
  have hfolder : (system.under others).environment.lookup folderVariable =
      system.environment.lookup folderVariable := h.1
  have hhome : homeFolder? (system.under others) = homeFolder? system := by
    rw [homeFolder?, homeFolder?]
    have hvariable : (system.under others).environment.lookup "HOME" =
      system.environment.lookup "HOME" := h.2
    rw [hvariable]
  simp only [chosenFolder, hfolder, hhome, System.hasPath_under]

/-- The same folder is seen to. -/
theorem withFolder_under :
    withFolder (system.under others) folder = (withFolder system folder).map (·.under others) := by
  rw [withFolder, withFolder, System.hasPath_under]
  split
  · rfl
  · exact System.makeFoldersFrom_under (system.origin folder)

/-- A folder is tried out in the same way. -/
theorem probed_under : probed folder (system.under others) =
    ((probed folder system).1, (probed folder system).2.under others) := by
  rw [probed, probed, System.hasFolder_under, System.writeIn_under]
  split
  · cases system.writeIn folder ".write_test" (utf8Bytes "test") with
    | none => rfl
    | some written =>
      simp only [Option.map_some, System.removeIn_under]
  · rfl

/-- The same folder is prepared, and what is left behind differs in the variables only. -/
theorem prepareFolder_under (h : ChooseAlike system.environment others)
    (hprepare : (prepareFolder given).runFrom system = (.ok folder, after)) :
    (prepareFolder given).runFrom (system.under others) = (.ok folder, after.under others) := by
  rw [prepareFolder_eq_ok_iff] at hprepare ⊢
  obtain ⟨hchosen, made, hmade, hprobed⟩ := hprepare
  refine ⟨by rw [chosenFolder_under h, hchosen], made.under others, ?_, ?_⟩
  · rw [withFolder_under, hmade, Option.map_some]
  · rw [probed_under, hprobed]

/-- Preparing a folder changes no variables. -/
theorem prepareFolder_environment
    (h : (prepareFolder given).runFrom system = (.ok folder, after)) :
    after.environment = system.environment := by
  obtain ⟨_, made, hmade, hprobed⟩ := prepareFolder_eq_ok_iff.1 h
  exact (onlyFiles_probed hprobed).2.environment.trans (withFolder_environment hmade)

/-! ## The document below the variables -/

variable {format : Format} {configuration : Configuration} {document merged : Value}

/-- Whether a document is what the file of a configuration gives over the defaults, before variables
are laid over it. -/
def IsMerged (format : Format) (given : String) (system : System) (merged : Value) : Prop :=
  ∃ folder ready, (prepareFolder given).runFrom system = (.ok folder, ready) ∧
    loaded format (ready.content? (System.join folder fileName)) [] = .ok merged

/-- A document is loaded by running the updates of the variables on the merged one. -/
theorem loaded_eq_ok_iff_merged {file : Option Bytes} :
    loaded format file environment = .ok document ↔
      ∃ merged, loaded format file [] = .ok merged ∧
        document = run (updatesOf format environment) merged := by
  simp only [loaded_eq_ok_iff]
  constructor
  · rintro ⟨external, hexternal, rfl⟩
    exact ⟨_, ⟨external, hexternal, rfl⟩, rfl⟩
  · rintro ⟨_, ⟨external, hexternal, rfl⟩, rfl⟩
    exact ⟨external, hexternal, rfl⟩

/-- A merged document is normal. -/
theorem IsMerged.isNormal (h : IsMerged format given system merged) : IsNormal merged := by
  obtain ⟨folder, ready, _, hloaded⟩ := h
  obtain ⟨external, _, hmerged⟩ := loaded_eq_ok_iff.1 hloaded
  rw [hmerged]
  exact isNormal_defaults.merge (isNormal_lowerKeys external)

/-- A configuration is loaded again under other variables, if the document that they lead to can be
written. -/
theorem exists_load_under
    (h : (load format given).runFrom system = (.ok configuration, after))
    (hchoose : ChooseAlike system.environment others) (hmerged : IsMerged format given system merged)
    {text : String} (hwrite : format.write (run (updatesOf format others) merged) = some text) :
    ∃ last, (load format given).runFrom (system.under others) =
      (.ok ⟨configuration.folder, run (updatesOf format others) merged⟩, last) := by
  obtain ⟨ready, hprepare, hloaded, hsave⟩ := load_eq_ok_iff.1 h
  obtain ⟨folder, found, hfound, hnone⟩ := hmerged
  rw [hprepare, Prod.mk.injEq, Except.ok.injEq] at hfound
  obtain ⟨rfl, rfl⟩ := hfound
  obtain ⟨_, _, hwritten⟩ := save_eq_ok_iff.1 hsave
  obtain ⟨last, hlast⟩ := System.exists_writeIn hwritten (utf8Bytes text)
  refine ⟨last.under others, load_eq_ok_iff.2 ⟨ready.under others, ?_, ?_, ?_⟩⟩
  · exact prepareFolder_under hchoose hprepare
  · rw [System.content?_under]
    exact loaded_eq_ok_iff_merged.2 ⟨merged, hnone, rfl⟩
  · refine save_eq_ok_iff.2 ⟨text, hwrite, ?_⟩
    rw [System.writeIn_under, hlast, Option.map_some]

/-- What is loaded are the updates of the variables run on the merged document. -/
theorem exists_isMerged (h : (load format given).runFrom system = (.ok configuration, after)) :
    ∃ merged, IsMerged format given system merged ∧
      configuration.document = run (updatesOf format system.environment) merged := by
  obtain ⟨ready, hprepare, hloaded, _⟩ := load_eq_ok_iff.1 h
  rw [prepareFolder_environment hprepare] at hloaded
  obtain ⟨merged, hmerged, hdocument⟩ := loaded_eq_ok_iff_merged.1 hloaded
  exact ⟨merged, ⟨_, ready, hprepare, hmerged⟩, hdocument⟩

/-- There is one merged document, whatever variables change settings. -/
theorem IsMerged.document_eq (h : IsMerged format given system merged)
    (hchoose : ChooseAlike system.environment others)
    (hload : (load format given).runFrom (system.under others) = (.ok configuration, after)) :
    configuration.document = run (updatesOf format others) merged := by
  obtain ⟨found, ⟨folder, ready, hprepare, hfound⟩, hdocument⟩ := exists_isMerged hload
  obtain ⟨same, prepared, hsame, hmerged⟩ := h
  rw [prepareFolder_under hchoose hsame, Prod.mk.injEq, Except.ok.injEq] at hprepare
  obtain ⟨rfl, rfl⟩ := hprepare
  rw [System.content?_under, hmerged, Except.ok.injEq] at hfound
  rw [hdocument, hfound]
  rfl

/-! ## Variables in another order, and none -/

/-- Whether variables are others met in another order, so that each name has the value that it had. -/
structure IsReordering (environment others : List (String × String)) : Prop where
  perm : environment.Perm others
  lookup_eq : ∀ name, others.lookup name = environment.lookup name

/-- Where every name is set once, variables in any order are a reordering. -/
theorem isReordering_of_nodup (hperm : environment.Perm others)
    (hnodup : (environment.map Prod.fst).Nodup) : IsReordering environment others := by
  refine ⟨hperm, fun name => ?_⟩
  induction hperm with
  | nil => rfl
  | cons given _ ih =>
    obtain ⟨known, text⟩ := given
    rw [List.lookup_cons, List.lookup_cons, ih hnodup.of_cons]
  | swap first second rest =>
    obtain ⟨known, text⟩ := first
    obtain ⟨other, value⟩ := second
    have hne : other ≠ known := by
      rw [List.map_cons, List.map_cons, List.nodup_cons, List.mem_cons] at hnodup
      exact fun hsame => hnodup.1 (.inl hsame)
    simp only [List.lookup_cons]
    by_cases hknown : name = known
    · rw [hknown, beq_self_eq_true, beq_eq_false_iff_ne.2 hne.symm]
    · rw [beq_eq_false_iff_ne.2 hknown]
  | trans hfirst _ ih₁ ih₂ =>
    rw [ih₂ ((hfirst.map Prod.fst).nodup_iff.1 hnodup), ih₁ hnodup]

/-- In every order variables choose the same folder. -/
theorem IsReordering.chooseAlike (h : IsReordering environment others) :
    ChooseAlike environment others :=
  ⟨h.lookup_eq folderVariable, h.lookup_eq "HOME"⟩

/-- The variables that change no settings. -/
def withoutSettings (environment : List (String × String)) : List (String × String) :=
  environment.filter fun given => (variablePath? given.1).isNone

/-- What is left without the variables that change settings changes none. -/
theorem hasNoSettings_withoutSettings (environment : List (String × String)) :
    HasNoSettings (withoutSettings environment) := by
  intro entry hentry
  exact Option.isNone_iff_eq_none.1 (List.mem_filter.1 hentry).2

/-- A variable that changes no settings has the value that it has among all. -/
theorem lookup_withoutSettings (hname : variablePath? name = none) :
    (withoutSettings environment).lookup name = environment.lookup name := by
  induction environment with
  | nil => rfl
  | cons given rest ih =>
    obtain ⟨known, text⟩ := given
    rw [withoutSettings, List.filter_cons, ← withoutSettings]
    by_cases hsame : name = known
    · simp [← hsame, hname]
    · split
      · rw [List.lookup_cons, List.lookup_cons, ih]
      · rw [List.lookup_cons, beq_eq_false_iff_ne.2 hsame, ih]

/-- Without the variables that change settings the same folder is chosen. -/
theorem chooseAlike_withoutSettings (environment : List (String × String)) :
    ChooseAlike environment (withoutSettings environment) :=
  ⟨lookup_withoutSettings (by decide), lookup_withoutSettings (by decide)⟩

/-- A variable that changes a setting stands for the update of its path to its value. -/
theorem mem_updatesOf {text : String}
    (hmem : (settingVariable ++ remainder, text) ∈ environment)
    (hremainder : Text.beginsWith remainder settingVariable = false) :
    (pathOf remainder, variableValue format text) ∈ updatesOf format environment :=
  List.mem_filterMap.2 ⟨_, hmem, by rw [variablePath?_append hremainder]; rfl⟩

/-- Where the paths of the variables are apart, all orders of them give the same answers at all
paths. Each variable is found at its path unless the merged document holds something there that is
in the way, and at the paths apart from all variables the document reads as the merged one, which is
what is loaded without them. -/
theorem load_reordered
    (h : (load yaml given).runFrom system = (.ok configuration, after))
    (hapart : AreApart (updatesOf yaml system.environment)) :
    (∀ others, IsReordering system.environment others →
      ∃ again last, (load yaml given).runFrom (system.under others) = (.ok again, last) ∧
        again.folder = configuration.folder ∧
        ∀ path, SameAnswer (find configuration.document path) (find again.document path)) ∧
    ∃ merged, IsMerged yaml given system merged ∧
      (∀ remainder text, (settingVariable ++ remainder, text) ∈ system.environment →
        Text.beginsWith remainder settingVariable = false →
        ¬ IsBlocked merged (pathOf remainder) →
        find configuration.document (pathOf remainder) = .ok (variableValue yaml text)) ∧
      (∀ path, (∀ update ∈ updatesOf yaml system.environment, Apart path update.1) →
        ReadsAs (find merged path) (find configuration.document path)) ∧
      ∀ bare last, (load yaml given).runFrom (system.under (withoutSettings system.environment)) =
        (.ok bare, last) → bare.document = merged := by
  obtain ⟨merged, hmerged, hdocument⟩ := exists_isMerged h
  refine ⟨fun others hothers => ?_, merged, hmerged, ?_, ?_, ?_⟩
  · have hperm : (updatesOf yaml system.environment).Perm (updatesOf yaml others) :=
      hothers.perm.filterMap _
    have hreordered : Reordered configuration.document (run (updatesOf yaml others) merged) := by
      rw [hdocument]
      exact run_reordered hperm hapart hmerged.isNormal
    obtain ⟨_, _, _, hsave⟩ := load_eq_ok_iff.1 h
    obtain ⟨text, hwrite, _⟩ := save_eq_ok_iff.1 hsave
    have hwritable : Yaml.IsWritable false configuration.document :=
      Yaml.isSome_text?_iff.1 (Option.isSome_iff_exists.2 ⟨text, hwrite⟩)
    obtain ⟨again, hagain⟩ := Option.isSome_iff_exists.1
      (Yaml.isSome_text?_iff.2 (hreordered.isWritable hwritable))
    obtain ⟨last, hload⟩ := exists_load_under h hothers.chooseAlike hmerged hagain
    exact ⟨_, last, hload, rfl, hreordered.find⟩
  · intro remainder text hmem hremainder hfree
    rw [hdocument]
    exact find_run_of_mem hapart (mem_updatesOf hmem hremainder) hfree
  · intro path hpath
    rw [hdocument]
    exact readsAs_run hpath
  · intro bare last hbare
    rw [hmerged.document_eq (chooseAlike_withoutSettings system.environment) hbare,
      updatesOf_eq_nil (hasNoSettings_withoutSettings system.environment)]
    rfl

/-- Two variables that make the same new mapping and one that is blocked, met in two orders. -/
theorem load_reordered_newMapping :
    let environment := [("HOME", "/home"), ("PMONAT_CONFIG__NEW__A", "1"),
      ("PMONAT_CONFIG__new__B", "x: 2"), ("PMONAT_CONFIG__HOST__LOGGER__MIN_LEVEL__C", "3")]
    let system : System := {
      current := []
      environment := environment
      entries := [(["cfg"], .folder), (["cfg", "config.yaml"], .file (utf8Bytes "A: 5\n"))] }
    ∃ configuration after again last,
      (load yaml "cfg").runFrom system = (.ok configuration, after) ∧
      (load yaml "cfg").runFrom (system.under environment.reverse) = (.ok again, last) ∧
      (∀ path, SameAnswer (find configuration.document path) (find again.document path)) ∧
      find configuration.document ["new", "B"] = .ok (.mapping [(.string "x", integer 2)]) ∧
      find configuration.document ["a"] = .ok (integer 5) := by
  intro environment system
  let merged : Value := merge defaults (.mapping [(.string "a", integer 5)])
  have hchosen : chosenFolder system "cfg" = "cfg" := rfl
  have hstored : Stored system "cfg" ["cfg"] (utf8Bytes "A: 5\n") := by
    constructor <;> decide +kernel
  have hloaded : loaded yaml (some (utf8Bytes "A: 5\n")) environment =
      .ok (run (updatesOf yaml environment) merged) :=
    toOption_eq_some_iff.1 (by decide +kernel)
  obtain ⟨text, hwrite⟩ : ∃ text, yaml.write (run (updatesOf yaml environment) merged) = some text :=
    Option.isSome_iff_exists.1 (by decide +kernel)
  obtain ⟨after, hload, _⟩ := hstored.load hchosen hloaded hwrite
  -- Without the variables the merged document itself is loaded.
  let bare := system.under (withoutSettings environment)
  have hbareChosen : chosenFolder bare "cfg" = "cfg" := rfl
  have hbareStored : Stored bare "cfg" ["cfg"] (utf8Bytes "A: 5\n") := by
    constructor <;> decide +kernel
  have hbareLoaded : loaded yaml (some (utf8Bytes "A: 5\n")) bare.environment = .ok merged :=
    toOption_eq_some_iff.1 (by decide +kernel)
  obtain ⟨bareText, hbareWrite⟩ : ∃ text, yaml.write merged = some text :=
    Option.isSome_iff_exists.1 (by decide +kernel)
  obtain ⟨bareAfter, hbare, _⟩ := hbareStored.load hbareChosen hbareLoaded hbareWrite
  have hreordering : IsReordering environment environment.reverse :=
    isReordering_of_nodup (List.reverse_perm environment).symm (by decide)
  obtain ⟨horders, document, _, hvariables, hothers, hdocument⟩ :=
    load_reordered hload (by decide +kernel)
  obtain ⟨again, last, hagain, _, hanswers⟩ := horders _ hreordering
  have hsame : merged = document := hdocument _ bareAfter hbare
  rw [← hsame] at hvariables hothers
  refine ⟨_, after, again, last, hload, hagain, hanswers, ?_, ?_⟩
  · have hpath : pathOf "new__B" = ["new", "B"] := by decide
    have hvalue : variableValue yaml "x: 2" = .mapping [(.string "x", integer 2)] := by
      decide +kernel
    obtain ⟨written, hwritten⟩ : ∃ written, (update merged ["new", "B"] .null).toOption = some written :=
      Option.isSome_iff_exists.1 (by decide +kernel)
    have hfree : ¬ IsBlocked merged ["new", "B"] :=
      exists_update_iff.1 ⟨written, toOption_eq_some_iff.1 hwritten⟩
    rw [← hpath] at hfree ⊢
    rw [← hvalue]
    exact hvariables "new__B" "x: 2" (by decide) (by decide) hfree
  · have hread := hothers ["a"] (by decide +kernel)
    exact hread.ok_iff.2 (toOption_eq_some_iff.1 (by decide +kernel))

end NatGateway.Configuration
