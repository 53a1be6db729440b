import NatGateway.Configuration.Store
import NatGateway.Proofs.Configuration.System

/-!
# Loading and saving

When a configuration is loaded and saved, step by step, and what that leaves behind: a folder with a
file in it that holds the document, from which the configuration can be loaded again. The choice of
the folder does not change by loading, so that it is found again.
-/

namespace NatGateway.Configuration

open NatGateway.Text (Bytes utf8Bytes)
open NatGateway.Yaml (Value)

variable {σ α β : Type} {format : Format} {system after : System} {configuration : Configuration}
  {given folder : String} {location : Location} {content : Bytes} {document : Value}
  {error : ConfigurationError}

/-! ## Operations that may fail -/

/-- What an operation gives, and what is there after it. -/
def Action.runFrom (action : Action σ α) (state : σ) : Except ConfigurationError α × σ :=
  action.run.run state

/-- An operation that does nothing gives its value. -/
theorem pure_runFrom (value : α) (state : σ) :
    (pure value : Action σ α).runFrom state = (.ok value, state) := rfl

/-- What is there is given, and stays. -/
theorem get_runFrom (state : σ) : (get : Action σ σ).runFrom state = (.ok state, state) := rfl

/-- After one operation the next one goes on from what is there, unless the first one failed. -/
theorem bind_runFrom (first : Action σ α) (next : α → Action σ β) (state : σ) :
    Action.runFrom (first >>= next) state =
      match first.runFrom state with
      | (.ok result, middle) => (next result).runFrom middle
      | (.error error, middle) => (.error error, middle) := by
  change ExceptT.bindCont next (first.runFrom state).1 (first.runFrom state).2 = _
  cases first.runFrom state with
  | mk outcome middle => cases outcome <;> rfl

/-- Two operations succeed if the first one does, and the second one on what it left behind. -/
theorem bind_runFrom_eq_ok_iff {first : Action σ α} {next : α → Action σ β} {state final : σ}
    {value : β} : Action.runFrom (first >>= next) state = (.ok value, final) ↔
      ∃ result middle, first.runFrom state = (.ok result, middle) ∧
        (next result).runFrom middle = (.ok value, final) := by
  rw [bind_runFrom]
  cases first.runFrom state with
  | mk outcome middle =>
    cases outcome with
    | error error => simp
    | ok result => simp [and_assoc]

section

variable {each : α → Action σ Unit} {first : α} {front rest : List α} {state final : σ}

/-- Operations along a list succeed if the first one does, and the others after it. -/
theorem forM_cons_eq_ok_iff : Action.runFrom ((first :: rest).forM each) state = (.ok (), final) ↔
    ∃ middle, (each first).runFrom state = (.ok (), middle) ∧
      Action.runFrom (rest.forM each) middle = (.ok (), final) := by
  change Action.runFrom (each first >>= fun _ => rest.forM each) state = _ ↔ _
  rw [bind_runFrom_eq_ok_iff]
  exact ⟨fun ⟨_, middle, h⟩ => ⟨middle, h⟩, fun ⟨middle, h⟩ => ⟨(), middle, h⟩⟩

/-- Operations along a list succeed if those in front do, and the others after them. -/
theorem forM_append_eq_ok_iff : Action.runFrom ((front ++ rest).forM each) state = (.ok (), final) ↔
    ∃ middle, Action.runFrom (front.forM each) state = (.ok (), middle) ∧
      Action.runFrom (rest.forM each) middle = (.ok (), final) := by
  induction front generalizing state with
  | nil =>
    constructor
    · exact fun h => ⟨state, rfl, h⟩
    · rintro ⟨_, hnil, h⟩
      cases hnil
      exact h
  | cons first front ih =>
    simp only [List.cons_append, forM_cons_eq_ok_iff, ih]
    constructor
    · rintro ⟨next, hfirst, middle, hfront, hrest⟩
      exact ⟨middle, ⟨next, hfirst, hfront⟩, hrest⟩
    · rintro ⟨middle, ⟨next, hfirst, hfront⟩, hrest⟩
      exact ⟨next, hfirst, middle, hfront, hrest⟩

/-- Operations along a list fail if one of them does behind others that succeed. -/
theorem forM_eq_error_iff {list : List α} :
    Action.runFrom (list.forM each) state = (.error error, final) ↔
      ∃ front item back middle, list = front ++ item :: back ∧
        Action.runFrom (front.forM each) state = (.ok (), middle) ∧
        (each item).runFrom middle = (.error error, final) := by
  induction list generalizing state with
  | nil =>
    refine iff_of_false nofun ?_
    rintro ⟨front, item, back, _, hlist, _⟩
    exact absurd hlist.symm (List.append_ne_nil_of_right_ne_nil front (List.cons_ne_nil item back))
  | cons first rest ih =>
    constructor
    · intro h
      change Action.runFrom (each first >>= fun _ => rest.forM each) state = _ at h
      rw [bind_runFrom] at h
      cases hfirst : (each first).runFrom state with
      | mk outcome next =>
        cases outcome with
        | error other =>
          rw [hfirst] at h
          cases h
          exact ⟨[], first, rest, state, rfl, rfl, hfirst⟩
        | ok _ =>
          simp only [hfirst] at h
          obtain ⟨front, item, back, middle, rfl, hfront, hitem⟩ := ih.1 h
          exact ⟨first :: front, item, back, middle, rfl,
            forM_cons_eq_ok_iff.2 ⟨next, hfirst, hfront⟩, hitem⟩
    · rintro ⟨front, item, back, middle, hlist, hfront, hitem⟩
      change Action.runFrom (each first >>= fun _ => rest.forM each) state = _
      rw [bind_runFrom]
      rcases List.append_eq_cons_iff.1 hlist.symm with ⟨rfl, hback⟩ | ⟨front', rfl, hrest⟩
      · cases hback
        cases hfront
        simp only [hitem]
      · obtain ⟨next, hfirst, hothers⟩ := forM_cons_eq_ok_iff.1 hfront
        simp only [hfirst]
        exact ih.2 ⟨front', item, back, middle, hrest, hothers, hitem⟩

end

/-- A change of the surroundings succeeds if it is possible. -/
theorem attempt_runFrom (change : System → Option System) : (attempt change).runFrom system =
    match change system with
    | some system => (.ok (), system)
    | none => (.error .system, system) := by
  rw [attempt, bind_runFrom, get_runFrom]
  cases h : change system with
  | none => simp only [h]; rfl
  | some changed => simp only [h]; rfl

/-! ## Preparing the folder -/

/-- A system with a folder, which is made if there is nothing. -/
def withFolder (system : System) (folder : String) : Option System :=
  if system.hasPath folder then some system else system.makeFolders folder

/-- A system after a folder has been looked at, and a file written into it and taken away. -/
def probed (folder : String) (made : System) : Except ConfigurationError String × System :=
  if made.hasFolder folder then
    match made.writeIn folder ".write_test" (utf8Bytes "test") with
    | some written => (.ok folder, written.removeIn folder ".write_test")
    | none => (.error .system, made)
  else (.error .notFolder, made)

/-- Looking at a folder and trying it out. -/
theorem probe_runFrom (folder : String) (made : System) :
    Action.runFrom (do
      if !(← get).hasFolder folder then throw .notFolder
      attempt (·.writeIn folder ".write_test" (utf8Bytes "test"))
      modify (·.removeIn folder ".write_test")
      return folder) made = probed folder made := by
  rw [bind_runFrom, get_runFrom, probed]
  cases hfolder : made.hasFolder folder with
  | false => simp only [hfolder]; rfl
  | true =>
    simp only [hfolder, Bool.not_true, Bool.false_eq_true, if_false, if_true, bind_runFrom,
      attempt_runFrom]
    cases made.writeIn folder ".write_test" (utf8Bytes "test") with
    | none => rfl
    | some written => rfl

/-- Choosing the folder of a configuration and seeing to it, step by step. -/
theorem prepareFolder_runFrom : (prepareFolder given).runFrom system =
    match withFolder system (chosenFolder system given) with
    | some made => probed (chosenFolder system given) made
    | none => (.error .system, system) := by
  rw [prepareFolder, bind_runFrom, get_runFrom, withFolder]
  cases hpath : system.hasPath (chosenFolder system given) with
  | true =>
    simp only [bind_runFrom, get_runFrom, hpath]
    exact probe_runFrom (chosenFolder system given) system
  | false =>
    simp only [bind_runFrom, get_runFrom, hpath, attempt_runFrom, Bool.not_false, if_true]
    cases system.makeFolders (chosenFolder system given) with
    | none => rfl
    | some made => exact probe_runFrom (chosenFolder system given) made

/-- A folder that no folder is in the way of a file of is tried out by putting that file there and
taking it away. -/
theorem probed_of_folder {made : System} (hfolder : made.find? folder = some (location, .folder))
    (hprobe : made.entryAt? (location ++ [".write_test"]) ≠ some .folder) :
    probed folder made = (.ok folder,
      (made.put (location ++ [".write_test"]) (.file (utf8Bytes "test"))).remove
        (location ++ [".write_test"])) := by
  have hwrite : made.writeIn folder ".write_test" (utf8Bytes "test") = some _ :=
    (System.writeIn_eq_some_iff hfolder).2 ⟨hprobe, rfl⟩
  have hput : System.OnlyFiles [".write_test"] made _ :=
    System.onlyFiles_put (utf8Bytes "test") List.mem_cons_self hprobe
  rw [probed, if_pos (System.hasFolder_iff.2 ⟨location, hfolder⟩)]
  simp only [hwrite]
  rw [System.removeIn_of_folder (hput.find?_iff.2 hfolder)]

/-- A folder that has been tried out is one, and no folder is in the way of the file. -/
theorem exists_folder_of_probed {made : System} {result : String}
    (h : probed folder made = (.ok result, after)) :
    ∃ location, made.find? folder = some (location, .folder) ∧
      made.entryAt? (location ++ [".write_test"]) ≠ some .folder := by
  rw [probed] at h
  split at h
  · next hfolder =>
    obtain ⟨location, hlocation⟩ := System.hasFolder_iff.1 hfolder
    split at h
    · next written hwritten =>
      exact ⟨location, hlocation, ((System.writeIn_eq_some_iff hlocation).1 hwritten).1⟩
    · cases h
  · cases h

/-- Trying out a folder changes nothing but the file that is taken away again. -/
theorem onlyFiles_probed {made : System} {result : String}
    (h : probed folder made = (.ok result, after)) :
    result = folder ∧ System.OnlyFiles [".write_test"] made after := by
  obtain ⟨location, hfolder, hprobe⟩ := exists_folder_of_probed h
  rw [probed_of_folder hfolder hprobe, Prod.mk.injEq, Except.ok.injEq] at h
  obtain ⟨rfl, rfl⟩ := h
  have hput : System.OnlyFiles [".write_test"] made _ :=
    System.onlyFiles_put (utf8Bytes "test") List.mem_cons_self hprobe
  refine ⟨rfl, hput.trans (System.onlyFiles_remove List.mem_cons_self ?_)⟩
  rw [System.entryAt?_put_self (List.concat_ne_nil _ _)]
  exact nofun

/-! ## Saving -/

/-- A configuration is saved if its document can be written, and the file too. -/
theorem save_eq_ok_iff : (configuration.save format).runFrom system = (.ok (), after) ↔
    ∃ text, format.write configuration.document = some text ∧
      system.writeIn configuration.folder fileName (utf8Bytes text) = some after := by
  rw [save]
  cases format.write configuration.document with
  | none => exact ⟨nofun, nofun⟩
  | some text =>
    simp only [attempt_runFrom, Option.some.injEq, exists_eq_left']
    cases system.writeIn configuration.folder fileName (utf8Bytes text) with
    | none => exact ⟨nofun, nofun⟩
    | some written => simp

/-- A configuration is not saved if its document cannot be written, or the file cannot; the system stays
as it is. -/
theorem save_eq_error_iff : (configuration.save format).runFrom system = (.error error, after) ↔
    after = system ∧
      (error = .document ∧ format.write configuration.document = none ∨
        error = .system ∧ ∃ text, format.write configuration.document = some text ∧
          system.writeIn configuration.folder fileName (utf8Bytes text) = none) := by
  rw [save]
  cases format.write configuration.document with
  | none =>
    change (Except.error .document, system) = (Except.error error, after) ↔ _
    simp [eq_comm, and_comm]
  | some text =>
    simp only [attempt_runFrom, Option.some.injEq, exists_eq_left', reduceCtorEq, and_false, false_or]
    cases system.writeIn configuration.folder fileName (utf8Bytes text) with
    | none => simp [eq_comm, and_comm]
    | some written => simp

/-- A system with a folder, and in it a file of a configuration with some content. -/
structure Stored (system : System) (folder : String) (location : Location) (content : Bytes) :
    Prop where
  folder : system.find? folder = some (location, .folder)
  file : system.entryAt? (location ++ [fileName]) = some (.file content)
  probe : system.entryAt? (location ++ [".write_test"]) ≠ some .folder

/-- The name of the file is a step into the folder. -/
theorem isStep_fileName : System.IsStep fileName := by
  constructor <;> decide

/-- The file of a configuration holds the content. -/
theorem Stored.content? (h : Stored system folder location content) :
    system.content? (System.join folder fileName) = some content :=
  (System.content?_join_eq_some_iff h.folder isStep_fileName).2 h.file

/-- Saving a configuration puts its text into the file. -/
theorem stored_of_save (hfolder : system.find? configuration.folder = some (location, .folder))
    (hprobe : system.entryAt? (location ++ [".write_test"]) ≠ some .folder)
    (h : (configuration.save format).runFrom system = (.ok (), after)) :
    ∃ text, format.write configuration.document = some text ∧
      Stored after configuration.folder location (utf8Bytes text) ∧
      System.OnlyFiles [fileName] system after := by
  obtain ⟨text, hwrite, hafter⟩ := save_eq_ok_iff.1 h
  obtain ⟨hfile, rfl⟩ := (System.writeIn_eq_some_iff hfolder).1 hafter
  have hput : System.OnlyFiles [fileName] system _ :=
    System.onlyFiles_put (utf8Bytes text) List.mem_cons_self hfile
  refine ⟨text, hwrite, ⟨hput.find?_iff.2 hfolder, ?_, mt (hput.folders _).1 hprobe⟩, hput⟩
  exact System.entryAt?_put_self (List.concat_ne_nil _ _)

/-- Where one configuration is stored another one can be saved, if its document can be written. -/
theorem Stored.exists_save {text : String} (configuration : Configuration)
    (h : Stored system configuration.folder location content)
    (hwrite : format.write configuration.document = some text) :
    ∃ after, (configuration.save format).runFrom system = (.ok (), after) ∧
      Stored after configuration.folder location (utf8Bytes text) := by
  have hfile : system.entryAt? (location ++ [fileName]) ≠ some .folder := by
    rw [h.file]
    exact nofun
  obtain ⟨after, hafter⟩ : ∃ after, (configuration.save format).runFrom system = (.ok (), after) :=
    ⟨_, save_eq_ok_iff.2 ⟨text, hwrite, (System.writeIn_eq_some_iff h.folder).2 ⟨hfile, rfl⟩⟩⟩
  obtain ⟨written, hwritten, hstored, _⟩ := stored_of_save h.folder h.probe hafter
  rw [hwrite, Option.some.injEq] at hwritten
  subst hwritten
  exact ⟨after, hafter, hstored⟩

/-! ## Loading -/

/-- A folder is prepared if it exists or can be made, and can be tried out. -/
theorem prepareFolder_eq_ok_iff : (prepareFolder given).runFrom system = (.ok folder, after) ↔
    folder = chosenFolder system given ∧ ∃ made, withFolder system folder = some made ∧
      probed folder made = (.ok folder, after) := by
  rw [prepareFolder_runFrom]
  constructor
  · intro h
    split at h
    · next made hmade =>
      obtain ⟨rfl, _⟩ := onlyFiles_probed h
      exact ⟨rfl, made, hmade, h⟩
    · cases h
  · rintro ⟨rfl, made, hmade, hprobed⟩
    simp only [hmade, hprobed]

/-- A configuration is loaded if its folder can be prepared, its document loaded, and both saved. -/
theorem load_eq_ok_iff : (load format given).runFrom system = (.ok configuration, after) ↔
    ∃ ready, (prepareFolder given).runFrom system = (.ok configuration.folder, ready) ∧
      loaded format (ready.content? (System.join configuration.folder fileName)) ready.environment =
        .ok configuration.document ∧
      (configuration.save format).runFrom ready = (.ok (), after) := by
  have hlift : ∀ (outcome : Except ConfigurationError Value) (system : System),
      (liftM outcome : Action System Value).runFrom system = (outcome, system) := by
    intro outcome system
    cases outcome <;> rfl
  rw [load]
  simp only [bind_runFrom_eq_ok_iff, get_runFrom, pure_runFrom, hlift, Prod.mk.injEq, Except.ok.injEq]
  constructor
  · rintro ⟨folder, ready, hprepare, _, _, ⟨rfl, rfl⟩, document, _, ⟨hloaded, rfl⟩, _, _, hsave,
      rfl, rfl⟩
    exact ⟨ready, hprepare, hloaded, hsave⟩
  · rintro ⟨ready, hprepare, hloaded, hsave⟩
    exact ⟨configuration.folder, ready, hprepare, ready, ready, ⟨rfl, rfl⟩, configuration.document,
      ready, ⟨hloaded, rfl⟩, (), after, hsave, rfl, rfl⟩

/-! ### The folder -/

/-- Seeing to a folder changes no variables. -/
theorem withFolder_environment {made : System} (h : withFolder system folder = some made) :
    made.environment = system.environment := by
  rw [withFolder] at h
  split at h
  · cases h
    rfl
  · exact System.makeFoldersFrom_environment h

/-- A folder that exists needs not be made. -/
theorem withFolder_of_find? (h : system.find? folder = some (location, .folder)) :
    withFolder system folder = some system := by
  rw [withFolder, if_pos (System.hasPath_of_find? h)]

/-- The names of the files that loading and saving change. -/
def ownFiles : List String := [fileName, ".write_test"]

/-- Whether the usual folder exists here does not depend on the files of configurations. -/
theorem hasPath_usualFolder (h : System.OnlyFiles ownFiles system after) :
    after.hasPath usualFolder = system.hasPath usualFolder := by
  have husual : System.IsStep usualFolder := by
    constructor <;> decide
  rw [System.hasPath_of_isStep husual, System.hasPath_of_isStep husual, h.current,
    h.others system.current usualFolder (by decide)]

/-- A folder that has been chosen and seen to is chosen again when only files have changed. -/
theorem chosenFolder_again {made : System}
    (hmade : withFolder system (chosenFolder system given) = some made)
    (hafter : System.OnlyFiles ownFiles made after)
    (hfolder : after.find? (chosenFolder system given) = some (location, .folder)) :
    chosenFolder after given = chosenFolder system given := by
  have henvironment : after.environment = system.environment :=
    hafter.environment.trans (withFolder_environment hmade)
  have hhome : homeFolder? after = homeFolder? system := by
    rw [homeFolder?, homeFolder?, henvironment]
  have hpath := System.hasPath_of_find? hfolder
  rw [withFolder] at hmade
  rw [chosenFolder] at hpath hmade ⊢
  rw [chosenFolder, henvironment, hhome]
  split
  · rfl
  · next hgiven =>
    rw [if_neg hgiven] at hpath hmade
    cases hvariable : system.environment.lookup folderVariable with
    | some folder => rfl
    | none =>
      simp only [hvariable] at hpath hmade ⊢
      by_cases husual : system.hasPath usualFolder = true
      · rw [if_pos husual] at hpath ⊢
        rw [if_pos hpath]
      rw [if_neg husual] at hpath hmade ⊢
      cases hhome : homeFolder? system with
      | none =>
        rw [hhome] at hpath
        exact if_pos hpath
      | some home =>
        simp only [hhome] at hpath hmade ⊢
        by_cases hexists : system.hasPath home = true
        · rw [if_pos hexists] at hpath hmade ⊢
          rw [if_pos hexists, Option.some.injEq] at hmade
          subst hmade
          rw [hasPath_usualFolder hafter, if_neg husual, if_pos hpath]
        · rw [if_neg hexists] at hpath ⊢
          rw [if_pos hpath]

/-- A folder that exists is chosen if it is given. -/
theorem chosenFolder_of_find? (h : system.find? folder = some (location, .folder)) :
    chosenFolder system folder = folder := by
  rw [chosenFolder, (System.find?_eq_folder_iff.1 h).1]
  rfl

/-! ### What loading leaves behind -/

/-- What is known of a configuration that has been loaded: it lives in the folder that is chosen for
what was given, before and after that, its document comes from the file if there is one, and it is
stored with its document as its text. -/
structure IsLoaded (format : Format) (given : String) (system : System) (configuration : Configuration)
    (after : System) : Prop where
  folder : configuration.folder = chosenFolder system given
  chosen : chosenFolder after given = configuration.folder
  environment : after.environment = system.environment
  source : ∃ file, loaded format file system.environment = .ok configuration.document ∧
    ∀ content, system.content? (System.join configuration.folder fileName) = some content →
      file = some content
  stored : ∃ location text, format.write configuration.document = some text ∧
    Stored after configuration.folder location (utf8Bytes text)

/-- All of this holds of a configuration that loading gives, and of what it leaves behind. -/
theorem isLoaded_of_load (h : (load format given).runFrom system = (.ok configuration, after)) :
    IsLoaded format given system configuration after := by
  obtain ⟨ready, hprepare, hloaded, hsave⟩ := load_eq_ok_iff.1 h
  obtain ⟨hchosen, made, hmade, hprobed⟩ := prepareFolder_eq_ok_iff.1 hprepare
  obtain ⟨location, hfolder, hprobe⟩ := exists_folder_of_probed hprobed
  obtain ⟨_, hready⟩ := onlyFiles_probed hprobed
  obtain ⟨text, hwrite, hstored, hafter⟩ := stored_of_save (hready.find?_iff.2 hfolder)
    (mt (hready.folders _).1 hprobe) hsave
  have hown : System.OnlyFiles ownFiles made after :=
    (hready.mono (by decide)).trans (hafter.mono (by decide))
  have henvironment := hready.environment.trans (withFolder_environment hmade)
  rw [hchosen] at hmade
  constructor
  case folder => exact hchosen
  case chosen =>
    rw [hchosen]
    exact chosenFolder_again hmade hown (hchosen ▸ hstored.folder)
  case environment => exact hown.environment.trans (withFolder_environment hmade)
  case stored => exact ⟨location, text, hwrite, hstored⟩
  case source =>
    refine ⟨_, henvironment ▸ hloaded, fun content hcontent => ?_⟩
    -- A folder with a file exists, so that it was not made, and trying it out left the file there.
    obtain ⟨place, hplace⟩ := System.exists_folder_of_content?
      (System.find?_eq_folder_iff.1 hfolder).1 isStep_fileName hcontent
    rw [← hchosen, withFolder_of_find? hplace] at hmade
    cases hmade
    rw [System.content?_join_eq_some_iff hfolder isStep_fileName,
      ← hready.others location fileName (by decide)] at hcontent
    exact (System.content?_join_eq_some_iff (hready.find?_iff.2 hfolder) isStep_fileName).2 hcontent

/-- A configuration that is stored is loaded from its folder, and stored again. -/
theorem Stored.load {text : String} (h : Stored system folder location content)
    (hchosen : chosenFolder system given = folder)
    (hloaded : loaded format (some content) system.environment = .ok document)
    (hwrite : format.write document = some text) :
    ∃ after, (load format given).runFrom system = (.ok ⟨folder, document⟩, after) ∧
      Stored after folder location (utf8Bytes text) := by
  have hprobed := probed_of_folder h.folder h.probe
  obtain ⟨_, hready⟩ := onlyFiles_probed hprobed
  have hstored : Stored _ folder location content :=
    ⟨hready.find?_iff.2 h.folder, (hready.others location fileName (by decide)).trans h.file,
      mt (hready.folders _).1 h.probe⟩
  obtain ⟨after, hsave, hafter⟩ := Stored.exists_save ⟨folder, document⟩ hstored hwrite
  refine ⟨after, load_eq_ok_iff.2 ⟨_, ?_, ?_, hsave⟩, hafter⟩
  · exact prepareFolder_eq_ok_iff.2
      ⟨hchosen.symm, system, withFolder_of_find? h.folder, hprobed⟩
  · rw [hstored.content?, hready.environment]
    exact hloaded

end NatGateway.Configuration
