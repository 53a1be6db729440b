import NatGateway.Proofs.Configuration.Reloading

/-!
# Changing configurations

Putting a value at a path changes the document there and saves it. A configuration that is loaded
where no variables change settings is live: its document is normal and saved in a folder that is
chosen again. Putting normal values into it, as many as one likes, keeps it so.
-/

namespace NatGateway.Configuration

open NatGateway.Text (Bytes utf8Bytes)
open NatGateway.Yaml (Value)

variable {format : Format} {given : String} {environment : List (String × String)}
  {store after : Store} {document value : Value} {path : List String}

/-! ## Putting values -/

/-- Saving a stored configuration saves it into its system. -/
theorem save_runFrom : (Store.save format).runFrom store =
    (((store.configuration.save format).runFrom store.system).1,
      { store with system := ((store.configuration.save format).runFrom store.system).2 }) := by
  rw [Store.save, bind_runFrom, get_runFrom]
  change Action.runFrom (do
    set { store with system := ((store.configuration.save format).runFrom store.system).2 }
    Store.save.liftExcept ((store.configuration.save format).runFrom store.system).1) store = _
  cases ((store.configuration.save format).runFrom store.system).1 with
  | ok value => rfl
  | error error => rfl

/-- A stored configuration is saved where it is if its document is saved into its system. -/
theorem store_save_eq_ok_iff : (Store.save format).runFrom store = (.ok (), after) ↔
    after.configuration = store.configuration ∧
      (store.configuration.save format).runFrom store.system = (.ok (), after.system) := by
  rw [save_runFrom, Prod.mk.injEq]
  constructor
  · rintro ⟨houtcome, rfl⟩
    exact ⟨rfl, Prod.ext houtcome rfl⟩
  · rintro ⟨hconfiguration, hsave⟩
    obtain ⟨system, configuration⟩ := after
    cases hconfiguration
    rw [hsave]
    exact ⟨rfl, rfl⟩

/-- A document is changed at a path if it can be updated there, and nothing is saved. -/
theorem change_eq_ok_iff : (Store.change path value).runFrom store = (.ok (), after) ↔
    ∃ document, update store.configuration.document path value = .ok document ∧
      after = ⟨store.system, ⟨store.configuration.folder, document⟩⟩ := by
  rw [Store.change, bind_runFrom, get_runFrom]
  cases hupdate : update store.configuration.document path value with
  | error error =>
    simp only [hupdate]
    exact iff_of_false nofun nofun
  | ok document =>
    simp only [hupdate]
    constructor
    · intro h
      cases h
      exact ⟨document, rfl, rfl⟩
    · rintro ⟨_, hdocument, rfl⟩
      cases hdocument
      rfl

/-- A value is put at a path if the document can be changed there, and saved. -/
theorem put_eq_ok_iff :
    (Store.put format path value).runFrom store = (.ok (), after) ↔
      ∃ document, update store.configuration.document path value = .ok document ∧
        after.configuration = ⟨store.configuration.folder, document⟩ ∧
        (after.configuration.save format).runFrom store.system = (.ok (), after.system) := by
  rw [Store.put, bind_runFrom_eq_ok_iff]
  constructor
  · rintro ⟨_, middle, hchange, hsave⟩
    obtain ⟨document, hupdate, rfl⟩ := change_eq_ok_iff.1 hchange
    obtain ⟨hconfiguration, hsaved⟩ := store_save_eq_ok_iff.1 hsave
    exact ⟨document, hupdate, hconfiguration, hconfiguration ▸ hsaved⟩
  · rintro ⟨document, hupdate, hconfiguration, hsave⟩
    exact ⟨(), _, change_eq_ok_iff.2 ⟨document, hupdate, rfl⟩,
      store_save_eq_ok_iff.2 ⟨hconfiguration, hconfiguration ▸ hsave⟩⟩

/-- A stored configuration is saved where it is if its document can be written. -/
theorem Stored.exists_store_save {location : Location} {content : Bytes} {text : String}
    (h : Stored store.system store.configuration.folder location content)
    (hwrite : format.write store.configuration.document = some text) :
    ∃ after, (Store.save format).runFrom store = (.ok (), after) ∧
      after.configuration = store.configuration ∧
      Stored after.system after.configuration.folder location (utf8Bytes text) := by
  obtain ⟨system, hsave, hstored⟩ := Stored.exists_save store.configuration h hwrite
  exact ⟨⟨system, store.configuration⟩, store_save_eq_ok_iff.2 ⟨rfl, hsave⟩, rfl, hstored⟩

/-- A value is put into a stored configuration if its document can be changed and written. -/
theorem Stored.exists_put {location : Location} {content : Bytes} {text : String}
    (h : Stored store.system store.configuration.folder location content)
    (hupdate : update store.configuration.document path value = .ok document)
    (hwrite : format.write document = some text) :
    ∃ after, (Store.put format path value).runFrom store = (.ok (), after) ∧
      after.configuration = ⟨store.configuration.folder, document⟩ ∧
      Stored after.system after.configuration.folder location (utf8Bytes text) := by
  obtain ⟨after, hsave, hafter⟩ : ∃ after,
      (Store.save format).runFrom ⟨store.system, ⟨store.configuration.folder, document⟩⟩ =
          (.ok (), after) ∧
        after.configuration = ⟨store.configuration.folder, document⟩ ∧
        Stored after.system after.configuration.folder location (utf8Bytes text) :=
    Stored.exists_store_save h hwrite
  exact ⟨after, bind_runFrom_eq_ok_iff.2 ⟨(), _, change_eq_ok_iff.2 ⟨document, hupdate, rfl⟩, hsave⟩,
    hafter⟩

/-- Values that are put at paths one after another. -/
def putAll (format : Format) (updates : List Update) : Action Store Unit :=
  updates.forM fun update => Store.put format update.1 update.2

/-! ## Live configurations -/

/-- Whether a configuration lives in a folder that is chosen for what is given, with a normal
document that is saved there. -/
structure IsLive (format : Format) (given : String) (environment : List (String × String))
    (store : Store) : Prop where
  normal : IsNormal store.configuration.document
  environment_eq : store.system.environment = environment
  chosen : chosenFolder store.system given = store.configuration.folder
  stored : ∃ location text, format.write store.configuration.document = some text ∧
    Stored store.system store.configuration.folder location (utf8Bytes text)

/-- A configuration that is loaded where no variables change settings is live. -/
theorem isLive_of_load {system loaded : System} {configuration : Configuration}
    (h : (load format given).runFrom system = (.ok configuration, loaded))
    (henvironment : HasNoSettings system.environment) :
    IsLive format given system.environment ⟨loaded, configuration⟩ := by
  have hafter := isLoaded_of_load h
  obtain ⟨file, hloaded, _⟩ := hafter.source
  refine ⟨?_, hafter.environment, hafter.chosen, hafter.stored⟩
  obtain ⟨external, _, hdocument⟩ := loaded_eq_ok_iff.1 hloaded
  rw [updatesOf_eq_nil henvironment] at hdocument
  change IsNormal configuration.document
  rw [hdocument]
  exact isNormal_defaults.merge (isNormal_lowerKeys external)

/-- Putting a normal value at a path keeps a configuration live. -/
theorem IsLive.put (h : IsLive format given environment store) (hvalue : IsNormal value)
    (hput : (Store.put format path value).runFrom store = (.ok (), after)) :
    IsLive format given environment after ∧
      after.configuration.folder = store.configuration.folder := by
  obtain ⟨document, hdocument, hconfiguration, hsave⟩ := put_eq_ok_iff.1 hput
  obtain ⟨location, _, _, hstored⟩ := h.stored
  have hfolder : after.configuration.folder = store.configuration.folder := by rw [hconfiguration]
  have hnormal : IsNormal (updated store.configuration.document path value) := h.normal.updated hvalue
  rw [updated, hdocument] at hnormal
  obtain ⟨text, hwrite, hafter, hfiles⟩ :=
    stored_of_save (hfolder ▸ hstored.folder) hstored.probe hsave
  refine ⟨⟨?_, hfiles.environment.trans h.environment_eq, ?_, location, text, hwrite, hafter⟩,
    hfolder⟩
  · rw [hconfiguration]
    exact hnormal
  · have hsame : chosenFolder after.system given = chosenFolder store.system given :=
      chosenFolder_again (withFolder_of_find? (h.chosen ▸ hstored.folder))
        (hfiles.mono (by decide)) (h.chosen ▸ hfolder ▸ hafter.folder)
    rw [hsame, h.chosen, hfolder]

/-- Putting normal values at paths one after another keeps a configuration live. -/
theorem IsLive.putAll {updates : List Update} (h : IsLive format given environment store)
    (hvalues : ∀ update ∈ updates, IsNormal update.2)
    (hputs : (putAll format updates).runFrom store = (.ok (), after)) :
    IsLive format given environment after ∧
      after.configuration.folder = store.configuration.folder := by
  induction updates generalizing store with
  | nil =>
    cases hputs
    exact ⟨h, rfl⟩
  | cons update updates ih =>
    rw [List.forall_mem_cons] at hvalues
    obtain ⟨middle, hput, hrest⟩ := forM_cons_eq_ok_iff.1 hputs
    obtain ⟨hmiddle, hfolder⟩ := h.put hvalues.1 hput
    obtain ⟨hafter, hsame⟩ := ih hmiddle hvalues.2 hrest
    exact ⟨hafter, hsame.trans hfolder⟩

end NatGateway.Configuration
