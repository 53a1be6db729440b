import NatGateway.Proofs.Configuration.Effects
import NatGateway.Proofs.Mapping.Preferences

/-!
# Writes that fail

Nothing is taken back when a write to a configuration fails. A value that is blocked has changed
nothing, but one that cannot be saved has been put into the document before, and stays there. Of
settings that are written one by one, those stay that were written until one of them could not be
saved, and that one too.
-/

namespace NatGateway.Mapping

open NatGateway.Configuration
open NatGateway.Yaml (Value)

variable {format : Format} {store final : Store} {error : ConfigurationError} {settings : Settings}

/-- The updates that write settings are put one after another. -/
theorem put_eq_putAll : settings.put format = putAll format settings.updates := rfl

/-- Every setting is written at a path in the section. -/
theorem exists_settingPath_of_mem {update : Update} (h : update ∈ settings.updates) :
    ∃ name, update.1 = settingPath name := by
  obtain ⟨entry, _, rfl⟩ := List.mem_map.1 h
  exact ⟨entry.1, rfl⟩

/-- If something is in the way of the settings, writing them has changed nothing. Otherwise it has
failed in saving one of them, and that one and those before it are in the document. -/
theorem document_of_put_eq_error (h : (settings.put format).runFrom store = (.error error, final)) :
    (∀ name, error = .blocked ↔ IsBlocked store.configuration.document (settingPath name)) ∧
    (error = .blocked → final.configuration.document = store.configuration.document) ∧
    (error ≠ .blocked → ∃ written, written <+: settings.updates ∧ written ≠ [] ∧
      final.configuration.document = run written store.configuration.document) := by
  rw [put_eq_putAll] at h
  obtain ⟨front, update, back, hupdates, hfree, houtcome⟩ :=
    exists_of_putAll_eq_error (areApart_updates settings) h
  obtain ⟨setting, hsetting⟩ :=
    exists_settingPath_of_mem (hupdates ▸ List.mem_append_right front List.mem_cons_self)
  rcases houtcome with ⟨rfl, hblocked, hdocument⟩ | ⟨herror, hopen, hdocument⟩
  · rw [hsetting] at hblocked
    -- Whatever is in the way of this setting was in the way of the first one.
    have hfront : front = [] := by
      refine List.eq_nil_iff_forall_not_mem.2 fun other hother => ?_
      obtain ⟨name, hname⟩ :=
        exists_settingPath_of_mem (hupdates ▸ List.mem_append_left (update :: back) hother)
      exact hfree other hother (hname ▸ isBlocked_settingPath_iff.1 hblocked)
    subst hfront
    exact ⟨fun name => iff_of_true rfl (isBlocked_settingPath_iff.1 hblocked), fun _ => hdocument,
      fun h => absurd rfl h⟩
  · rw [hsetting] at hopen
    refine ⟨fun name => iff_of_false herror (mt isBlocked_settingPath_iff.1 hopen),
      fun h => absurd h herror, fun _ => ⟨front ++ [update], ?_, ?_, hdocument⟩⟩
    · exact ⟨back, by rw [hupdates, List.append_assoc, List.singleton_append]⟩
    · exact List.append_ne_nil_of_right_ne_nil front (List.cons_ne_nil update [])

/-- What a write that fails leaves behind. If something that is no mapping is in the way of a value,
everything reads as before. If the value cannot be saved, for whatever reason, the configuration
reads as changed all the same. Settings that are written one by one leave everything as before if
something is in their way; otherwise one or more of the first of them have been written, and apart
from these everything reads as before. -/
theorem failed_writes (format : Format) (store : Store) :
    (∀ path value error final, (Store.put format path value).runFrom store = (.error error, final) →
      (error = .blocked ↔ IsBlocked store.configuration.document path) ∧
      (error = .blocked → ∀ other,
        find final.configuration.document other = find store.configuration.document other) ∧
      (error ≠ .blocked →
        IsChanged store.configuration.document path value final.configuration.document)) ∧
    ∀ (settings : Settings) error final,
      (settings.put format).runFrom store = (.error error, final) →
      (∀ name, error = .blocked ↔ IsBlocked store.configuration.document (settingPath name)) ∧
      (error = .blocked → ∀ other,
        find final.configuration.document other = find store.configuration.document other) ∧
      (error ≠ .blocked → ∃ written, written <+: settings.updates ∧ written ≠ [] ∧
        (∀ update ∈ written, find final.configuration.document update.1 = .ok update.2) ∧
        ∀ other, (∀ update ∈ written, Apart other update.1) →
          ReadsAs (find store.configuration.document other)
            (find final.configuration.document other)) := by
  constructor
  · intro path value error final h
    rcases put_eq_error_iff.1 h with ⟨rfl, hblocked, rfl⟩ | ⟨document, hupdate, rfl, hsave⟩
    · exact ⟨iff_of_true rfl hblocked, fun _ _ => rfl, fun h => absurd rfl h⟩
    · have herror : error ≠ .blocked := ne_blocked_of_save hsave
      have hfree : ¬ IsBlocked store.configuration.document path :=
        exists_update_iff.1 ⟨document, hupdate⟩
      exact ⟨iff_of_false herror hfree, fun h => absurd h herror, fun _ => isChanged_of_update hupdate⟩
  · intro settings error final h
    obtain ⟨hblocked, hkept, hwritten⟩ := document_of_put_eq_error h
    refine ⟨hblocked, fun herror other => by rw [hkept herror], fun herror => ?_⟩
    obtain ⟨written, hstart, hne, hdocument⟩ := hwritten herror
    have hapart : AreApart written := (areApart_updates settings).sublist hstart.sublist
    refine ⟨written, hstart, hne, fun update hmem => ?_, fun other hother => ?_⟩
    · obtain ⟨name, hname⟩ := exists_settingPath_of_mem (hstart.subset hmem)
      have hfree : ¬ IsBlocked store.configuration.document update.1 := by
        rw [hname]
        exact mt (hblocked name).2 herror
      rw [hdocument]
      exact find_run_of_mem hapart hmem hfree
    · rw [hdocument]
      exact readsAs_run hother

/-- A mapping with nothing but one entry, whose key is such a mapping. It cannot be written. -/
def nested : Value := .mapping [(.mapping [(.string "k", integer 1)], integer 2)]

/-- A document with that value in it. -/
def nestedDocument : Value := updated hostDocument ["x"] nested

/-- The value cannot be put into the loaded document. -/
theorem put_nested (system : System) :
    (Store.put yaml ["x"] nested).runFrom ⟨system, ⟨"cfg", hostDocument⟩⟩ =
      (.error .document, ⟨system, ⟨"cfg", nestedDocument⟩⟩) :=
  put_of_write_eq_none rfl (by decide +kernel)

/-- A value that is not saved is read in other letters, and of settings that are written after it the
first one is read although that write fails too. -/
theorem failed_writes_nested : ∃ unsaved final,
    (Store.put yaml ["x"] nested).runFrom ⟨hostSystem, ⟨"cfg", hostDocument⟩⟩ =
      (.error .document, unsaved) ∧
    find unsaved.configuration.document ["X"] = .ok nested ∧
    (wider.put yaml).runFrom unsaved = (.error .document, final) ∧
    find final.configuration.document (settingPath "search_wait_secs") = .ok (numberValue 5) := by
  obtain ⟨hvalues, _⟩ := failed_writes yaml ⟨hostSystem, ⟨"cfg", hostDocument⟩⟩
  obtain ⟨_, hsettings⟩ := failed_writes yaml ⟨hostSystem, ⟨"cfg", nestedDocument⟩⟩
  obtain ⟨_, _, hchanged⟩ := hvalues _ _ _ _ (put_nested hostSystem)
  obtain ⟨final, hfirst⟩ : ∃ final,
      (Store.put yaml (settingPath "search_wait_secs") (numberValue 5)).runFrom
        ⟨hostSystem, ⟨"cfg", nestedDocument⟩⟩ = (.error .document, final) :=
    ⟨_, put_of_write_eq_none rfl (by decide +kernel)⟩
  have hput : (wider.put yaml).runFrom ⟨hostSystem, ⟨"cfg", nestedDocument⟩⟩ =
      (.error .document, final) :=
    forM_eq_error_iff.2 ⟨[], _, _, _, rfl, rfl, hfirst⟩
  obtain ⟨_, _, hwritten⟩ := hsettings _ _ _ hput
  obtain ⟨written, hstart, hne, hfound, _⟩ := hwritten nofun
  refine ⟨_, final, put_nested hostSystem, (hchanged nofun).found ["X"] (by decide +kernel), hput, ?_⟩
  obtain ⟨first, rest, rfl⟩ := List.exists_cons_of_ne_nil hne
  obtain ⟨rfl, _⟩ := List.cons_prefix_cons.1 hstart
  exact hfound _ List.mem_cons_self

/-- In a configuration that has been loaded a value is read that was not there before although it could
not be put. -/
theorem find_put_failed : ∃ opened final,
    (load yaml "cfg").runFrom hostSystem = (.ok ⟨"cfg", hostDocument⟩, opened) ∧
    (Store.put yaml ["x"] nested).runFrom ⟨opened, ⟨"cfg", hostDocument⟩⟩ =
      (.error .document, final) ∧
    find hostDocument ["x"] = .error (.missing ["x"]) ∧
    find final.configuration.document ["x"] = .ok nested := by
  obtain ⟨opened, _, hload, _⟩ := exists_load_hostSystem
  exact ⟨opened, _, hload, put_nested opened, rfl, rfl⟩

end NatGateway.Mapping
