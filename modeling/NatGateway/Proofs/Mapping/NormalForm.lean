import Mathlib.Data.UInt
import NatGateway.Proofs.Configuration.Setters
import NatGateway.Proofs.Mapping.Duration
import NatGateway.Proofs.Mapping.FailedWrites

/-!
# The normal form of settings

What is left of settings when they have been written into a configuration and are read from it again:
whole seconds or milliseconds, numbers within their bounds, and a description. It depends on the settings
alone and not on what was there before. Settings in this form are read as they were written, so writing
what has been read changes nothing, whether the writing succeeds or fails on its way.
-/

namespace NatGateway.Mapping

open NatGateway.Configuration
open NatGateway.Yaml (Value)

namespace ExactSettings

variable {settings : ExactSettings} {format : Format} {store final : Store} {document : Value}

/-- Whether all times are less than `2 ^ 64` milliseconds. -/
structure IsShort (settings : ExactSettings) : Prop where
  searchWait : settings.searchWait.milliseconds < Nat.pow 2 64
  descriptionTimeout : settings.descriptionTimeout.milliseconds < Nat.pow 2 64
  soapTimeout : settings.soapTimeout.milliseconds < Nat.pow 2 64
  retryBackoff : settings.retryBackoff.milliseconds < Nat.pow 2 64
  fallbackGrace : settings.fallbackGrace.milliseconds < Nat.pow 2 64

/-- The normal form of settings. -/
def normal (settings : ExactSettings) : ExactSettings where
  searchWait := .ofSeconds (max settings.searchWait.seconds 1)
  multicastTtl := min settings.multicastTtl 255
  descriptionTimeout := settings.descriptionTimeout.floor
  soapTimeout := settings.soapTimeout.floor
  attempts := max settings.attempts 1
  retryBackoff := settings.retryBackoff.floor
  fallbackGrace := settings.fallbackGrace.floor
  description := if settings.description = "" then standard.description else settings.description

/-- Whether settings are in normal form. -/
structure IsNormal (settings : ExactSettings) : Prop where
  searchWait : 1 ≤ settings.searchWait.seconds ∧ settings.searchWait.nanoseconds = 0
  multicastTtl : settings.multicastTtl ≤ 255
  descriptionTimeout : 1000000 ∣ settings.descriptionTimeout.nanoseconds
  soapTimeout : 1000000 ∣ settings.soapTimeout.nanoseconds
  attempts : 1 ≤ settings.attempts
  retryBackoff : 1000000 ∣ settings.retryBackoff.nanoseconds
  fallbackGrace : 1000000 ∣ settings.fallbackGrace.nanoseconds
  description : settings.description ≠ ""

/-- The normal form is in normal form. -/
theorem isNormal_normal (settings : ExactSettings) : settings.normal.IsNormal where
  searchWait := ⟨Nat.le_max_right _ 1, rfl⟩
  multicastTtl := by
    rw [UInt32.le_iff_toNat_le, normal, UInt32.toNat_min]
    exact Nat.min_le_right _ _
  descriptionTimeout := settings.descriptionTimeout.dvd_floor
  soapTimeout := settings.soapTimeout.dvd_floor
  attempts := by
    rw [UInt32.le_iff_toNat_le, normal, UInt32.toNat_max]
    exact Nat.le_max_right _ _
  retryBackoff := settings.retryBackoff.dvd_floor
  fallbackGrace := settings.fallbackGrace.dvd_floor
  description := by
    rw [normal]
    split
    · exact (by decide : standard.description ≠ "")
    · assumption

/-- Settings in normal form are their own normal form. -/
theorem IsNormal.normal_eq (h : settings.IsNormal) : settings.normal = settings := by
  obtain ⟨hone, hnone⟩ := h.searchWait
  have hwait : Duration.ofSeconds (max settings.searchWait.seconds 1) = settings.searchWait := by
    rw [Nat.max_eq_left hone, Duration.ofSeconds_seconds hnone]
  have httl : min settings.multicastTtl 255 = settings.multicastTtl := by
    rw [← UInt32.toNat_inj, UInt32.toNat_min]
    exact Nat.min_eq_left (UInt32.le_iff_toNat_le.1 h.multicastTtl)
  have hattempts : max settings.attempts 1 = settings.attempts := by
    rw [← UInt32.toNat_inj, UInt32.toNat_max]
    exact Nat.max_eq_left (UInt32.le_iff_toNat_le.1 h.attempts)
  rw [normal, hwait, httl, hattempts, if_neg h.description, Duration.floor_eq_self h.descriptionTimeout,
    Duration.floor_eq_self h.soapTimeout, Duration.floor_eq_self h.retryBackoff,
    Duration.floor_eq_self h.fallbackGrace]

/-- The normal form has short times too. -/
theorem IsShort.normal (h : settings.IsShort) : settings.normal.IsShort where
  searchWait := by
    have hshort := h.searchWait
    have hseconds := settings.searchWait.milliseconds_div
    rw [ExactSettings.normal, Duration.milliseconds_ofSeconds]
    simp only [Nat.pow_eq] at *
    omega
  descriptionTimeout := settings.descriptionTimeout.milliseconds_floor.trans_lt h.descriptionTimeout
  soapTimeout := settings.soapTimeout.milliseconds_floor.trans_lt h.soapTimeout
  retryBackoff := settings.retryBackoff.milliseconds_floor.trans_lt h.retryBackoff
  fallbackGrace := settings.fallbackGrace.milliseconds_floor.trans_lt h.fallbackGrace

/-- Settings in normal form are not changed by the form in which they are kept. -/
theorem IsNormal.exact_whole (h : settings.IsNormal) : settings.whole.exact = settings := by
  have hwait : settings.searchWait.floor = settings.searchWait :=
    Duration.floor_eq_self (h.searchWait.2 ▸ Nat.dvd_zero 1000000)
  simp only [Settings.exact, whole, Duration.ofMilliseconds_milliseconds, UInt32.ofNat_toNat, hwait,
    Duration.floor_eq_self h.descriptionTimeout, Duration.floor_eq_self h.soapTimeout,
    Duration.floor_eq_self h.retryBackoff, Duration.floor_eq_self h.fallbackGrace]

/-- Settings in normal form with short times are read as they were written. -/
theorem IsNormal.isRegular_whole (h : settings.IsNormal) (hshort : settings.IsShort) :
    settings.whole.IsRegular where
  searchWait := by
    obtain ⟨hone, hnone⟩ := h.searchWait
    have hwait := hshort.searchWait
    refine ⟨settings.searchWait.seconds, hone, ?_, ?_⟩
    · rw [Duration.milliseconds] at hwait
      omega
    · rw [whole, Duration.milliseconds, hnone, Nat.zero_div, Nat.add_zero]
  multicastTtl := UInt32.le_iff_toNat_le.1 h.multicastTtl
  descriptionTimeout := hshort.descriptionTimeout
  soapTimeout := hshort.soapTimeout
  attempts := ⟨UInt32.le_iff_toNat_le.1 h.attempts, settings.attempts.toNat_lt⟩
  retryBackoff := hshort.retryBackoff
  fallbackGrace := hshort.fallbackGrace
  description := by
    rw [Bool.eq_false_iff, ne_eq, String.isEmpty_iff]
    exact h.description

/-! ## Writing and reading -/

/-- From a document that holds what was written of settings their normal form is read. -/
theorem ofDocument_of_found (hshort : settings.IsShort)
    (hfound : ∀ update ∈ settings.whole.updates, find document update.1 = .ok update.2) :
    (Settings.ofDocument document).1 = settings.normal.whole := by
  have hnumber : ∀ (place : Nat) name number default,
      settings.whole.updates[place]? = some (settingPath name, numberValue number) →
      number < Nat.pow 2 64 → (readUnsigned document (settingPath name) default).1 = number :=
    fun place name number default hwrite hnumber =>
      readUnsigned_of_find (hfound _ (List.mem_of_getElem? hwrite)) hnumber
  have htime : ∀ (place : Nat) name (duration : Duration) default,
      settings.whole.updates[place]? = some (settingPath name, numberValue duration.milliseconds) →
      duration.milliseconds < Nat.pow 2 64 →
      (readUnsigned document (settingPath name) default).1 = duration.floor.milliseconds :=
    fun place name duration default hwrite hduration =>
      (hnumber place name _ default hwrite hduration).trans duration.milliseconds_floor.symm
  have hdescription : find document (settingPath "mapping_description") = .ok (.string settings.description) :=
    hfound _ (@List.mem_of_getElem? _ settings.whole.updates 7 _ rfl)
  rw [ofDocument_eq_readFrom]
  simp only [Settings.readFrom, whole, Settings.mk.injEq]
  refine ⟨?_, ?_, ?_, ?_, ?_, ?_, ?_, ?_⟩
  case refine_1 =>
    have hwait := hnumber 0 "search_wait_secs" (settings.searchWait.milliseconds / 1000)
      Settings.standard.searchSeconds rfl (Nat.lt_of_le_of_lt (Nat.div_le_self _ _) hshort.searchWait)
    rw [hwait, Duration.milliseconds_div, normal, Duration.milliseconds_ofSeconds]
  case refine_2 =>
    have hlt : settings.multicastTtl.toNat < Nat.pow 2 64 :=
      Nat.lt_trans settings.multicastTtl.toNat_lt (by decide)
    rw [hnumber 1 "multicast_ttl" settings.multicastTtl.toNat _ rfl hlt, normal, UInt32.toNat_min]
    rfl
  case refine_3 =>
    exact htime 2 "description_timeout_ms" settings.descriptionTimeout _ rfl hshort.descriptionTimeout
  case refine_4 => exact htime 3 "soap_timeout_ms" settings.soapTimeout _ rfl hshort.soapTimeout
  case refine_5 =>
    have hlt : settings.attempts.toNat < Nat.pow 2 32 := settings.attempts.toNat_lt
    rw [hnumber 4 "port_mapping_attempts" settings.attempts.toNat _ rfl (Nat.lt_trans hlt (by decide)),
      normal, UInt32.toNat_max, Nat.min_eq_left]
    · rfl
    · exact Nat.max_le.2 ⟨Nat.le_sub_one_of_lt hlt, by decide⟩
  case refine_6 => exact htime 5 "retry_backoff_ms" settings.retryBackoff _ rfl hshort.retryBackoff
  case refine_7 => exact htime 6 "fallback_grace_ms" settings.fallbackGrace _ rfl hshort.fallbackGrace
  case refine_8 =>
    rw [readText, hdescription, normal]
    simp only [String.isEmpty_iff]
    rfl

/-- Settings that have been written are found in the document, each at its path. -/
theorem find_of_put (h : (settings.put format).runFrom store = (.ok (), final)) :
    ∀ update ∈ settings.whole.updates, find final.configuration.document update.1 = .ok update.2 := by
  intro update hmem
  rw [put, put_eq_putAll] at h
  have hapart := areApart_updates settings.whole
  rw [document_of_putAll h]
  exact find_run_of_mem hapart hmem (not_isBlocked_of_putAll hapart h update hmem)

/-- Writing settings, whatever comes of it, writes some of the first of them or all. -/
theorem exists_document_of_put (settings : Settings) (format : Format) (store : Store) :
    ∃ count, ((settings.put format).runFrom store).2.configuration.document =
      run (settings.updates.take count) store.configuration.document := by
  rcases hput : (settings.put format).runFrom store with ⟨outcome, after⟩
  cases outcome with
  | ok value =>
    refine ⟨settings.updates.length, ?_⟩
    rw [List.take_length]
    exact document_of_putAll hput
  | error error =>
    obtain ⟨_, hblocked, hwritten⟩ := document_of_put_eq_error hput
    by_cases herror : error = .blocked
    · exact ⟨0, hblocked herror⟩
    · obtain ⟨written, hstart, _, hdocument⟩ := hwritten herror
      exact ⟨written.length, by rw [← List.prefix_iff_eq_take.1 hstart, hdocument]⟩

/-- Settings that are read as they are written are still read when some of them have been written
again. -/
theorem ofDocument_run_take {n : Settings} (hn : n.IsRegular) (hm : (Settings.ofDocument document).1 = n)
    (hfree : ∀ name, ¬ IsBlocked document (settingPath name)) (count : Nat) :
    (Settings.ofDocument (run (n.updates.take count) document)).1 = n := by
  have hmixed : ∀ seen, n.mixed n seen = n := by
    intro seen
    simp only [Settings.mixed, ite_self]
  have hcounts : (List.replicate 8 count).length = readPaths.length := List.length_replicate
  have hread := readFrom_metAfter hn hm hfree hcounts
  rwa [hmixed, metAfter_of_forall hcounts fun other hother => by rw [List.eq_of_mem_replicate hother],
    readFrom_documentIn] at hread

/-- Settings that have been written are read in their normal form, whatever the configuration held
before. Settings in that form come back as they were, and so do those that have been read, whether or not
writing them again succeeds. -/
theorem ofDocument_of_put (hshort : settings.IsShort)
    (h : (settings.put format).runFrom store = (.ok (), final)) :
    (ofDocument final.configuration.document).1 = settings.normal ∧
    (settings.IsNormal → (ofDocument final.configuration.document).1 = settings) ∧
    ∀ outcome again, (settings.normal.put format).runFrom final = (outcome, again) →
      (ofDocument again.configuration.document).1 = settings.normal := by
  have hnormal := isNormal_normal settings
  have hread : (Settings.ofDocument final.configuration.document).1 = settings.normal.whole :=
    ofDocument_of_found hshort (find_of_put h)
  have hexact : (ofDocument final.configuration.document).1 = settings.normal := by
    rw [ofDocument, hread, hnormal.exact_whole]
  refine ⟨hexact, fun hsame => hexact.trans hsame.normal_eq, fun outcome again hagain => ?_⟩
  have hfirst := find_of_put h _ (@List.mem_of_getElem? _ settings.whole.updates 0 _ rfl)
  have hfree : ∀ name, ¬ IsBlocked final.configuration.document (settingPath name) := fun name =>
    mt isBlocked_settingPath_iff.1 (not_isBlocked_of_find hfirst)
  obtain ⟨count, hcount⟩ := exists_document_of_put settings.normal.whole format final
  have hdocument : again.configuration.document =
      run (settings.normal.whole.updates.take count) final.configuration.document := by
    have hafter : ((settings.normal.put format).runFrom final).2 = again := by rw [hagain]
    rw [← hcount, ← hafter]
    rfl
  rw [ofDocument, hdocument, ofDocument_run_take (hnormal.isRegular_whole hshort.normal) hread hfree,
    hnormal.exact_whole]

/-- Settings with times that are no whole milliseconds, and with a number out of every bound. -/
def rough : ExactSettings where
  searchWait := ⟨0, 999999999, by decide⟩
  multicastTtl := 300
  descriptionTimeout := ⟨1, 500, by decide⟩
  soapTimeout := ⟨2, 1500000, by decide⟩
  attempts := 0
  retryBackoff := ⟨0, 999999, by decide⟩
  fallbackGrace := ⟨18446744073709551, 615999999, by decide⟩
  description := ""

/-- These settings are written into a loaded configuration, and every number comes back within its bounds;
a time that is one millisecond short of being too long does too. -/
theorem ofDocument_of_put_rough : ∃ opened final,
    (load yaml "cfg").runFrom hostSystem = (.ok ⟨"cfg", hostDocument⟩, opened) ∧
    rough.IsShort ∧ (rough.put yaml).runFrom ⟨opened, ⟨"cfg", hostDocument⟩⟩ = (.ok (), final) ∧
    (ofDocument final.configuration.document).1 =
      ⟨⟨1, 0, by decide⟩, 255, ⟨1, 0, by decide⟩, ⟨2, 1000000, by decide⟩, 1, ⟨0, 0, by decide⟩,
        ⟨18446744073709551, 615000000, by decide⟩, "pmonat"⟩ := by
  obtain ⟨opened, _, hload, hopened⟩ := exists_load_hostSystem
  have hshort : rough.IsShort := ⟨by decide, by decide, by decide, by decide, by decide⟩
  obtain ⟨document, hdocument⟩ : ∃ document,
      (updateAll rough.whole.updates hostDocument).toOption = some document :=
    Option.isSome_iff_exists.1 (by decide +kernel)
  rw [toOption_eq_some_iff] at hdocument
  have hwritable : ∀ front ∈ (stepsOf rough.whole.updates).inits,
      (yaml.write (run (front.filterMap Step.update?) hostDocument)).isSome := by
    decide +kernel
  obtain ⟨final, hrun, _⟩ : ∃ final,
      (Step.runAll yaml (stepsOf rough.whole.updates)).runFrom ⟨opened, ⟨"cfg", hostDocument⟩⟩ =
        (.ok (), final) ∧ final.configuration = ⟨"cfg", document⟩ :=
    exists_runAll hopened hdocument hwritable
  have hput : (rough.put yaml).runFrom ⟨opened, ⟨"cfg", hostDocument⟩⟩ = (.ok (), final) :=
    runAll_stepsOf_eq_ok_iff.1 hrun
  refine ⟨opened, final, hload, hshort, hput, (ofDocument_of_put hshort hput).1.trans ?_⟩
  decide +kernel

end ExactSettings

end NatGateway.Mapping
